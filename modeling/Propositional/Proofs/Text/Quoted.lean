import Propositional.Proofs.Text.Spelling
import Propositional.Text.Quoted
/-!
# Propositional.Proofs.Text.Quoted

A quoted text reads back.

The escapes of two characters are equal or differ before either ends (`escape_append_inj`), and none
begins with a quote. So a quoted text ends at its closing quote whatever follows it, and tells the
text that it quotes (`quoted_append_inj`).
-/

namespace Propositional.Text

/-! ### Numbers -/

/-- A run of characters of a class ends where the class ends. -/
theorem run_append_inj {p : Char → Bool} {w w' rest rest' : Text} (hw : ∀ c ∈ w, p c = true)
    (hw' : ∀ c ∈ w', p c = true) (hrest : rest.head?.any p = false)
    (hrest' : rest'.head?.any p = false) (h : w ++ rest = w' ++ rest') :
    w = w' ∧ rest = rest' := by
  constructor
  · rw [← takeWhile_run hw hrest, h, takeWhile_run hw' hrest']
  · rw [← dropWhile_run hw hrest, h, dropWhile_run hw' hrest']

/-- Up to base 16 no two digits are written alike. -/
theorem digitChar_inj {m n : Nat} (hm : m < 16) (hn : n < 16)
    (h : Nat.digitChar m = Nat.digitChar n) : m = n := by
  have table : ∀ m < 16, ∀ n < 16, Nat.digitChar m = Nat.digitChar n → m = n := by decide
  exact table m hm n hn h

theorem exists_of_mem_toDigits {b n : Nat} {c : Char} (hb : 1 < b) (h : c ∈ Nat.toDigits b n) :
    ∃ d, c = Nat.digitChar d := by
  induction n using Nat.strongRecOn with
  | ind n ih =>
      rw [Nat.toDigits_eq_if hb] at h
      by_cases hlt : n < b
      · rw [if_pos hlt] at h
        exact ⟨n, List.mem_singleton.1 h⟩
      · rw [if_neg hlt] at h
        have hdiv : n / b < n := Nat.div_lt_self (by omega) hb
        rcases List.mem_append.1 h with h | h
        · exact ih (n / b) hdiv h
        · exact ⟨n % b, List.mem_singleton.1 h⟩

/-- Up to base 16 no two numbers are written alike. -/
theorem toDigits_inj {b m n : Nat} (hb : 1 < b) (hb' : b ≤ 16)
    (h : Nat.toDigits b m = Nat.toDigits b n) : m = n := by
  have hpos : 0 < b := Nat.lt_trans Nat.zero_lt_one hb
  induction m using Nat.strongRecOn generalizing n with
  | ind m ih =>
      rw [Nat.toDigits_eq_if hb, Nat.toDigits_eq_if (n := n) hb] at h
      by_cases hm : m < b <;> by_cases hn : n < b
      · rw [if_pos hm, if_pos hn, List.singleton_inj] at h
        exact digitChar_inj (Nat.lt_of_lt_of_le hm hb') (Nat.lt_of_lt_of_le hn hb') h
      · rw [if_pos hm, if_neg hn, ← List.nil_append [m.digitChar], List.append_singleton_inj] at h
        exact absurd h.1.symm Nat.toDigits_ne_nil
      · rw [if_neg hm, if_pos hn, ← List.nil_append [n.digitChar], List.append_singleton_inj] at h
        exact absurd h.1 Nat.toDigits_ne_nil
      · rw [if_neg hm, if_neg hn, List.append_singleton_inj] at h
        obtain ⟨hdiv, hmod⟩ := h
        have hquotient := ih (m / b) (Nat.div_lt_self (by omega) hb) hdiv
        have hdigit := digitChar_inj (Nat.lt_of_lt_of_le (Nat.mod_lt m hpos) hb')
          (Nat.lt_of_lt_of_le (Nat.mod_lt n hpos) hb') hmod
        rw [← Nat.div_add_mod m b, ← Nat.div_add_mod n b, hquotient, hdigit]

/-- A number ends before a character that is no digit. -/
theorem toDigits_append_inj {b m n : Nat} {close : Char} {rest rest' : Text} (hb : 1 < b)
    (hb' : b ≤ 16) (hclose : ∀ d, Nat.digitChar d ≠ close)
    (h : Nat.toDigits b m ++ close :: rest = Nat.toDigits b n ++ close :: rest') :
    m = n ∧ rest = rest' := by
  have hdigits : ∀ k, ∀ c ∈ Nat.toDigits b k, (c != close) = true := by
    intro k c hc
    obtain ⟨d, rfl⟩ := exists_of_mem_toDigits hb hc
    exact bne_iff_ne.2 (hclose d)
  obtain ⟨hnumber, hrest⟩ := run_append_inj (hdigits m) (hdigits n) (by simp) (by simp) h
  exact ⟨toDigits_inj hb hb' hnumber, (List.cons.inj hrest).2⟩

/-! ### Escapes -/

/-- What an escape is made of: a backslash and a letter of the table, a code point in hexadecimal,
or a character that is neither a quote nor a backslash. -/
theorem escape_cases (c : Char) :
    (∃ letter, (c, letter) ∈ shortEscapes ∧ escape c = ['\\', letter]) ∨
      escape c = '\\' :: 'u' :: '{' :: (Nat.toDigits 16 c.toNat ++ ['}']) ∨
      escape c = [c] ∧ c ≠ '\\' ∧ c ≠ '"' := by
  rw [escape]
  cases hlookup : shortEscapes.lookup c with
  | some letter =>
      obtain ⟨before, after, htable, -⟩ := List.lookup_eq_some_iff.1 hlookup
      exact .inl ⟨letter, htable ▸ List.mem_append_right before List.mem_cons_self, rfl⟩
  | none =>
      by_cases hc : isHidden c = true
      · exact .inr (.inl (if_pos hc))
      · have hbackslash : c ≠ '\\' := by
          intro heq
          subst heq
          cases hlookup
        have hquote : c ≠ '"' := by
          intro heq
          subst heq
          cases hlookup
        exact .inr (.inr ⟨if_neg hc, hbackslash, hquote⟩)

/-- No escape begins with a quote. -/
theorem head?_escape (c : Char) (rest : Text) : (escape c ++ rest).head? ≠ some '"' := by
  rcases escape_cases c with ⟨letter, -, h⟩ | h | ⟨h, -, hne⟩
  · simp [h]
  · simp [h]
  · simpa [h] using hne

theorem short_inj {c d letter : Char} (hc : (c, letter) ∈ shortEscapes)
    (hd : (d, letter) ∈ shortEscapes) : c = d := by
  have table : ∀ p ∈ shortEscapes, ∀ q ∈ shortEscapes, p.2 = q.2 → p.1 = q.1 := by decide
  exact table _ hc _ hd rfl

theorem ne_of_short {c letter : Char} (hc : (c, letter) ∈ shortEscapes) : letter ≠ 'u' := by
  have table : ∀ p ∈ shortEscapes, p.2 ≠ 'u' := by decide
  exact table _ hc

/-- The escapes of two characters are equal or differ before either ends. -/
theorem escape_append_inj {c d : Char} {rest rest' : Text}
    (h : escape c ++ rest = escape d ++ rest') : c = d ∧ rest = rest' := by
  -- Behind a backslash stands the `u` of a code point or another letter, and so the kinds differ
  -- in the first two characters.
  rcases escape_cases c with ⟨x, hx, hc⟩ | hc | ⟨hc, hc', -⟩
  · rcases escape_cases d with ⟨y, hy, hd⟩ | hd | ⟨hd, hd', -⟩
    · rw [hc, hd] at h
      obtain ⟨-, htail⟩ := List.cons.inj h
      obtain ⟨rfl, hrest⟩ := List.cons.inj htail
      exact ⟨short_inj hx hy, hrest⟩
    · rw [hc, hd] at h
      obtain ⟨-, htail⟩ := List.cons.inj h
      exact absurd (List.cons.inj htail).1 (ne_of_short hx)
    · rw [hc, hd] at h
      exact absurd (List.cons.inj h).1.symm hd'
  · rcases escape_cases d with ⟨y, hy, hd⟩ | hd | ⟨hd, hd', -⟩
    · rw [hc, hd] at h
      obtain ⟨-, htail⟩ := List.cons.inj h
      exact absurd (List.cons.inj htail).1.symm (ne_of_short hy)
    · have hclose : ∀ n, Nat.digitChar n ≠ '}' := fun n => Nat.digitChar_ne '}' rfl
      simp only [hc, hd, List.cons_append, List.append_assoc, List.nil_append, List.cons.injEq,
        true_and] at h
      obtain ⟨hcode, hrest⟩ := toDigits_append_inj (by decide) (by decide) hclose h
      exact ⟨Char.toNat_inj.1 hcode, hrest⟩
    · rw [hc, hd] at h
      exact absurd (List.cons.inj h).1.symm hd'
  · rcases escape_cases d with ⟨y, hy, hd⟩ | hd | ⟨hd, hd', -⟩
    · rw [hc, hd] at h
      exact absurd (List.cons.inj h).1 hc'
    · rw [hc, hd] at h
      exact absurd (List.cons.inj h).1 hc'
    · rw [hc, hd] at h
      exact List.cons.inj h

/-! ### Quoted texts -/

theorem flatMap_escape_append_inj {a b rest rest' : Text}
    (h : a.flatMap escape ++ '"' :: rest = b.flatMap escape ++ '"' :: rest') :
    a = b ∧ rest = rest' := by
  induction a generalizing b with
  | nil =>
      cases b with
      | nil => exact ⟨rfl, (List.cons.inj h).2⟩
      | cons d b =>
          rw [List.flatMap_cons, List.append_assoc] at h
          have hhead := head?_escape d (b.flatMap escape ++ '"' :: rest')
          rw [← h] at hhead
          exact absurd rfl hhead
  | cons c a ih =>
      rw [List.flatMap_cons, List.append_assoc] at h
      cases b with
      | nil =>
          have hhead := head?_escape c (a.flatMap escape ++ '"' :: rest)
          rw [h] at hhead
          exact absurd rfl hhead
      | cons d b =>
          rw [List.flatMap_cons, List.append_assoc] at h
          obtain ⟨rfl, htail⟩ := escape_append_inj h
          obtain ⟨rfl, hrest⟩ := ih htail
          exact ⟨rfl, hrest⟩

/-- A quoted text ends at its closing quote, and tells the text that it quotes. -/
theorem quoted_append_inj {a b rest rest' : Text} (h : quoted a ++ rest = quoted b ++ rest') :
    a = b ∧ rest = rest' := by
  simp only [quoted, List.cons_append, List.append_assoc, List.nil_append, List.cons.injEq,
    true_and] at h
  exact flatMap_escape_append_inj h

end Propositional.Text
