import Mathlib.Data.List.Chain
import Propositional.Proofs.Text.Spacing
/-!
# Propositional.Proofs.Text.Gaps

What canonical spacing leaves between two characters.

The characters of a text that are not blank follow one another with **gaps** between them, which are
made of blanks or empty (`Text.GapAt`). A canonical **respacing** has the same characters without
blanks at the ends, and each gap is as it has to be (`Text.Respacing`). This says where every blank
of the respacing stands, so each text has one respacing, and it is the one that canonical spacing
finds (`respacing_tidy`, `Respacing.eq_tidy`).

A respacing is taken apart from the left: behind the first character stands its gap, and from the
next character on the text is a respacing of what stands there in the source (`Respacing.tail`).
-/

namespace Propositional.Text

variable {text source front blanks : Text} {k : Nat} {a b c : Char}

/-! ### Gaps -/

/-- Behind `k` characters that are not blank the text has `a` and as the next such character `b`,
and between the two there are the given blanks. -/
def GapAt (text : Text) (k : Nat) (a : Char) (blanks : Text) (b : Char) : Prop :=
  isBlank a = false ∧ isBlank b = false ∧ (∀ c ∈ blanks, isBlank c = true) ∧
    ∃ before after, text = before ++ a :: (blanks ++ b :: after) ∧ before.ink.length = k

/-- The first gap. -/
theorem gapAt_zero (ha : isBlank a = false) (hb : isBlank b = false)
    (hblanks : ∀ c ∈ blanks, isBlank c = true) (rest : Text) :
    GapAt (a :: (blanks ++ b :: rest)) 0 a blanks b :=
  ⟨ha, hb, hblanks, [], rest, rfl, rfl⟩

theorem exists_of_gapAt_zero (hc : isBlank c = false) (h : GapAt (c :: text) 0 a blanks b) :
    ∃ rest, text = blanks ++ b :: rest := by
  obtain ⟨-, -, -, before, after, htext, hbefore⟩ := h
  cases before with
  | nil => exact ⟨after, (List.cons.inj htext).2⟩
  | cons d before =>
      obtain ⟨rfl, -⟩ := List.cons.inj htext
      rw [ink_cons_of_not_isBlank hc] at hbefore
      cases hbefore

/-- A blank belongs to the gap before it, or to none. -/
theorem gapAt_cons_of_isBlank (hc : isBlank c = true) :
    GapAt (c :: text) k a blanks b ↔ GapAt text k a blanks b := by
  constructor
  · rintro ⟨ha, hb, hblanks, before, after, htext, rfl⟩
    cases before with
    | nil =>
        obtain ⟨rfl, -⟩ := List.cons.inj htext
        exact absurd ha (by simp [hc])
    | cons d before =>
        obtain ⟨rfl, hrest⟩ := List.cons.inj htext
        exact ⟨ha, hb, hblanks, before, after, hrest, by rw [ink_cons_of_isBlank hc]⟩
  · rintro ⟨ha, hb, hblanks, before, after, rfl, rfl⟩
    exact ⟨ha, hb, hblanks, c :: before, after, rfl, by rw [ink_cons_of_isBlank hc]⟩

theorem gapAt_append_of_blank (hfront : ∀ c ∈ front, isBlank c = true) :
    GapAt (front ++ text) k a blanks b ↔ GapAt text k a blanks b := by
  induction front with
  | nil => exact Iff.rfl
  | cons c front ih =>
      rw [List.cons_append, gapAt_cons_of_isBlank (hfront c List.mem_cons_self)]
      exact ih fun d hd => hfront d (List.mem_cons_of_mem c hd)

/-- Behind the first character the gaps are those of the rest. -/
theorem gapAt_cons_succ (hc : isBlank c = false) :
    GapAt (c :: text) (k + 1) a blanks b ↔ GapAt text k a blanks b := by
  constructor
  · rintro ⟨ha, hb, hblanks, before, after, htext, hbefore⟩
    cases before with
    | nil => cases hbefore
    | cons d before =>
        obtain ⟨rfl, hrest⟩ := List.cons.inj htext
        rw [ink_cons_of_not_isBlank hc] at hbefore
        exact ⟨ha, hb, hblanks, before, after, hrest, Nat.succ.inj hbefore⟩
  · rintro ⟨ha, hb, hblanks, before, after, rfl, rfl⟩
    exact ⟨ha, hb, hblanks, c :: before, after, rfl, by rw [ink_cons_of_not_isBlank hc]; rfl⟩

/-- What canonical spacing makes of the blanks behind a character: one space if there are any,
except behind a negation sign. -/
def narrowed (a : Char) (blanks : Text) : Text :=
  if blanks ≠ [] ∧ a ≠ Operator.not.symbol then [' '] else []

theorem isBlank_of_mem_narrowed : ∀ c ∈ narrowed a blanks, isBlank c = true := by
  unfold narrowed
  split <;> simp

theorem tidyFrom_narrowed (hb : isBlank b = false) (hblanks : ∀ c ∈ blanks, isBlank c = true)
    (rest : Text) :
    tidyFrom (some a) false (blanks ++ b :: rest) =
      narrowed a blanks ++ b :: tidyFrom (some b) false rest := by
  have hgap : gap (if blanks = [] then false else keepsGap (some a)) = narrowed a blanks := by
    by_cases hnil : blanks = [] <;> by_cases hsign : a = Operator.not.symbol <;>
      simp [narrowed, keepsGap, gap, hnil, hsign]
  rw [tidyFrom_append_of_blank hblanks, tidyFrom_cons_of_not_isBlank hb, hgap]

/-- Spacing narrows each gap. -/
theorem gapAt_tidy (h : GapAt text k a blanks b) : GapAt text.tidy k a (narrowed a blanks) b := by
  obtain ⟨ha, hb, hblanks, before, after, rfl, rfl⟩ := h
  obtain ⟨last, due, hrest⟩ := tidyFrom_append_state before none false
  refine ⟨ha, hb, isBlank_of_mem_narrowed, before.tidy ++ gap due, tidyFrom (some b) false after,
    ?_, ?_⟩
  · rw [tidy, hrest, tidyFrom_cons_of_not_isBlank ha, tidyFrom_narrowed hb hblanks,
      List.append_assoc, tidy]
  · rw [ink_append, ink_of_blank isBlank_of_mem_gap, List.append_nil, ink_tidy]

/-! ### Ends -/

theorem tidy_append_of_blank_before (hfront : ∀ c ∈ front, isBlank c = true)
    (hb : isBlank b = false) (rest : Text) :
    (front ++ b :: rest).tidy = b :: tidyFrom (some b) false rest := by
  rw [tidy, tidyFrom_append_of_blank hfront, keepsGap, ite_self, tidyFrom_cons_of_not_isBlank hb,
    gap_false, List.nil_append]

theorem head?_tidy (text : Text) : text.tidy.head?.any isBlank = false := by
  induction text with
  | nil => rfl
  | cons c text ih =>
      cases hc : isBlank c with
      | true => rwa [tidy, tidyFrom_cons_of_isBlank hc]
      | false => simp [tidy, tidyFrom_cons_of_not_isBlank hc, hc]

theorem getLast?_tidyFrom (last : Option Char) (due : Bool) (text : Text) :
    (tidyFrom last due text).getLast?.any isBlank = false := by
  induction text generalizing last due with
  | nil => rfl
  | cons c text ih =>
      cases hc : isBlank c with
      | true => rw [tidyFrom_cons_of_isBlank hc, ih]
      | false =>
          rw [tidyFrom_cons_of_not_isBlank hc,
            List.getLast?_append_of_ne_nil _ (List.cons_ne_nil _ _), List.getLast?_cons]
          have hrest := ih (some c) false
          cases hlast : (tidyFrom (some c) false text).getLast? with
          | none => simpa using hc
          | some d => simpa [hlast] using hrest

/-! ### Respacings -/

/-- The text has the characters of the source that are not blank, no blanks at its ends, and between
two of the characters what canonical spacing makes of the source's blanks there. -/
structure Respacing (source text : Text) : Prop where
  sameInk : text.ink = source.ink
  begins : text.head?.any isBlank = false
  ends : text.getLast?.any isBlank = false
  gaps : ∀ k a blanks b, source.GapAt k a blanks b → text.GapAt k a (narrowed a blanks) b

theorem respacing_tidy (text : Text) : Respacing text text.tidy :=
  ⟨ink_tidy text, head?_tidy text, getLast?_tidyFrom none false text, fun _ _ _ _ => gapAt_tidy⟩

/-- Behind blanks stands the first character that is none. -/
theorem ink_eq_cons_iff {rest : Text} :
    text.ink = b :: rest ↔
      ∃ (front after : Text), text = front ++ b :: after ∧ (∀ c ∈ front, isBlank c = true) ∧
        isBlank b = false ∧ after.ink = rest := by
  simp [ink, List.filter_eq_cons_iff]

/-- Blanks at the beginning of the source do not matter. -/
theorem Respacing.of_blank_before (hfront : ∀ c ∈ front, isBlank c = true)
    (h : Respacing (front ++ source) text) : Respacing source text where
  sameInk := by rw [h.sameInk, ink_append, ink_of_blank hfront, List.nil_append]
  begins := h.begins
  ends := h.ends
  gaps := fun k a blanks b hgap => h.gaps k a blanks b ((gapAt_append_of_blank hfront).2 hgap)

/-- Behind the first character stands its gap, and from the next character on the text is a
respacing of what stands there in the source. -/
theorem Respacing.tail (ha : isBlank a = false) (hb : isBlank b = false)
    (hblanks : ∀ c ∈ blanks, isBlank c = true)
    (h : Respacing (a :: (blanks ++ b :: source)) (a :: text)) :
    ∃ rest, text = narrowed a blanks ++ b :: rest ∧ Respacing (b :: source) (b :: rest) := by
  have hgap := h.gaps 0 a blanks b (gapAt_zero ha hb hblanks source)
  obtain ⟨rest, rfl⟩ := exists_of_gapAt_zero ha hgap
  refine ⟨rest, rfl, ?_, by simp [hb], ?_, ?_⟩
  · have hink := h.sameInk
    rw [ink_cons_of_not_isBlank ha, ink_cons_of_not_isBlank ha, ink_append, ink_append,
      ink_of_blank hblanks, ink_of_blank isBlank_of_mem_narrowed] at hink
    exact (List.cons.inj hink).2
  · have hends := h.ends
    rwa [← List.cons_append, List.getLast?_append_of_ne_nil _ (List.cons_ne_nil _ _)] at hends
  · intro k p between q hbetween
    have hsource := (gapAt_cons_succ ha).2 ((gapAt_append_of_blank hblanks).2 hbetween)
    have htext := h.gaps (k + 1) p between q hsource
    exact (gapAt_append_of_blank isBlank_of_mem_narrowed).1 ((gapAt_cons_succ ha).1 htext)

/-- A text that begins with no blank has no blanks before a part of it. -/
theorem eq_nil_of_begins {rest : Text} (hfront : ∀ c ∈ front, isBlank c = true)
    (h : (front ++ rest).head?.any isBlank = false) : front = [] := by
  cases front with
  | nil => rfl
  | cons c front =>
      have hc : isBlank c = false := h
      rw [hfront c List.mem_cons_self] at hc
      cases hc

/-- Nothing is left to choose behind a character that begins the source. -/
theorem Respacing.eq_tidyFrom (ha : isBlank a = false) (h : Respacing (a :: source) (a :: text)) :
    text = tidyFrom (some a) false source := by
  -- The induction is on the characters of the source that are not blank.
  generalize hletters : source.ink = letters
  induction letters generalizing a source text with
  | nil =>
      have hsource := ink_eq_nil_iff.1 hletters
      have hink := h.sameInk
      rw [ink_cons_of_not_isBlank ha, ink_cons_of_not_isBlank ha, hletters] at hink
      have htext := ink_eq_nil_iff.1 (List.cons.inj hink).2
      rw [tidyFrom_of_blank hsource]
      by_contra hne
      have hends := h.ends
      rw [List.getLast?_cons_of_ne_nil hne, any_getLast?_of_forall hne htext] at hends
      cases hends
  | cons b letters ih =>
      obtain ⟨blanks, source, rfl, hblanks, hb, hrest⟩ := ink_eq_cons_iff.1 hletters
      obtain ⟨text, rfl, htail⟩ := h.tail ha hb hblanks
      rw [tidyFrom_narrowed hb hblanks, ih hb htail hrest]

/-- A text has one respacing. -/
theorem Respacing.eq_tidy (h : Respacing source text) : source.tidy = text := by
  cases hletters : source.ink with
  | nil =>
      have htext := ink_eq_nil_iff.1 (h.sameInk.trans hletters)
      have hbegins : (text ++ []).head?.any isBlank = false := by
        rw [List.append_nil, h.begins]
      rw [tidy, tidyFrom_of_blank (ink_eq_nil_iff.1 hletters), eq_nil_of_begins htext hbegins]
  | cons b letters =>
      obtain ⟨front, source, rfl, hfront, hb, -⟩ := ink_eq_cons_iff.1 hletters
      obtain ⟨before, text, rfl, hbefore, -, -⟩ := ink_eq_cons_iff.1 (h.sameInk.trans hletters)
      obtain rfl := eq_nil_of_begins hbefore h.begins
      rw [tidy_append_of_blank_before hfront hb, (h.of_blank_before hfront).eq_tidyFrom hb,
        List.nil_append]

/-! ### Blanks of a spaced text -/

/-- Behind `a` there may stand `b` in a spaced text: if it is a blank, then it is a space, and `a`
is neither a blank nor a negation sign. -/
def MayFollow (a b : Char) : Prop :=
  isBlank b = true → b = ' ' ∧ isBlank a = false ∧ a ≠ Operator.not.symbol

theorem mayFollow_of_not_isBlank (hb : isBlank b = false) : MayFollow a b := by
  intro h
  rw [hb] at h
  cases h

theorem isChain_tidyFrom (ha : isBlank a = false) {due : Bool}
    (hdue : due = true → a ≠ Operator.not.symbol) (text : Text) :
    List.IsChain MayFollow (a :: tidyFrom (some a) due text) := by
  induction text generalizing a due with
  | nil => exact List.isChain_singleton a
  | cons c text ih =>
      cases hc : isBlank c with
      | true =>
          rw [tidyFrom_cons_of_isBlank hc]
          exact ih ha bne_iff_ne.1
      | false =>
          have hrest : List.IsChain MayFollow (c :: tidyFrom (some c) false text) :=
            ih hc (by simp)
          rw [tidyFrom_cons_of_not_isBlank hc]
          cases due with
          | false =>
              exact List.isChain_cons_cons.2 ⟨mayFollow_of_not_isBlank hc, hrest⟩
          | true =>
              refine List.isChain_cons_cons.2 ⟨fun _ => ⟨rfl, ha, hdue rfl⟩, ?_⟩
              exact List.isChain_cons_cons.2 ⟨mayFollow_of_not_isBlank hc, hrest⟩

theorem isChain_tidy (text : Text) : List.IsChain MayFollow text.tidy := by
  induction text with
  | nil => exact List.isChain_nil
  | cons c text ih =>
      cases hc : isBlank c with
      | true => rwa [tidy, tidyFrom_cons_of_isBlank hc]
      | false =>
          rw [tidy, tidyFrom_cons_of_not_isBlank hc]
          exact isChain_tidyFrom hc (by simp) text

theorem mayFollow_of_pair (h : [a, b] <:+: text.tidy) : MayFollow a b := by
  have hpair : List.IsChain MayFollow [a, b] := List.IsChain.infix (isChain_tidy text) h
  exact (List.isChain_cons_cons.1 hpair).1

/-- A blank of a spaced text has a character before it. -/
theorem eq_space_of_mem_tidy (h : c ∈ text.tidy) (hc : isBlank c = true) : c = ' ' := by
  obtain ⟨before, after, htext⟩ := List.append_of_mem h
  rcases List.eq_nil_or_concat before with rfl | ⟨front, a, rfl⟩
  · have hhead := head?_tidy text
    rw [htext] at hhead
    simp [hc] at hhead
  · have hpair : [a, c] <:+: text.tidy := ⟨front, after, by simp [htext]⟩
    exact (mayFollow_of_pair hpair hc).1

/-- Canonical spacing finds the only respacing of a text. In it there are no blanks but single
spaces, none of them behind a negation sign, and spacing it again changes nothing. -/
theorem tidy_determined :
    (∀ source text : Text, source.tidy = text ↔ Respacing source text) ∧
    ∀ text : Text,
      (∀ c ∈ text.tidy, isBlank c = true → c = ' ') ∧
      ¬ [' ', ' '] <:+: text.tidy ∧
      (∀ c, isBlank c = true → ¬ [Operator.not.symbol, c] <:+: text.tidy) ∧
      text.tidy.tidy = text.tidy := by
  refine ⟨fun source text => ⟨?_, Respacing.eq_tidy⟩, ?_⟩
  · rintro rfl
    exact respacing_tidy source
  · intro text
    refine ⟨fun c => eq_space_of_mem_tidy, fun h => ?_, fun c hc h => ?_, tidy_tidy text⟩
    · have hspace := (mayFollow_of_pair h isBlank_space).2.1
      rw [isBlank_space] at hspace
      cases hspace
    · exact (mayFollow_of_pair h hc).2.2 rfl

/-- Between `p` and `∧` a space remains of a space and a line break, and behind the negation sign
nothing of a line break. -/
theorem tidy_determined_line_breaks :
    let source : Text := ['\n', 'p', ' ', '\n', '∧', '¬', '\n', 'q', ' ']
    let text : Text := ['p', ' ', '∧', '¬', 'q']
    source.tidy = text ∧ text.GapAt 0 'p' [' '] '∧' ∧ text.GapAt 2 '¬' [] 'q' ∧
      (∀ c ∈ text, isBlank c = true → c = ' ') ∧ text.tidy = text := by
  intro source text
  obtain ⟨honly, hspaced⟩ := tidy_determined
  have htext : source.tidy = text := by decide
  have hgaps := ((honly source text).1 htext).gaps
  have hfirst : source.GapAt 0 'p' [' ', '\n'] '∧' :=
    (gapAt_cons_of_isBlank isBlank_newline).2 (gapAt_zero (by decide) (by decide) (by simp) _)
  have hlast : source.GapAt 2 '¬' ['\n'] 'q' :=
    ⟨by decide, by decide, by simp, ['\n', 'p', ' ', '\n', '∧'], [' '], rfl, by decide⟩
  obtain ⟨hblank, -, -, hagain⟩ := htext ▸ hspaced source
  exact ⟨htext, hgaps _ _ _ _ hfirst, hgaps _ _ _ _ hlast, hblank, hagain⟩

end Propositional.Text
