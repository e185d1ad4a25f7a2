import Propositional.Proofs.Text.Spelling
import Propositional.Text.Spacing
/-!
# Propositional.Proofs.Text.Spacing

Canonical spacing and the spellings of operators.

Spacing separates what blanks separate, and brings together only what follows a negation sign. No
word and no mark does (`keepsGap_of_isWordChar`, `keepsGap_of_isMark`), so words and ASCII forms are
the same after spacing as before, and spacing a text before it is read is superfluous if the result
is spaced (`tidy_withSymbols_tidy`). In the same way the canonical spacing of a text written with
words does not depend on how the text was spaced (`tidy_withWords_tidy`), and spacing twice is
spacing once (`tidy_tidy`).

Where two texts differ in superfluous blanks only, they are spaced **alike** in every context
(`Text.Alike`).
-/

namespace Propositional

/-- The negation sign is no mark. -/
theorem keepsGap_of_isMark {c : Char} (h : isMark c = true) : keepsGap (some c) = true := by
  refine bne_iff_ne.2 ?_
  rintro rfl
  rw [Operator.isMark_symbol] at h
  cases h

/-- The negation sign is no word character. -/
theorem keepsGap_of_isWordChar {c : Char} (h : isWordChar c = true) :
    keepsGap (some c) = true :=
  bne_iff_ne.2 (Operator.not.symbol_ne_of_isWordChar h).symm

namespace Text

/-! ### What is spaced -/

/-- What holds together is copied as one. -/
theorem tidyFrom_append {w : Text} (hne : w ≠ []) (hw : ∀ c ∈ w, isBlank c = false)
    (last : Option Char) (due : Bool) (rest : Text) :
    tidyFrom last due (w ++ rest) = gap due ++ w ++ tidyFrom w.getLast? false rest := by
  induction w generalizing last due with
  | nil => exact absurd rfl hne
  | cons c w ih =>
      rw [List.cons_append, tidyFrom_cons_of_not_isBlank (hw c List.mem_cons_self)]
      cases w with
      | nil => simp
      | cons d w =>
          rw [ih (List.cons_ne_nil d w) (fun e he => hw e (List.mem_cons_of_mem c he))]
          simp

/-- A gap is kept as a space or belongs to the end. -/
theorem tidyFrom_due (last : Option Char) (hlast : keepsGap last = true) (text : Text) :
    tidyFrom last true text = [] ∨ ∃ rest, tidyFrom last true text = ' ' :: rest := by
  induction text with
  | nil => exact Or.inl rfl
  | cons c text ih =>
      cases hc : isBlank c with
      | true => rwa [tidyFrom_cons_of_isBlank hc, hlast]
      | false =>
          rw [tidyFrom_cons_of_not_isBlank hc]
          exact Or.inr ⟨_, rfl⟩

/-- Spacing does not join what follows to what was written, unless that is a negation sign. -/
theorem head?_tidyFrom {last : Option Char} (hlast : keepsGap last = true) {p : Char → Bool}
    (hp : ∀ c, isBlank c = true → p c = false) (text : Text) :
    (tidyFrom last false text).head?.any p = text.head?.any p := by
  cases text with
  | nil => rfl
  | cons c text =>
      cases hc : isBlank c with
      | true =>
          rw [tidyFrom_cons_of_isBlank hc, hlast]
          rcases tidyFrom_due last hlast text with hnil | ⟨rest, hspace⟩
          · simp [hnil, hp c hc]
          · simp [hspace, hp c hc, hp ' ' isBlank_space]
      | false => simp [tidyFrom_cons_of_not_isBlank hc]

/-- A character that is not blank differs from one that is. -/
theorem ne_of_isBlank {a c : Char} (ha : isBlank a = false) (hc : isBlank c = true) : a ≠ c := by
  rintro rfl
  rw [ha] at hc
  cases hc

theorem startsWord_tidyFrom {last : Option Char} (hlast : keepsGap last = true) (text : Text) :
    startsWord (tidyFrom last false text) = text.startsWord :=
  head?_tidyFrom hlast (fun _ => isWordChar_of_isBlank) text

/-- Two characters stand side by side in a text if they begin it or stand so in the rest. -/
theorem pair_infix_cons {a b c : Char} {text : Text} :
    [a, b] <:+: c :: text ↔ (a = c ∧ text.head? = some b) ∨ [a, b] <:+: text := by
  have hsingle : [b] <+: text ↔ text.head? = some b := by
    cases text with
    | nil => simp
    | cons d text => simp [List.cons_prefix_cons, eq_comm]
  rw [List.infix_cons_iff, List.cons_prefix_cons, hsingle]

theorem pair_infix_cons_of_ne {a b c : Char} (h : a ≠ c) {text : Text} :
    [a, b] <:+: c :: text ↔ [a, b] <:+: text := by
  rw [pair_infix_cons]
  exact or_iff_right fun hac => h hac.1

/-- Two neighbours of which the first is no negation sign were neighbours before, and remain so. -/
theorem pair_infix_tidyFrom {a b : Char} (ha : isBlank a = false) (hb : isBlank b = false)
    (hkeeps : keepsGap (some a) = true) (last : Option Char) (due : Bool) (text : Text) :
    [a, b] <:+: tidyFrom last due text ↔ [a, b] <:+: text := by
  have hneighbour : ∀ t, (tidyFrom (some a) false t).head? = some b ↔ t.head? = some b := by
    intro t
    have hblank : ∀ c, isBlank c = true → (c == b) = false := by
      intro c hc
      exact beq_eq_false_iff_ne.2 (ne_of_isBlank hb hc).symm
    have hany : ∀ o : Option Char, o = some b ↔ o.any (· == b) = true := by
      intro o
      cases o <;> simp
    rw [hany, hany, head?_tidyFrom hkeeps hblank]
  induction text generalizing last due with
  | nil => exact Iff.rfl
  | cons c text ih =>
      cases hc : isBlank c with
      | true =>
          rw [tidyFrom_cons_of_isBlank hc]
          exact (ih _ _).trans (pair_infix_cons_of_ne (ne_of_isBlank ha hc)).symm
      | false =>
          have hcons : [a, b] <:+: c :: tidyFrom (some c) false text ↔ [a, b] <:+: c :: text := by
            rw [pair_infix_cons, pair_infix_cons]
            refine or_congr (and_congr_right fun hac => ?_) (ih _ _)
            rw [← hac, hneighbour]
          rw [tidyFrom_cons_of_not_isBlank hc]
          cases due with
          | true => exact (pair_infix_cons_of_ne (ne_of_isBlank ha isBlank_space)).trans hcons
          | false => exact hcons

/-- Marks that stand together after spacing stood together before. -/
theorem prefix_of_prefix_tidyFrom {marks text : Text} (hmarks : ∀ c ∈ marks, isMark c = true)
    {last : Option Char} (hlast : keepsGap last = true)
    (h : marks <+: tidyFrom last false text) : marks <+: text := by
  induction text generalizing marks last with
  | nil => simpa using h
  | cons c text ih =>
      cases marks with
      | nil => exact List.nil_prefix
      | cons d marks =>
          have hd := hmarks d List.mem_cons_self
          have hmarks' : ∀ e ∈ marks, isMark e = true := fun e he =>
            hmarks e (List.mem_cons_of_mem d he)
          cases hc : isBlank c with
          | true =>
              have hspace : isMark ' ' = false := isMark_of_isBlank isBlank_space
              rw [tidyFrom_cons_of_isBlank hc, hlast] at h
              rcases tidyFrom_due last hlast text with hnil | ⟨rest, hrest⟩
              · simp [hnil] at h
              · rw [hrest, List.cons_prefix_cons] at h
                rw [h.1, hspace] at hd
                cases hd
          | false =>
              rw [tidyFrom_cons_of_not_isBlank hc] at h
              obtain ⟨rfl, htail⟩ := List.cons_prefix_cons.1 h
              exact List.cons_prefix_cons.2
                ⟨rfl, ih hmarks' (keepsGap_of_isMark hd) htail⟩

/-! ### Spacing twice -/

/-- What holds together is written behind the gap before it. A space that stands in the gap makes
one due again. -/
theorem tidyFrom_gap_append {w : Text} (hne : w ≠ []) (hw : ∀ c ∈ w, isBlank c = false)
    (last : Option Char) (due due' : Bool) (rest : Text) :
    tidyFrom last due' (gap due ++ (w ++ rest)) =
      gap (if due then keepsGap last else due') ++ w ++ tidyFrom w.getLast? false rest := by
  cases due with
  | false => exact tidyFrom_append hne hw last due' rest
  | true =>
      rw [gap_true, List.singleton_append, tidyFrom_cons_of_isBlank isBlank_space, if_pos rfl]
      exact tidyFrom_append hne hw last (keepsGap last) rest

/-- Behind a gap that the first spacing drops, a space is due in the second already, or none can
be, so the gap makes no difference to the second. -/
theorem tidyFrom_of_dropped {last last' : Option Char} {due' : Bool}
    (hdropped : keepsGap last = false → due' = keepsGap last') (text : Text) :
    tidyFrom last' (if keepsGap last then keepsGap last' else due') text =
      tidyFrom last' (keepsGap last') text := by
  cases hlast : keepsGap last with
  | true => rfl
  | false => rw [hdropped hlast, ite_self]

/-- What has been spaced does not change any more; only the last character and whether a space is
due matter for the rest. -/
theorem tidyFrom_append_state (text : Text) (last : Option Char) (due : Bool) :
    ∃ last' due', ∀ rest,
      tidyFrom last due (text ++ rest) = tidyFrom last due text ++ tidyFrom last' due' rest := by
  induction text generalizing last due with
  | nil => exact ⟨last, due, fun rest => rfl⟩
  | cons c text ih =>
      cases hc : isBlank c with
      | true =>
          obtain ⟨last', due', hrest⟩ := ih last (keepsGap last)
          refine ⟨last', due', fun rest => ?_⟩
          rw [List.cons_append, tidyFrom_cons_of_isBlank hc, hrest, tidyFrom_cons_of_isBlank hc]
      | false =>
          obtain ⟨last', due', hrest⟩ := ih (some c) false
          refine ⟨last', due', fun rest => ?_⟩
          rw [List.cons_append, tidyFrom_cons_of_not_isBlank hc, hrest,
            tidyFrom_cons_of_not_isBlank hc, List.append_assoc, List.cons_append]

/-- Of blanks, only whether there are any is remembered. -/
theorem tidyFrom_append_of_blank {blanks : Text} (hblanks : ∀ c ∈ blanks, isBlank c = true)
    (last : Option Char) (due : Bool) (rest : Text) :
    tidyFrom last due (blanks ++ rest) =
      tidyFrom last (if blanks = [] then due else keepsGap last) rest := by
  induction blanks generalizing due with
  | nil => rfl
  | cons c blanks ih =>
      have hblanks' : ∀ d ∈ blanks, isBlank d = true := fun d hd =>
        hblanks d (List.mem_cons_of_mem c hd)
      rw [List.cons_append, tidyFrom_cons_of_isBlank (hblanks c List.mem_cons_self), ih hblanks',
        ite_self, if_neg (List.cons_ne_nil c blanks)]

theorem tidyFrom_of_blank {blanks : Text} (hblanks : ∀ c ∈ blanks, isBlank c = true)
    (last : Option Char) (due : Bool) : tidyFrom last due blanks = [] := by
  rw [← List.append_nil blanks, tidyFrom_append_of_blank hblanks, tidyFrom_nil]

/-- Blanks at the end are trimmed. -/
theorem tidy_append_of_blank {gap : Text} (hgap : ∀ c ∈ gap, isBlank c = true) (text : Text) :
    (text ++ gap).tidy = text.tidy := by
  obtain ⟨last, due, hrest⟩ := tidyFrom_append_state text none false
  rw [tidy, hrest, tidyFrom_of_blank hgap, List.append_nil, tidy]

/-- Spacing before a translation of characters is superfluous if there is spacing after, as long as
blanks are kept and behind the translation of a negation sign a space is due wherever one can be. -/
theorem tidyFrom_flatMap_tidyFrom {g : Char → Text} (hblank : ∀ c, isBlank c = true → g c = [c])
    (hsign : ∀ last due, ∃ done last', ∀ rest,
      tidyFrom last due (g Operator.not.symbol ++ rest) =
        done ++ tidyFrom last' (keepsGap last') rest)
    (text : Text) {last last' : Option Char} {due due' : Bool}
    (hdropped : keepsGap last = false → due' = keepsGap last') :
    tidyFrom last' due' ((tidyFrom last due text).flatMap g) =
      tidyFrom last' (if due then keepsGap last' else due') (text.flatMap g) := by
  -- The first spacing decides on gaps by `last`, the second by `last'`. Where they disagree the
  -- first drops a gap, and `hdropped` says that the second does not miss it.
  induction text generalizing last last' due due' with
  | nil => rfl
  | cons c text ih =>
      cases hc : isBlank c with
      | true =>
          rw [tidyFrom_cons_of_isBlank hc, ih hdropped, tidyFrom_of_dropped hdropped,
            List.flatMap_cons, hblank c hc, List.singleton_append, tidyFrom_cons_of_isBlank hc]
      | false =>
          have hgap : ∀ rest, tidyFrom last' due' ((gap due ++ c :: rest).flatMap g) =
              tidyFrom last' (if due then keepsGap last' else due') (g c ++ rest.flatMap g) := by
            intro rest
            cases due with
            | false => rfl
            | true =>
                rw [gap_true, if_pos rfl, List.singleton_append, List.flatMap_cons,
                  hblank ' ' isBlank_space, List.singleton_append,
                  tidyFrom_cons_of_isBlank isBlank_space, List.flatMap_cons]
          rw [tidyFrom_cons_of_not_isBlank hc, hgap, List.flatMap_cons]
          by_cases hsymbol : c = Operator.not.symbol
          · obtain ⟨done, last'', hstep⟩ := hsign last' (if due then keepsGap last' else due')
            rw [hsymbol, hstep, hstep, ih fun _ => rfl]
            simp
          · obtain ⟨last'', due'', hstep⟩ :=
              tidyFrom_append_state (g c) last' (if due then keepsGap last' else due')
            have hkept : keepsGap (some c) = true := by simpa [keepsGap] using hsymbol
            rw [hstep, hstep, ih (by simp [hkept])]
            simp

/-- Canonical spacing stays as it is. -/
@[simp] theorem tidy_tidy (text : Text) : text.tidy.tidy = text.tidy := by
  have hsign : ∀ last due, ∃ done last', ∀ rest,
      tidyFrom last due ([Operator.not.symbol] ++ rest) =
        done ++ tidyFrom last' (keepsGap last') rest := by
    intro last due
    refine ⟨gap due ++ [Operator.not.symbol], some Operator.not.symbol, fun rest => ?_⟩
    rw [List.singleton_append, tidyFrom_cons_of_not_isBlank (Operator.isBlank_symbol .not)]
    simp [keepsGap]
  have htwice : tidyFrom none false ((tidyFrom none false text).flatMap fun c => [c]) =
      tidyFrom none false (text.flatMap fun c => [c]) :=
    tidyFrom_flatMap_tidyFrom (fun _ _ => rfl) hsign text Eq.symm
  rwa [List.flatMap_singleton', List.flatMap_singleton'] at htwice

/-- The spacing of a text written with words does not depend on how the text was spaced: the word
for a negation sign makes the gap that was dropped behind the sign. -/
@[simp] theorem tidy_withWords_tidy (text : Text) :
    text.tidy.withWords.tidy = text.withWords.tidy := by
  have hsign : ∀ last due, ∃ done last', ∀ rest,
      tidyFrom last due (writeWord Operator.not.symbol ++ rest) =
        done ++ tidyFrom last' (keepsGap last') rest := by
    intro last due
    obtain ⟨last', due', hrest⟩ := tidyFrom_append_state Operator.not.word last due
    refine ⟨tidyFrom last due Operator.not.word, last', fun rest => ?_⟩
    rw [writeWord_not, List.append_assoc, hrest, List.singleton_append,
      tidyFrom_cons_of_isBlank isBlank_space]
  exact tidyFrom_flatMap_tidyFrom (fun _ => writeWord_of_isBlank) hsign text Eq.symm

/-! ### Reading what is spaced -/

/-- A piece that holds together and is read as such a piece is passed whole: spacing goes on behind
the one as it does behind the other. -/
theorem tidyFrom_withSymbols_append {w r rest : Text} (hw : w ≠ [])
    (hwsolid : ∀ c ∈ w, isBlank c = false) (hr : r ≠ []) (hrsolid : ∀ c ∈ r, isBlank c = false)
    (hspaced : withSymbols (w ++ tidyFrom w.getLast? false rest) =
      r ++ withSymbols (tidyFrom w.getLast? false rest))
    (hread : withSymbols (w ++ rest) = r ++ withSymbols rest)
    (hrest : tidyFrom r.getLast? false (withSymbols (tidyFrom w.getLast? false rest)) =
      tidyFrom r.getLast? false (withSymbols rest))
    (last last' : Option Char) (due due' : Bool) :
    tidyFrom last' due' (withSymbols (tidyFrom last due (w ++ rest))) =
      tidyFrom last' (if due then keepsGap last' else due') (withSymbols (w ++ rest)) := by
  rw [tidyFrom_append hw hwsolid, List.append_assoc,
    withSymbols_append_of_blank isBlank_of_mem_gap, hspaced, tidyFrom_gap_append hr hrsolid, hrest,
    hread, tidyFrom_append hr hrsolid]

/-- Spacing before reading is superfluous if there is spacing after. -/
theorem tidyFrom_withSymbols_tidyFrom (text : Text) {last last' : Option Char} {due due' : Bool}
    (hdropped : keepsGap last = false → due' = keepsGap last') :
    tidyFrom last' due' (withSymbols (tidyFrom last due text)) =
      tidyFrom last' (if due then keepsGap last' else due') (withSymbols text) := by
  -- The gap behind a form or a word is not dropped, so both are read after spacing as before.
  induction text using induction_spelling generalizing last last' due due' with
  | nil => simp
  | ascii o rest ih =>
      have hsolid : ∀ c ∈ o.ascii, isBlank c = false := fun c hc =>
        (plain_of_isMark (Operator.isMark_of_mem_ascii hc)).1
      have hkept : keepsGap o.ascii.getLast? = true := by
        rw [List.getLast?_eq_some_getLast o.ascii_ne_nil]
        exact keepsGap_of_isMark (Operator.isMark_of_mem_ascii (List.getLast_mem _))
      have hsymbol : ∀ c ∈ [o.symbol], isBlank c = false := by simp
      exact tidyFrom_withSymbols_append o.ascii_ne_nil hsolid (List.cons_ne_nil _ _) hsymbol
        (withSymbols_ascii o _) (withSymbols_ascii o rest) (ih (by simp [hkept])) ..
  | word w rest hne hw hrest ih =>
      have hsolid : ∀ c ∈ w, isBlank c = false := fun c hc => isBlank_of_isWordChar (hw c hc)
      have hkept : keepsGap w.getLast? = true := by
        rw [List.getLast?_eq_some_getLast hne]
        exact keepsGap_of_isWordChar (hw _ (List.getLast_mem hne))
      have hrest' : startsWord (tidyFrom w.getLast? false rest) = false := by
        rw [startsWord_tidyFrom hkept, hrest]
      exact tidyFrom_withSymbols_append hne hsolid (readWord_ne_nil hne)
        (isBlank_of_mem_readWord hw) (withSymbols_word hne hw hrest')
        (withSymbols_word hne hw hrest) (ih (by simp [hkept])) ..
  | other c rest hword hascii ih =>
      cases hc : isBlank c with
      | true =>
          rw [tidyFrom_cons_of_isBlank hc, ih hdropped, tidyFrom_of_dropped hdropped,
            withSymbols_of_isBlank hc, tidyFrom_cons_of_isBlank hc]
      | false =>
          have hascii' : Operator.ofAscii? (c :: tidyFrom (some c) false rest) = none :=
            ofAscii?_cons_of_marks hascii fun hmark _ hmarks =>
              prefix_of_prefix_tidyFrom hmarks (keepsGap_of_isMark hmark)
          have hsolid : ∀ d ∈ [c], isBlank d = false := by simpa using hc
          exact tidyFrom_withSymbols_append (List.cons_ne_nil _ _) hsolid (List.cons_ne_nil _ _)
            hsolid (withSymbols_cons hascii' hword) (withSymbols_cons hascii hword)
            (ih Eq.symm) ..

/-- The spacing of a text that has been read does not depend on how the text was spaced. -/
@[simp] theorem tidy_withSymbols_tidy (text : Text) :
    text.tidy.withSymbols.tidy = text.withSymbols.tidy :=
  tidyFrom_withSymbols_tidyFrom text Eq.symm

/-! ### Texts that are spaced alike -/

/-- Spacing does not tell the two texts apart, whatever stands around them. -/
def Alike (a b : Text) : Prop :=
  ∀ last due rest, tidyFrom last due (a ++ rest) = tidyFrom last due (b ++ rest)

namespace Alike

variable {a b c d : Text}

theorem refl (a : Text) : Alike a a := fun _ _ _ => rfl

theorem symm (h : Alike a b) : Alike b a := fun last due rest => (h last due rest).symm

theorem trans (h : Alike a b) (h' : Alike b c) : Alike a c := fun last due rest =>
  (h last due rest).trans (h' last due rest)

theorem append (h : Alike a b) (h' : Alike c d) : Alike (a ++ c) (b ++ d) := by
  intro last due rest
  obtain ⟨last', due', hstate⟩ := tidyFrom_append_state b last due
  rw [List.append_assoc, List.append_assoc, h last due, hstate, hstate, h' last' due']

theorem append_left (a : Text) (h : Alike c d) : Alike (a ++ c) (a ++ d) := (refl a).append h

theorem cons (e : Char) (h : Alike a b) : Alike (e :: a) (e :: b) := append_left [e] h

theorem tidy_eq (h : Alike a b) : a.tidy = b.tidy := by
  have hall := h none false []
  rwa [List.append_nil, List.append_nil] at hall

end Alike

/-- Two spaces are one gap. -/
theorem alike_spaces : Alike [' ', ' '] [' '] := by
  intro last due rest
  simp [tidyFrom_cons_of_isBlank isBlank_space]

/-- There is no gap behind a negation sign. -/
theorem alike_sign_space : Alike [Operator.not.symbol, ' '] [Operator.not.symbol] := by
  intro last due rest
  simp [tidyFrom_cons_of_not_isBlank (Operator.isBlank_symbol .not),
    tidyFrom_cons_of_isBlank isBlank_space, keepsGap]

end Text

end Propositional
