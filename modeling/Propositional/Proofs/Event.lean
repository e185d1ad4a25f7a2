import Propositional.Event
import Propositional.Proofs.Rpn.Compilation
import Propositional.Proofs.Text.Quoted
/-!
# Propositional.Proofs.Event

A record tells what happened.

The level, the target and the message of a record determine the event with all its data
(`Event.record_injective`). A quoted text ends at its closing quote and a number before a space,
whatever follows, so a message can be cut at its data from the left.
-/

namespace Propositional

namespace Text

/-! ### Lists of characters -/

variable {sep a b : Text}

/-- Behind the first item each item follows its separator. -/
theorem intercalate_singletons (sep : Text) (c : Char) (a : Text) :
    sep.intercalate ((c :: a).map ([·])) = c :: a.flatMap fun d => sep ++ [d] := by
  induction a generalizing c with
  | nil => simp [List.intercalate_singleton]
  | cons d a ih =>
      have hrest := ih d
      rw [List.map_cons] at hrest
      rw [List.map_cons, List.map_cons, List.intercalate_cons_cons, hrest]
      simp

theorem flatMap_separated_inj
    (h : (a.flatMap fun d => sep ++ [d]) = b.flatMap fun d => sep ++ [d]) : a = b := by
  induction a generalizing b with
  | nil =>
      cases b with
      | nil => rfl
      | cons d b => simp at h
  | cons c a ih =>
      cases b with
      | nil => simp at h
      | cons d b =>
          simp only [List.flatMap_cons, List.append_assoc, List.append_cancel_left_eq,
            List.cons_append, List.nil_append, List.cons.injEq] at h
          rw [h.1, ih h.2]

theorem intercalate_singletons_inj
    (h : sep.intercalate (a.map ([·])) = sep.intercalate (b.map ([·]))) : a = b := by
  cases a with
  | nil =>
      cases b with
      | nil => rfl
      | cons d b =>
          rw [intercalate_singletons] at h
          cases h
  | cons c a =>
      rw [intercalate_singletons] at h
      cases b with
      | nil => cases h
      | cons d b =>
          rw [intercalate_singletons] at h
          obtain ⟨rfl, htail⟩ := List.cons.inj h
          rw [flatMap_separated_inj htail]

end Text

/-! ### Displayed data -/

theorem VariableSet.toList_display (vars : VariableSet) :
    vars.display.toList =
      '[' :: ([',', ' '].intercalate ((vars.toList.map Variable.name).map ([·])) ++ [']']) := by
  simp [display, String.toList_intercalate, Function.comp_def]

theorem VariableSet.display_inj {vars vars' : VariableSet} (h : vars.display = vars'.display) :
    vars = vars' := by
  have htext := congrArg String.toList h
  rw [toList_display, toList_display] at htext
  have hnames := Text.intercalate_singletons_inj
    (List.append_cancel_right (List.cons.inj htext).2)
  have hlist := (List.map_inj_right fun _ _ => Variable.ext).1 hnames
  exact ext_mem fun x => by rw [mem_iff, hlist, mem_iff]

theorem Valuation.toList_display (v : Valuation) :
    v.display.toList =
      '[' :: ([','].intercalate ((v.values.map fun b => if b then '1' else '0').map ([·])) ++
        [']']) := by
  have hdigit : ∀ b : Bool, (if b then "1" else "0").toList = [if b then '1' else '0'] := by
    decide
  simp [display, String.toList_intercalate, Function.comp_def, hdigit]

theorem Valuation.display_inj {v w : Valuation} (h : v.display = w.display) : v = w := by
  have htext := congrArg String.toList h
  rw [toList_display, toList_display] at htext
  have hdigits := Text.intercalate_singletons_inj
    (List.append_cancel_right (List.cons.inj htext).2)
  have hinj : ∀ b c : Bool, (if b then '1' else '0') = (if c then '1' else '0') → b = c := by
    decide
  have hvalues := (List.map_inj_right hinj).1 hdigits
  cases v
  cases w
  exact congrArg Valuation.mk hvalues

namespace RpnItem

theorem char_inj {x y : RpnItem} (h : x.token.char = y.token.char) : x = y := by
  have htoken := Token.char_injective h
  cases x <;> cases y <;> cases htoken <;> rfl

theorem char_ne_space (x : RpnItem) : x.token.char ≠ ' ' := by
  intro h
  have hblank := Token.isBlank_char x.token
  rw [h, isBlank_space] at hblank
  cases hblank

end RpnItem

namespace Rpn

theorem text_eq (rpn : Rpn) :
    rpn.text = [' '].intercalate ((rpn.map (·.token.char)).map ([·])) := by
  rw [text]
  induction rpn with
  | nil => rfl
  | cons x rpn ih =>
      cases rpn with
      | nil => rfl
      | cons y rpn =>
          rw [List.map_cons, List.map_cons] at ih
          rw [List.map_cons, List.map_cons, List.intersperse_cons_cons, ih]
          simp [List.intercalate_cons_cons]

theorem text_inj {rpn rpn' : Rpn} (h : rpn.text = rpn'.text) : rpn = rpn' := by
  rw [text_eq, text_eq] at h
  exact (List.map_inj_right fun _ _ => RpnItem.char_inj).1 (Text.intercalate_singletons_inj h)

/-- An item is a single character behind a space, so a longer word is no item. -/
theorem flatMap_append_inj {rpn rpn' : Rpn} {x y : Char} {rest rest' : Text} (hy : y ≠ ' ')
    (h : (rpn.flatMap fun item => [' ', item.token.char]) ++ ' ' :: x :: y :: rest =
      (rpn'.flatMap fun item => [' ', item.token.char]) ++ ' ' :: x :: y :: rest') :
    rpn = rpn' ∧ rest = rest' := by
  have hhead : ∀ (rpn : Rpn) (rest : Text),
      ((rpn.flatMap fun item => [' ', item.token.char]) ++ ' ' :: x :: y :: rest).head? =
        some ' ' := by
    intro rpn rest
    cases rpn <;> rfl
  induction rpn generalizing rpn' with
  | nil =>
      cases rpn' with
      | nil => exact ⟨rfl, (List.cons.inj (List.cons.inj (List.cons.inj h).2).2).2⟩
      | cons item rpn' =>
          have htail := congrArg List.head? (List.cons.inj (List.cons.inj h).2).2
          exact absurd (Option.some.inj (htail.trans (hhead rpn' rest'))) hy
  | cons item rpn ih =>
      cases rpn' with
      | nil =>
          have htail := congrArg List.head? (List.cons.inj (List.cons.inj h).2).2
          exact absurd (Option.some.inj (htail.symm.trans (hhead rpn rest))) hy
      | cons item' rpn' =>
          obtain ⟨-, h⟩ := List.cons.inj h
          obtain ⟨hitem, h⟩ := List.cons.inj h
          obtain ⟨rfl, hrest⟩ := ih h
          exact ⟨by rw [RpnItem.char_inj hitem], hrest⟩

theorem text_cons (item : RpnItem) (rpn : Rpn) :
    text (item :: rpn) = item.token.char :: rpn.flatMap fun item => [' ', item.token.char] := by
  rw [text_eq, List.map_cons, Text.intercalate_singletons, List.flatMap_map]
  rfl

/-- The items end before a word of more than one letter. -/
theorem text_append_inj {rpn rpn' : Rpn} {x y : Char} {word close rest rest' : Text}
    (hclose : close = ' ' :: x :: y :: word) (hy : y ≠ ' ')
    (h : rpn.text ++ (close ++ rest) = rpn'.text ++ (close ++ rest')) :
    rpn = rpn' ∧ rest = rest' := by
  subst hclose
  cases rpn with
  | nil =>
      cases rpn' with
      | nil => exact ⟨rfl, List.append_cancel_left h⟩
      | cons item' rpn' =>
          rw [text_cons] at h
          exact absurd (List.cons.inj h).1.symm item'.char_ne_space
  | cons item rpn =>
      rw [text_cons] at h
      cases rpn' with
      | nil => exact absurd (List.cons.inj h).1 item.char_ne_space
      | cons item' rpn' =>
          rw [text_cons] at h
          have hitems : item :: rpn = item' :: rpn' ∧ word ++ rest = word ++ rest' :=
            flatMap_append_inj hy (congrArg (' ' :: ·) h)
          exact ⟨hitems.1, List.append_cancel_left hitems.2⟩

end Rpn

/-! ### Messages -/

theorem Notation.name_append_inj {style style' : Notation} {rest rest' : Text}
    (h : style.name.toList ++ rest = style'.name.toList ++ rest') :
    style = style' ∧ rest = rest' := by
  cases style with
  | symbolic =>
      cases style' with
      | symbolic => exact ⟨rfl, List.append_cancel_left h⟩
      | word => exact absurd (List.cons.inj h).1 (by decide)
  | word =>
      cases style' with
      | symbolic => exact absurd (List.cons.inj h).1 (by decide)
      | word => exact ⟨rfl, List.append_cancel_left h⟩

theorem number_inj {m n : Nat} (h : (toString m).toList = (toString n).toList) : m = n := by
  rw [Nat.toString_eq_repr, Nat.toString_eq_repr, Nat.toList_repr, Nat.toList_repr] at h
  exact Text.toDigits_inj (by decide) (by decide) h

/-- A number ends before a space. -/
theorem number_append_inj {m n : Nat} {close rest rest' : Text}
    (hclose : close.head? = some ' ')
    (h : (toString m).toList ++ (close ++ rest) = (toString n).toList ++ (close ++ rest')) :
    m = n ∧ rest = rest' := by
  obtain ⟨close, rfl⟩ := List.head?_eq_some_iff.1 hclose
  rw [Nat.toString_eq_repr, Nat.toString_eq_repr, Nat.toList_repr, Nat.toList_repr] at h
  have hspace : ∀ d, Nat.digitChar d ≠ ' ' := fun d => Nat.digitChar_ne ' ' rfl
  obtain ⟨hnumber, hrest⟩ := Text.toDigits_append_inj (by decide) (by decide) hspace h
  exact ⟨hnumber, List.append_cancel_left hrest⟩

/-- The truth values end differently. -/
theorem append_value_inj {x y : Text} {b c : Bool}
    (h : x ++ (if b then "true" else "false").toList =
      y ++ (if c then "true" else "false").toList) : x = y ∧ b = c := by
  have hend := congrArg List.reverse h
  cases b <;> cases c
  · exact ⟨List.append_cancel_right h, rfl⟩
  · simp at hend
  · simp at hend
  · exact ⟨List.append_cancel_right h, rfl⟩

namespace Event

variable {a a' : Text} {rpn rpn' : Rpn} {m m' n n' : Nat}

theorem converted_inj {b b' : Text} {s s' t t' : Notation}
    (h : (converted a s b t).message = (converted a' s' b' t').message) :
    converted a s b t = converted a' s' b' t' := by
  unfold message at h
  have htext := congrArg String.toList h
  simp only [quote, String.toList_append, String.toList_ofList, List.append_assoc] at htext
  obtain ⟨rfl, hsource⟩ := Text.quoted_append_inj htext
  obtain ⟨rfl, hresult⟩ := Notation.name_append_inj (List.append_cancel_left hsource)
  obtain ⟨rfl, htarget⟩ := Text.quoted_append_inj (List.append_cancel_left hresult)
  obtain ⟨rfl, -⟩ := Notation.name_append_inj (List.append_cancel_left htarget)
  rfl

theorem noVariables_inj (h : (noVariables a).message = (noVariables a').message) :
    noVariables a = noVariables a' := by
  unfold message at h
  have htext := congrArg String.toList h
  simp only [quote, String.toList_append, String.toList_ofList, List.append_assoc] at htext
  obtain ⟨rfl, -⟩ := Text.quoted_append_inj (List.append_cancel_left htext)
  rfl

theorem variablesFound_inj {vars vars' : VariableSet}
    (h : (variablesFound a vars).message = (variablesFound a' vars').message) :
    variablesFound a vars = variablesFound a' vars' := by
  unfold message at h
  have htext := congrArg String.toList h
  simp only [quote, String.toList_append, String.toList_ofList, List.append_assoc] at htext
  obtain ⟨rfl, hvars⟩ := Text.quoted_append_inj (List.append_cancel_left htext)
  rw [VariableSet.display_inj (String.toList_injective (List.append_cancel_left hvars))]

theorem overLimit_inj (h : (overLimit a m n).message = (overLimit a' m' n').message) :
    overLimit a m n = overLimit a' m' n' := by
  unfold message at h
  have htext := congrArg String.toList h
  simp only [quote, String.toList_append, String.toList_ofList, List.append_assoc] at htext
  obtain ⟨rfl, hfound⟩ := Text.quoted_append_inj (List.append_cancel_left htext)
  obtain ⟨rfl, hlimit⟩ := number_append_inj rfl (List.append_cancel_left hfound)
  rw [number_inj (List.append_cancel_right hlimit)]

theorem compiled_inj (h : (compiled a rpn).message = (compiled a' rpn').message) :
    compiled a rpn = compiled a' rpn' := by
  unfold message at h
  have htext := congrArg String.toList h
  simp only [quote, String.toList_append, String.toList_ofList, List.append_assoc] at htext
  obtain ⟨rfl, htail⟩ := Text.quoted_append_inj htext
  obtain ⟨hrpn, -⟩ := Text.quoted_append_inj (List.append_cancel_left htail)
  rw [Rpn.text_inj hrpn]

theorem unsettled_inj (h : (unsettled rpn n).message = (unsettled rpn' n').message) :
    unsettled rpn n = unsettled rpn' n' := by
  unfold message at h
  have htext := congrArg String.toList h
  simp only [String.toList_append, String.toList_ofList, List.append_assoc] at htext
  obtain ⟨rfl, hcount⟩ := Rpn.text_append_inj rfl (by decide) htext
  rw [number_inj (List.append_cancel_right hcount)]

theorem row_inj {v w : Valuation} {b c : Bool} (h : (row v b).message = (row w c).message) :
    row v b = row w c := by
  unfold message at h
  have htext := congrArg String.toList h
  simp only [String.toList_append] at htext
  obtain ⟨hinputs, rfl⟩ := append_value_inj htext
  rw [Valuation.display_inj (String.toList_injective (List.append_cancel_right hinputs))]

theorem tabulated_inj (h : (tabulated n a).message = (tabulated n' a').message) :
    tabulated n a = tabulated n' a' := by
  unfold message at h
  have htext := congrArg String.toList h
  simp only [quote, String.toList_append, String.toList_ofList, List.append_assoc] at htext
  obtain ⟨rfl, hformula⟩ := number_append_inj rfl (List.append_cancel_left htext)
  obtain ⟨rfl, -⟩ := Text.quoted_append_inj hformula
  rfl

/-- A record determines the event that it tells of. -/
theorem record_injective : Function.Injective record := by
  intro event event' h
  obtain ⟨hlevel, htarget, hmessage⟩ := Record.mk.inj h
  cases event with
  | converted a s b t =>
      cases event' with
      | converted a' s' b' t' => exact converted_inj hmessage
      | _ => simp [level, target] at hlevel htarget
  | noVariables a =>
      cases event' with
      | noVariables a' => exact noVariables_inj hmessage
      | variablesFound a' vars' =>
          unfold message at hmessage
          have htext := congrArg String.toList hmessage
          simp at htext
      | _ => simp [level, target] at hlevel htarget
  | variablesFound a vars =>
      cases event' with
      | noVariables a' =>
          unfold message at hmessage
          have htext := congrArg String.toList hmessage
          simp at htext
      | variablesFound a' vars' => exact variablesFound_inj hmessage
      | _ => simp [level, target] at hlevel htarget
  | overLimit a m n =>
      cases event' with
      | overLimit a' m' n' => exact overLimit_inj hmessage
      | _ => simp [level] at hlevel
  | compiled a rpn =>
      cases event' with
      | compiled a' rpn' => exact compiled_inj hmessage
      | _ => simp [level, target] at hlevel htarget
  | unsettled rpn n =>
      cases event' with
      | unsettled rpn' n' => exact unsettled_inj hmessage
      | _ => simp [level, target] at hlevel htarget
  | row v b =>
      cases event' with
      | row w c => exact row_inj hmessage
      | _ => simp [level, target] at hlevel htarget
  | tabulated n a =>
      cases event' with
      | tabulated n' a' => exact tabulated_inj hmessage
      | _ => simp [level, target] at hlevel htarget

end Event

end Propositional
