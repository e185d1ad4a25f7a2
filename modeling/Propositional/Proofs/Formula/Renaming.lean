import Mathlib.Logic.Function.Basic
import Propositional.Proofs.Formula.Meaning
import Propositional.Proofs.Formula.Support
/-!
# Propositional.Proofs.Formula.Renaming

Other letters for the variables.

Compiling and reading move variables from one place to another and never ask which they are. So each
step of a compilation commutes with a renaming of the variables (`Yard.read_rename`), and so does
each step of a reading (`Formula.step?_rename`), and what a renamed text is read as is the renamed
formula (`Formula.parse_rename`). Only the set of the variables looks at them, as it stands in
alphabetical order: renaming keeps its size if no two variables get the same name
(`VariableSet.size_image`), and its order if the renaming keeps it (`VariableSet.toList_image`).
-/

namespace Propositional

variable (r : Variable → Variable)

/-! ### Renaming -/

def RpnItem.rename : RpnItem → RpnItem
  | .var x => .var (r x)
  | .op o => .op o

def Formula.rename : Formula → Formula
  | .var x => .var (r x)
  | .not f => .not f.rename
  | .binary c left right => .binary c left.rename right.rename

/-- The letter of the new name, if the character names a variable, and else the character. -/
def Variable.renameChar (c : Char) : Char :=
  match ofChar? c with
  | some x => (r x).name
  | none => c

/-- The text with each letter replaced by that of the new name. -/
def Text.rename (text : Text) : Text := text.map (Variable.renameChar r)

/-! ### Characters -/

theorem Variable.renameChar_of_none {c : Char} (h : ofChar? c = none) : renameChar r c = c := by
  rw [renameChar, h]

@[simp] theorem Variable.renameChar_name (x : Variable) : renameChar r x.name = (r x).name := by
  rw [renameChar, ofChar?_name]

/-- A token keeps its kind: only which variable it is can change. -/
theorem Variable.renameChar_char (t : Token) : renameChar r t.char = (t.rename r).char := by
  have hkind := ofChar?_char t
  cases t with
  | var x => exact renameChar_name r x
  | op o => exact renameChar_of_none r hkind
  | leftParen => exact renameChar_of_none r hkind
  | rightParen => exact renameChar_of_none r hkind

/-- A character that is no token stays as it is. -/
theorem Variable.renameChar_of_no_token {c : Char} (h : Token.ofChar? c = none) :
    renameChar r c = c := by
  refine renameChar_of_none r (Option.eq_none_iff_forall_ne_some.2 fun x hx => ?_)
  obtain rfl := ofChar?_eq_some_iff.1 hx
  have htoken : Token.ofChar? x.name = some (.var x) := Token.ofChar?_char (.var x)
  rw [h] at htoken
  cases htoken

/-- The letters of a renamed text are the renamed letters. -/
theorem filterMap_ofChar?_rename (text : Text) :
    (text.rename r).filterMap Variable.ofChar? = (text.filterMap Variable.ofChar?).map r := by
  rw [Text.rename, List.filterMap_map, List.map_filterMap]
  refine List.filterMap_congr fun c _ => ?_
  show Variable.ofChar? (Variable.renameChar r c) = _
  cases hc : Variable.ofChar? c with
  | none => rw [Variable.renameChar_of_none r hc, hc, Option.map_none]
  | some x =>
      obtain rfl := Variable.ofChar?_eq_some_iff.1 hc
      rw [Variable.renameChar_name, Variable.ofChar?_name, Option.map_some]

/-! ### Compilation -/

namespace Yard

theorem relabels_map : Relabels r (List.map (RpnItem.rename r)) :=
  ⟨fun _ _ => rfl, fun _ _ => rfl⟩

theorem finish_rename (yard : Yard) :
    (yard.mapOutput (List.map (RpnItem.rename r))).finish =
      yard.finish.map (List.map (RpnItem.rename r)) := by
  have hflush := flush_mapOutput (relabels_map r) yard.output yard.waiting
  simp only [← List.map_reverse, List.reverse_reverse] at hflush
  exact hflush

theorem read_rename (yard : Yard) (c : Char) :
    (yard.mapOutput (List.map (RpnItem.rename r))).read (Variable.renameChar r c) =
      (yard.read c).map (mapOutput (List.map (RpnItem.rename r))) := by
  cases ht : Token.ofChar? c with
  | some t =>
      obtain rfl := Token.ofChar?_eq_some_iff.1 ht
      rw [Variable.renameChar_char, read_char, read_char, push_mapOutput (relabels_map r)]
  | none =>
      rw [Variable.renameChar_of_no_token r ht, read, read, ht]
      split <;> rfl

end Yard

theorem Rpn.compile_rename (text : Text) :
    compile (text.rename r) = (compile text).map (List.map (RpnItem.rename r)) := by
  have hread : (text.rename r).foldlM Yard.read Yard.empty =
      (text.foldlM Yard.read Yard.empty).map (Yard.mapOutput (List.map (RpnItem.rename r))) :=
    foldlM_map_commutes (Yard.read_rename r) text Yard.empty
  rw [compile, compile, hread]
  cases text.foldlM Yard.read Yard.empty with
  | error e => rfl
  | ok yard => exact Yard.finish_rename r yard

/-! ### Formulas -/

namespace Formula

theorem step?_rename (stack : List Formula) (i : RpnItem) :
    step? (stack.map (rename r)) (i.rename r) = (step? stack i).map (List.map (rename r)) := by
  cases i with
  | var x => rfl
  | op o =>
      cases o with
      | not => cases stack <;> rfl
      | binary c => rcases stack with _ | ⟨right, _ | ⟨left, rest⟩⟩ <;> rfl

theorem ofRpn_rename (rpn : Rpn) :
    ofRpn (rpn.map (RpnItem.rename r)) = (ofRpn rpn).map (rename r) := by
  have hbuild : (rpn.map (RpnItem.rename r)).foldlM step? [] =
      (rpn.foldlM step? []).map (List.map (rename r)) :=
    foldlM_map_commutes (step?_rename r) rpn []
  rw [ofRpn, ofRpn, hbuild]
  cases rpn.foldlM step? [] with
  | none => rfl
  | some stack => rcases stack with _ | ⟨f, _ | ⟨g, rest⟩⟩ <;> rfl

/-- A renamed text is read as the renamed formula, and is refused for the same cause. -/
theorem parse_rename (text : Text) : parse (text.rename r) = (parse text).map (rename r) := by
  rw [parse, parse, Rpn.compile_rename]
  cases Rpn.compile text with
  | error e => rfl
  | ok rpn => exact ofRpn_rename r rpn

@[simp] theorem leaves_rename (f : Formula) : (f.rename r).leaves = f.leaves.map r := by
  induction f with
  | var x => rfl
  | not f ih => exact ih
  | binary c left right ihl ihr => simp [rename, leaves, ihl, ihr]

/-- A renamed formula has the value that the formula has if each variable takes the value of its new
name. -/
theorem value_rename (f : Formula) (σ : Variable → Bool) :
    (f.rename r).value σ = f.value fun x => σ (r x) := by
  induction f with
  | var x => rfl
  | not f ih => rw [rename, value, value, ih]
  | binary c left right ihl ihr => rw [rename, value, value, ihl, ihr]

end Formula

/-! ### Sets of variables -/

namespace VariableSet

/-- The set of the new names. -/
def image (vars : VariableSet) : VariableSet := ofList (vars.toList.map r)

@[simp] theorem mem_image {vars : VariableSet} {y : Variable} :
    y ∈ vars.image r ↔ ∃ x ∈ vars, r x = y := by
  rw [image, mem_ofList, List.mem_map]
  rfl

theorem ofText_rename (text : Text) : ofText (text.rename r) = (ofText text).map (image r) := by
  rw [ofText, ofText, filterMap_ofChar?_rename]
  cases text.filterMap Variable.ofChar? with
  | nil => rfl
  | cons x xs =>
      refine congrArg Except.ok (ext_mem fun y => ?_)
      rw [mem_ofList, List.mem_map, mem_image]
      simp only [mem_ofList]

theorem size_image {r : Variable → Variable} (hr : Function.Injective r) (vars : VariableSet) :
    (vars.image r).size = vars.size := by
  have hperm : (vars.image r).toList.Perm (vars.toList.map r) := by
    refine (List.perm_ext_iff_of_nodup (vars.image r).nodup (vars.nodup.map hr)).2 ?_
    intro y
    rw [← mem_iff, image, mem_ofList]
  simpa [size] using hperm.length_eq

/-- A renaming that keeps the order of the variables renames them column by column. -/
theorem toList_image {r : Variable → Variable} {vars : VariableSet}
    (h : ∀ x ∈ vars, ∀ y ∈ vars, x < y → r x < r y) :
    (vars.image r).toList = vars.toList.map r := by
  refine eq_of_ascending_of_mem_iff (vars.image r).ascending ?_ ?_
  · exact List.pairwise_map.2 (vars.ascending.imp_of_mem (h _ · _ ·))
  · intro y
    rw [← mem_iff, image, mem_ofList]

end VariableSet

theorem Formula.support_rename (f : Formula) : (f.rename r).support = f.support.image r := by
  refine VariableSet.ext_mem fun y => ?_
  rw [mem_support, leaves_rename, List.mem_map, VariableSet.mem_image]
  simp only [mem_support]

end Propositional
