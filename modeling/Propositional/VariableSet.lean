import Propositional.Error
import Propositional.Text
import Propositional.Variable
/-!
# Propositional.VariableSet

Sets of variables, which give formulas their columns.

A variable set is a strictly ascending list of variables, and the position of a variable in it is
the column in which a valuation holds its value. Being ascending is part of the type, so a set is
determined by its members: two sets with the same members are equal (`VariableSet.ext_mem`), in
whatever order and how often the members were given.

Columns are not searched for in the list but looked up in an **index** of it, which holds them as
machine words of 16 bits.
-/

namespace Propositional

/-- A finite set of variables, in alphabetical order. -/
structure VariableSet where
  toList : List Variable
  /-- The order is strictly ascending. -/
  ascending : toList.Pairwise (· < ·)
  deriving DecidableEq, Repr

/-! ### Ascending lists -/

/-- An ascending list with one more member. -/
def insertAscending (x : Variable) : List Variable → List Variable
  | [] => [x]
  | y :: ys =>
    if x < y then x :: y :: ys
    else if x = y then y :: ys
    else y :: insertAscending x ys

theorem mem_insertAscending {x y : Variable} {ys : List Variable} :
    y ∈ insertAscending x ys ↔ y = x ∨ y ∈ ys := by
  induction ys with
  | nil => simp [insertAscending]
  | cons z zs ih =>
      unfold insertAscending
      split
      · simp
      · split
        · next h => subst h; simp
        · simp only [List.mem_cons, ih]
          exact ⟨fun h => by rcases h with h | h | h <;> simp [h],
            fun h => by rcases h with h | h | h <;> simp [h]⟩

theorem insertAscending_pairwise {x : Variable} {ys : List Variable}
    (h : ys.Pairwise (· < ·)) : (insertAscending x ys).Pairwise (· < ·) := by
  induction ys with
  | nil => simp [insertAscending]
  | cons z zs ih =>
      obtain ⟨hz, hzs⟩ := List.pairwise_cons.1 h
      unfold insertAscending
      split
      · next hxz =>
        refine List.pairwise_cons.2 ⟨fun w hw => ?_, h⟩
        rcases List.mem_cons.1 hw with rfl | hw
        · exact hxz
        · exact Variable.lt_trans hxz (hz w hw)
      · split
        · exact h
        · next hxz hne =>
          refine List.pairwise_cons.2 ⟨fun w hw => ?_, ih hzs⟩
          rcases mem_insertAscending.1 hw with rfl | hw
          · exact Variable.lt_of_not_lt_of_ne hxz hne
          · exact hz w hw

/-- An ascending list is determined by its members. -/
theorem eq_of_ascending_of_mem_iff {xs ys : List Variable} (hx : xs.Pairwise (· < ·))
    (hy : ys.Pairwise (· < ·)) (h : ∀ z, z ∈ xs ↔ z ∈ ys) : xs = ys := by
  induction xs generalizing ys with
  | nil =>
      cases ys with
      | nil => rfl
      | cons y ys => exact absurd ((h y).2 (by simp)) (by simp)
  | cons x xs ih =>
      cases ys with
      | nil => exact absurd ((h x).1 (by simp)) (by simp)
      | cons y ys =>
          obtain ⟨hx', hxs⟩ := List.pairwise_cons.1 hx
          obtain ⟨hy', hys⟩ := List.pairwise_cons.1 hy
          have hxy : x = y := by
            rcases List.mem_cons.1 ((h x).1 (by simp)) with e | hm
            · exact e
            · rcases List.mem_cons.1 ((h y).2 (by simp)) with e | hm'
              · exact e.symm
              · exact absurd (Variable.lt_trans (hx' y hm') (hy' x hm)) (Variable.lt_irrefl x)
          subst hxy
          refine congrArg (x :: ·) (ih hxs hys fun z => ?_)
          have hz := h z
          simp only [List.mem_cons] at hz
          by_cases e : z = x
          · subst e
            exact ⟨fun hm => absurd (hx' z hm) (Variable.lt_irrefl z),
              fun hm => absurd (hy' z hm) (Variable.lt_irrefl z)⟩
          · simpa [e] using hz

namespace VariableSet

/-! ### Construction -/

def empty : VariableSet := ⟨[], List.Pairwise.nil⟩

def insert (x : Variable) (vars : VariableSet) : VariableSet :=
  ⟨insertAscending x vars.toList, insertAscending_pairwise vars.ascending⟩

/-- The set of the listed variables. -/
def ofList (xs : List Variable) : VariableSet := xs.foldr insert empty

/-- The set of the named variables. The first name that is no variable is an error. -/
def ofNames (names : List Char) : Except Error VariableSet := do
  let xs ← names.mapM fun c =>
    match Variable.ofChar? c with
    | some x => .ok x
    | none => .error (.strayCharacter c)
  return ofList xs

/-- The set of the variables that occur in a text. Having none is an error. -/
def ofText (text : Text) : Except Error VariableSet :=
  match text.filterMap Variable.ofChar? with
  | [] => .error .noVariables
  | xs => .ok (ofList xs)

/-! ### Members -/

instance : Membership Variable VariableSet := ⟨fun vars x => x ∈ vars.toList⟩

theorem mem_iff {x : Variable} {vars : VariableSet} : x ∈ vars ↔ x ∈ vars.toList := Iff.rfl

@[simp] theorem not_mem_empty (x : Variable) : x ∉ empty := by
  simp [mem_iff, empty]

@[simp] theorem mem_insert {x y : Variable} {vars : VariableSet} :
    y ∈ vars.insert x ↔ y = x ∨ y ∈ vars :=
  mem_insertAscending

@[simp] theorem mem_ofList {y : Variable} {xs : List Variable} : y ∈ ofList xs ↔ y ∈ xs := by
  induction xs with
  | nil => exact iff_of_false (not_mem_empty y) (by simp)
  | cons x xs ih =>
      show y ∈ insert x (ofList xs) ↔ _
      simp [ih]

/-- A set is determined by its members. -/
theorem ext_mem {vars vars' : VariableSet} (h : ∀ x, x ∈ vars ↔ x ∈ vars') : vars = vars' := by
  have := eq_of_ascending_of_mem_iff vars.ascending vars'.ascending h
  cases vars
  cases vars'
  cases this
  rfl

/-! ### Columns -/

def size (vars : VariableSet) : Nat := vars.toList.length

/-- The number of members in a machine word of 16 bits, which valuations are compared with. -/
def width (vars : VariableSet) : UInt16 := UInt16.ofNat vars.size

/-- Each member with its position, in a machine word of 16 bits. -/
def index (vars : VariableSet) : List (Variable × UInt16) :=
  vars.toList.zipIdx.map fun (x, column) => (x, UInt16.ofNat column)

/-- The column of a variable, as the index has it. -/
def column? (vars : VariableSet) (x : Variable) : Option Nat :=
  (vars.index.lookup x).map UInt16.toNat

/-- The members in brackets, as messages show them. -/
def display (vars : VariableSet) : String :=
  let names := vars.toList.map fun x => String.singleton x.name
  "[" ++ ", ".intercalate names ++ "]"

end VariableSet

end Propositional
