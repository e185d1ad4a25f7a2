/-!
# Propositional.Variable

A propositional variable is one lower-case ASCII letter. Variables are ordered as the letters
are, and this order is the order of columns wherever variables are listed.
-/

namespace Propositional

/-- A propositional variable: a letter from `a` to `z`. -/
structure Variable where
  name : Char
  isLower : name.isLower = true
  deriving DecidableEq, Repr

namespace Variable

@[ext] theorem ext {x y : Variable} (h : x.name = y.name) : x = y := by
  cases x
  cases y
  cases h
  rfl

/-- The variable that a character names. -/
def ofChar? (c : Char) : Option Variable :=
  if h : c.isLower = true then some ⟨c, h⟩ else none

@[simp] theorem ofChar?_name (x : Variable) : ofChar? x.name = some x := by
  simp [ofChar?, x.isLower]

theorem ofChar?_eq_some_iff {c : Char} {x : Variable} : ofChar? c = some x ↔ x.name = c := by
  constructor
  · intro h
    unfold ofChar? at h
    split at h
    · exact (Option.some.inj h) ▸ rfl
    · cases h
  · rintro rfl
    exact ofChar?_name x

theorem ofChar?_eq_none_iff {c : Char} : ofChar? c = none ↔ c.isLower = false := by
  simp [ofChar?]

/-! ### Order -/

/-- Variables stand in alphabetical order. -/
instance : LT Variable := ⟨fun x y => x.name < y.name⟩

instance (x y : Variable) : Decidable (x < y) :=
  inferInstanceAs (Decidable (x.name < y.name))

theorem lt_irrefl (x : Variable) : ¬ x < x := Char.lt_irrefl x.name

theorem lt_trans {x y z : Variable} (h : x < y) (h' : y < z) : x < z := Char.lt_trans h h'

theorem lt_of_not_lt_of_ne {x y : Variable} (h : ¬ x < y) (hne : x ≠ y) : y < x := by
  refine Char.not_le.1 fun hle => h (Char.not_le.1 fun hle' => hne (ext ?_))
  exact Char.le_antisymm hle hle'

end Variable

end Propositional
