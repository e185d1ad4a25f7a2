import Propositional.Formula
/-!
# Propositional.Proofs.Formula.Meaning

What the value of a formula says.

Truth in the sense of logic (`Formula.Holds`) is a proposition, in which the connectives are those
of logic; the computed value is `true` exactly if the formula holds (`value_eq_true_iff`). Only the
leaves matter to a value (`value_congr`). Under a partial assignment there is a value exactly if no
leaf is without one (`eval?_eq_none_iff`), and it is then the value under `Assignment.total`, which
completes the assignment in some way.
-/

namespace Propositional

/-! ### Truth -/

/-- The proposition that a connective makes of two propositions. -/
def Connective.Holds : Connective → Prop → Prop → Prop
  | .and, p, q => p ∧ q
  | .or, p, q => p ∨ q
  | .implies, p, q => p → q
  | .iff, p, q => p ↔ q

theorem Connective.apply_eq_true_iff (c : Connective) (a b : Bool) :
    c.apply a b = true ↔ c.Holds (a = true) (b = true) := by
  cases c <;> cases a <;> cases b <;> simp [Connective.apply, Connective.Holds]

/-- The proposition that a formula makes of its variables. -/
def Formula.Holds (p : Variable → Prop) : Formula → Prop
  | .var x => p x
  | .not f => ¬ f.Holds p
  | .binary c l r => c.Holds (l.Holds p) (r.Holds p)

/-- A formula is computed to be true exactly if it is true. -/
theorem Formula.value_eq_true_iff (σ : Variable → Bool) (f : Formula) :
    f.value σ = true ↔ f.Holds fun x => σ x = true := by
  induction f with
  | var x => rfl
  | not f ih => rw [value, Holds, ← ih, Bool.not_eq_true', Bool.not_eq_true]
  | binary c l r ihl ihr => rw [value, Holds, Connective.apply_eq_true_iff, ihl, ihr]

/-- Assignments that agree on the leaves give the same value. -/
theorem Formula.value_congr {σ τ : Variable → Bool} {f : Formula}
    (h : ∀ x ∈ f.leaves, σ x = τ x) : f.value σ = f.value τ := by
  induction f with
  | var x => exact h x (by simp [leaves])
  | not f ih => rw [value, value, ih h]
  | binary c l r ihl ihr =>
      have hl := ihl fun x hx => h x (by simp [leaves, hx])
      have hr := ihr fun x hx => h x (by simp [leaves, hx])
      rw [value, value, hl, hr]

/-! ### Partial assignments -/

/-- The assignment with `false` for every variable that has no value. -/
def Assignment.total (ρ : Assignment) (x : Variable) : Bool := (ρ x).getD false

theorem Assignment.eq_some_total {ρ : Assignment} {x : Variable} (h : ρ x ≠ none) :
    ρ x = some (ρ.total x) := by
  obtain ⟨b, hb⟩ := Option.ne_none_iff_exists'.1 h
  simp [Assignment.total, hb]

namespace Formula

variable {ρ : Assignment}

/-- A formula has the value that it has when missing values are `false`, if none is missing. -/
theorem eval?_of_assigned {f : Formula} (h : ∀ x ∈ f.leaves, ρ x ≠ none) :
    f.eval? ρ = some (f.value ρ.total) := by
  induction f with
  | var x => exact Assignment.eq_some_total (h x (by simp [leaves]))
  | not f ih => simp [eval?, value, ih h]
  | binary c l r ihl ihr =>
      have hl := ihl fun x hx => h x (by simp [leaves, hx])
      have hr := ihr fun x hx => h x (by simp [leaves, hx])
      simp [eval?, value, hl, hr]

/-- One variable without a value leaves the whole formula without a value. -/
theorem eval?_of_unassigned {f : Formula} {x : Variable} (hx : x ∈ f.leaves) (h : ρ x = none) :
    f.eval? ρ = none := by
  induction f with
  | var y =>
      obtain rfl : x = y := by simpa [leaves] using hx
      exact h
  | not f ih => simp [eval?, ih hx]
  | binary c l r ihl ihr =>
      rcases List.mem_append.1 hx with hx | hx
      · simp [eval?, ihl hx]
      · rw [eval?, ihr hx]
        cases l.eval? ρ <;> rfl

/-- No operand is skipped: a formula has no value exactly if one of its leaves has none. -/
theorem eval?_eq_none_iff {f : Formula} : f.eval? ρ = none ↔ ∃ x ∈ f.leaves, ρ x = none := by
  constructor
  · intro hnone
    refine Classical.byContradiction fun hall => ?_
    have hassigned : ∀ x ∈ f.leaves, ρ x ≠ none := fun x hx h => hall ⟨x, hx, h⟩
    rw [eval?_of_assigned hassigned] at hnone
    cases hnone
  · intro h
    obtain ⟨x, hx, hnone⟩ := h
    exact eval?_of_unassigned hx hnone

/-- Assignments that agree on the leaves, also on which of them have no value, give the same
result. -/
theorem eval?_congr {τ : Assignment} {f : Formula} (h : ∀ x ∈ f.leaves, ρ x = τ x) :
    f.eval? ρ = f.eval? τ := by
  induction f with
  | var x => exact h x (by simp [leaves])
  | not f ih => rw [eval?, eval?, ih h]
  | binary c l r ihl ihr =>
      have hl := ihl fun x hx => h x (by simp [leaves, hx])
      have hr := ihr fun x hx => h x (by simp [leaves, hx])
      rw [eval?, eval?, hl, hr]

end Formula

end Propositional
