import Propositional.Proofs.Formula.Meaning
import Propositional.Proofs.Formula.Postorder
/-!
# Propositional.Proofs.Rpn.Simulation

The stack machine and the formula that a sequence is read as.

Evaluation runs with truth values where reading runs with formulas. As long as every variable has
a value, the stack of values is at every item the stack of formulas, each replaced by its value
(`run_values`), so the machine gives the value of the formula, or fails because there is no formula
(`eval_of_assigned`). A variable without a value stops the machine exactly if the items before it
are supplied and have values (`Rpn.StopsAt`); otherwise an operator that lacks operands has stopped
it before.
-/

namespace Propositional

namespace Formula

/-- The stack of values for a stack of formulas. Where no stack could be built, there is the error
for it. -/
def stackValues (σ : Variable → Bool) : Option (List Formula) → Except Error (List Bool)
  | some stack => .ok (stack.map (value σ))
  | none => .error .malformed

end Formula

namespace Rpn

variable {ρ : Assignment}

/-! ### The machine where all variables have values -/

theorem step_values {σ : Variable → Bool} {i : RpnItem}
    (h : ∀ x, i.var? = some x → ρ x = some (σ x)) (stack : List Formula) :
    step ρ (stack.map (Formula.value σ)) i = Formula.stackValues σ (Formula.step? stack i) := by
  cases i with
  | var x =>
      have hx : ρ x = some (σ x) := h x rfl
      simp [step, hx, Formula.step?, Formula.stackValues, Formula.value]
  | op o =>
      cases o with
      | not => cases stack <;> rfl
      | binary c => rcases stack with _ | ⟨r, _ | ⟨l, rest⟩⟩ <;> rfl

/-- The machine holds the values of the formulas that reading holds. -/
theorem run_values {σ : Variable → Bool} {rpn : Rpn} (h : ∀ x ∈ rpn.leaves, ρ x = some (σ x))
    (stack : List Formula) :
    rpn.foldlM (step ρ) (stack.map (Formula.value σ)) =
      Formula.stackValues σ (Formula.build stack rpn) := by
  induction rpn generalizing stack with
  | nil => rfl
  | cons i rpn ih =>
      have hi : ∀ x, i.var? = some x → ρ x = some (σ x) := by
        intro x hx
        exact h x (List.mem_filterMap.2 ⟨i, by simp, hx⟩)
      have hrpn : ∀ x ∈ leaves rpn, ρ x = some (σ x) := by
        intro x hx
        obtain ⟨j, hj, hjx⟩ := List.mem_filterMap.1 hx
        exact h x (List.mem_filterMap.2 ⟨j, by simp [hj], hjx⟩)
      rw [List.foldlM_cons, step_values hi, Formula.build_cons]
      cases hs : Formula.step? stack i with
      | none => rfl
      | some next => exact ih hrpn next

/-- Where all variables have values, the machine gives the value of the formula, and fails exactly
if there is no formula. -/
theorem eval_of_assigned {rpn : Rpn} (h : ∀ x ∈ rpn.leaves, ρ x ≠ none) :
    rpn.eval ρ = (Formula.ofRpn rpn).map (Formula.value ρ.total) := by
  have hrun := run_values (fun x hx => Assignment.eq_some_total (h x hx)) []
  unfold eval run
  rw [← List.map_nil, hrun, Formula.build, Formula.ofRpn]
  cases rpn.foldlM Formula.step? [] with
  | none => rfl
  | some stack => rcases stack with _ | ⟨f, _ | ⟨g, rest⟩⟩ <;> rfl

/-! ### The machine at a variable without a value -/

/-- The machine reaches a variable that has no value. -/
def StopsAt (ρ : Assignment) (rpn : Rpn) (x : Variable) : Prop :=
  ∃ pre post, rpn = pre ++ .var x :: post ∧ ρ x = none ∧ (∀ y ∈ leaves pre, ρ y ≠ none) ∧
    Supplied pre

theorem split_at_unassigned (ρ : Assignment) (rpn : Rpn) :
    (∀ x ∈ rpn.leaves, ρ x ≠ none) ∨
      ∃ pre x post, rpn = pre ++ .var x :: post ∧ ρ x = none ∧ ∀ y ∈ leaves pre, ρ y ≠ none := by
  induction rpn with
  | nil => exact Or.inl (by simp)
  | cons i rpn ih =>
      cases i with
      | var x =>
          by_cases hx : ρ x = none
          · exact Or.inr ⟨[], x, rpn, rfl, hx, by simp⟩
          · rcases ih with h | ⟨pre, y, post, rfl, hy, hpre⟩
            · exact Or.inl (by simpa [hx] using h)
            · exact Or.inr ⟨.var x :: pre, y, post, rfl, hy, by simpa [hx] using hpre⟩
      | op o =>
          rcases ih with h | ⟨pre, y, post, rfl, hy, hpre⟩
          · exact Or.inl h
          · exact Or.inr ⟨.op o :: pre, y, post, rfl, hy, hpre⟩

/-- Up to a variable without a value the machine runs as reading does. -/
theorem eval_at_unassigned {pre post : Rpn} {x : Variable} (hx : ρ x = none)
    (hpre : ∀ y ∈ leaves pre, ρ y ≠ none) :
    eval ρ (pre ++ .var x :: post) =
      match Formula.build [] pre with
      | some _ => .error (.unassigned x.name)
      | none => .error .malformed := by
  have hrun := run_values (fun y hy => Assignment.eq_some_total (hpre y hy)) []
  unfold eval run
  rw [List.foldlM_append, ← List.map_nil, hrun]
  cases Formula.build [] pre with
  | none => rfl
  | some stack => simp [Formula.stackValues, ok_bind, error_bind, step, hx]

theorem eval_of_stopsAt {rpn : Rpn} {x : Variable} (h : StopsAt ρ rpn x) :
    rpn.eval ρ = .error (.unassigned x.name) := by
  obtain ⟨pre, post, rfl, hx, hpre, hsup⟩ := h
  obtain ⟨stack, hstack⟩ := Option.ne_none_iff_exists'.1 (Formula.build_ne_none_iff.2 hsup)
  rw [eval_at_unassigned hx hpre, hstack]

/-- A machine that reaches no variable without a value ends as if all variables had values. -/
theorem eval_of_not_stopsAt {rpn : Rpn} (h : ∀ x, ¬ StopsAt ρ rpn x) :
    rpn.eval ρ = (Formula.ofRpn rpn).map (Formula.value ρ.total) := by
  rcases split_at_unassigned ρ rpn with hall | ⟨pre, x, post, rfl, hx, hpre⟩
  · exact eval_of_assigned hall
  · have hsup : ¬ Supplied pre := by
      intro hsup
      exact h x ⟨pre, post, rfl, hx, hpre, hsup⟩
    -- Some operator of `pre` stops the machine and the reading alike.
    have hbuild : Formula.build [] pre = none := by
      by_contra hne
      exact hsup (Formula.build_ne_none_iff.1 hne)
    have hread : Formula.build [] (pre ++ .var x :: post) = none := by
      rw [Formula.build_append, hbuild, Option.bind_none]
    rw [eval_at_unassigned hx hpre, hbuild, Formula.ofRpn]
    unfold Formula.build at hread
    rw [hread]
    rfl

theorem find?_of_split {rpn pre post : Rpn} {x : Variable} (hrpn : rpn = pre ++ .var x :: post)
    (hx : ρ x = none) (hpre : ∀ y ∈ leaves pre, ρ y ≠ none) :
    rpn.leaves.find? (fun y => (ρ y).isNone) = some x := by
  refine List.find?_eq_some_iff_append.2 ⟨by simp [hx], leaves pre, leaves post, ?_, ?_⟩
  · simp [hrpn]
  · intro y hy
    simpa [Option.isSome_iff_ne_none] using hpre y hy

/-- The machine reaches the first leaf of a formula that has no value. -/
theorem stopsAt_postorder_iff {f : Formula} {x : Variable} :
    StopsAt ρ f.postorder x ↔ f.leaves.find? (fun y => (ρ y).isNone) = some x := by
  rw [← Formula.leaves_postorder]
  constructor
  · intro h
    obtain ⟨pre, post, hrpn, hx, hpre, -⟩ := h
    exact find?_of_split hrpn hx hpre
  · intro hfind
    rcases split_at_unassigned ρ f.postorder with hall | ⟨pre, y, post, hrpn, hy, hpre⟩
    · have hmem := List.mem_of_find?_eq_some hfind
      have hnone := List.find?_some hfind
      exact absurd (by simpa using hnone) (hall x hmem)
    · obtain rfl : y = x := Option.some.inj ((find?_of_split hrpn hy hpre).symm.trans hfind)
      refine ⟨pre, post, hrpn, hy, hpre, Formula.build_ne_none_iff.1 ?_⟩
      -- A postorder is read to its end, so no operator of `pre` lacks operands.
      intro hnone
      have hbuild := Formula.build_postorder f []
      rw [hrpn, Formula.build_append, hnone] at hbuild
      cases hbuild

/-- The stack machine and the formula agree. If the sequence is a formula, the machine gives its
value, or the first leaf that has none. If it is not, the machine fails as well: with a variable
without a value if it gets that far, and else for the same reason. -/
theorem evalUnder_agrees_ofRpn (vars : VariableSet) (v : Valuation) (rpn : Rpn) :
    (∀ f, Formula.ofRpn rpn = .ok f →
      (∀ b, f.evalUnder? vars v = some b → rpn.evalUnder vars v = .ok b) ∧
      (f.evalUnder? vars v = none →
        ∃ x, f.leaves.find? (fun y => (vars.assign v y).isNone) = some x ∧
          rpn.evalUnder vars v = .error (.unassigned x.name))) ∧
    (∀ e, Formula.ofRpn rpn = .error e →
      e = .malformed ∧
      (∀ x, StopsAt (vars.assign v) rpn x →
        rpn.evalUnder vars v = .error (.unassigned x.name)) ∧
      ((∀ x, ¬ StopsAt (vars.assign v) rpn x) → rpn.evalUnder vars v = .error .malformed)) := by
  constructor
  · intro f hf
    obtain rfl := Formula.ofRpn_eq_ok_iff.1 hf
    constructor
    · intro b hb
      have hall : ∀ x ∈ f.leaves, vars.assign v x ≠ none := by
        intro x hx hnone
        rw [Formula.evalUnder?, Formula.eval?_of_unassigned hx hnone] at hb
        cases hb
      have hval : some (f.value (vars.assign v).total) = some b :=
        (Formula.eval?_of_assigned hall).symm.trans hb
      rw [evalUnder, eval_of_assigned (by simpa using hall), hf, Except.map, Option.some.inj hval]
    · intro hnone
      cases hfind : f.leaves.find? (fun y => (vars.assign v y).isNone) with
      | some x => exact ⟨x, rfl, eval_of_stopsAt (stopsAt_postorder_iff.2 hfind)⟩
      | none =>
          -- With values for all leaves the formula would have one.
          have hall : ∀ x ∈ f.leaves, vars.assign v x ≠ none := by
            simpa using List.find?_eq_none.1 hfind
          rw [Formula.evalUnder?, Formula.eval?_of_assigned hall] at hnone
          cases hnone
  · intro e he
    refine ⟨Formula.eq_malformed_of_ofRpn he, fun x hx => eval_of_stopsAt hx, ?_⟩
    intro h
    rw [evalUnder, eval_of_not_stopsAt h, he, Formula.eq_malformed_of_ofRpn he]
    rfl

end Rpn

end Propositional
