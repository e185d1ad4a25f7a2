import Propositional.Formula.Reading
import Propositional.Proofs.Formula.Meaning
import Propositional.Proofs.Rpn.Compilation
import Propositional.Proofs.VariableSet
/-!
# Propositional.Proofs.Formula.Support

The variables of a formula and of its text.

A formula has at least one leaf, and the letters of a text that is read as the formula are its
leaves, so the set of the text's variables is the support of the formula (`ofText_of_parse`).

The support is also all that a value depends on. Where a valuation gives each of its variables a
value there is one, where it leaves one without there is none, and nothing else about the valuation
or its columns matters (`support_determines`).
-/

namespace Propositional.Formula

theorem leaves_ne_nil (f : Formula) : f.leaves ≠ [] := by
  induction f with
  | var x => simp [leaves]
  | not f ih => exact ih
  | binary c l r ihl ihr => simp [leaves, ihl]

@[simp] theorem mem_support {f : Formula} {x : Variable} : x ∈ f.support ↔ x ∈ f.leaves :=
  VariableSet.mem_ofList

theorem mem_support_binary {c : Connective} {l r : Formula} {x : Variable} :
    x ∈ (binary c l r).support ↔ x ∈ l.support ∨ x ∈ r.support := by
  simp [leaves]

theorem compile_of_parse {text : Text} {f : Formula} (h : parse text = .ok f) :
    Rpn.compile text = .ok f.postorder := by
  obtain ⟨rpn, hrpn, hf⟩ := bind_eq_ok_iff.1 h
  rw [hrpn, ofRpn_eq_ok_iff.1 hf]

theorem parse_of_compile {text : Text} {f : Formula} (h : Rpn.compile text = .ok f.postorder) :
    parse text = .ok f := by
  rw [parse, h, ok_bind]
  exact ofRpn_eq_ok_iff.2 rfl

/-- The variables of a text are those of its formula. -/
theorem ofText_of_parse {text : Text} {f : Formula} (h : parse text = .ok f) :
    VariableSet.ofText text = .ok f.support := by
  rw [VariableSet.ofText_eq_ok_iff, ← Yard.leaves_of_compile (compile_of_parse h),
    leaves_postorder]
  exact ⟨leaves_ne_nil f, rfl⟩

/-! ### Values under valuations -/

/-- Columns of other variables do not matter, nor does the place of a column among them. -/
theorem evalUnder?_of_subset {f : Formula} {vars : VariableSet} (h : ∀ x ∈ f.support, x ∈ vars)
    (σ : Variable → Bool) : f.evalUnder? vars ⟨vars.toList.map σ⟩ = some (f.value σ) := by
  have hsize : Valuation.size ⟨vars.toList.map σ⟩ = vars.size := List.length_map _
  have hassign := (VariableSet.assign_eq_iff hsize σ).2 rfl
  have hleaves : ∀ x ∈ f.leaves, vars.assign ⟨vars.toList.map σ⟩ x = some (σ x) := by
    intro x hx
    exact hassign x (h x (mem_support.2 hx))
  rw [evalUnder?, eval?_congr (τ := fun x => some (σ x)) hleaves, eval?_of_assigned (by simp)]
  rfl

/-- The support of a formula is the set of its text's variables, and decides its value. There is
none exactly if a variable of the support has none, and valuations that treat the support alike give
the same result, whatever their columns, their sizes and their surplus values. -/
theorem support_determines :
    (∀ text f, parse text = .ok f → VariableSet.ofText text = .ok f.support) ∧
    ∀ (f : Formula) (vars : VariableSet) (v : Valuation),
      (f.evalUnder? vars v = none ↔ ∃ x ∈ f.support, vars.assign v x = none) ∧
      (∀ vars' v', (∀ x ∈ f.support, vars.assign v x = vars'.assign v' x) →
        f.evalUnder? vars v = f.evalUnder? vars' v') ∧
      ((∀ x ∈ f.support, x ∈ vars) →
        ∀ σ, f.evalUnder? vars ⟨vars.toList.map σ⟩ = some (f.value σ)) ∧
      (vars.size ≤ v.size →
        ∀ surplus, f.evalUnder? vars ⟨v.values ++ surplus⟩ = f.evalUnder? vars v) := by
  refine ⟨fun text f => ofText_of_parse, ?_⟩
  intro f vars v
  refine ⟨?_, ?_, evalUnder?_of_subset, ?_⟩
  · simp only [mem_support]
    exact eval?_eq_none_iff
  · intro vars' v' h
    exact eval?_congr fun x hx => h x (mem_support.2 hx)
  · intro hsize surplus
    rw [evalUnder?, VariableSet.assign_append hsize, evalUnder?]

/-- In `p ∧ q` the value of `q` is asked for although `p` is false. A third column, which moves the
other two, and a fourth value change nothing. -/
theorem support_determines_conjunction :
    let p : Variable := ⟨'p', rfl⟩
    let q : Variable := ⟨'q', rfl⟩
    let f : Formula := .binary .and (.var p) (.var q)
    let wide : VariableSet := .ofList [⟨'a', rfl⟩, p, q]
    VariableSet.ofText ['p', ' ', '∧', ' ', 'q'] = .ok f.support ∧
      f.evalUnder? f.support ⟨[false]⟩ = none ∧
      f.evalUnder? wide ⟨[true, true, false]⟩ = some false ∧
      f.evalUnder? wide ⟨[true, true, false, true]⟩ = f.evalUnder? f.support ⟨[true, false]⟩ := by
  intro p q f wide
  have hsubset : ∀ x ∈ f.support, x ∈ wide := by simp [f, wide, leaves]
  have hagree : ∀ x ∈ f.support,
      wide.assign ⟨[true, true, false]⟩ x = f.support.assign ⟨[true, false]⟩ x := by
    simp only [mem_support, f, leaves, List.cons_append, List.nil_append, List.forall_mem_cons]
    decide
  obtain ⟨hsupport, hvalue⟩ := support_determines
  obtain ⟨hnone, -, -, -⟩ := hvalue f f.support ⟨[false]⟩
  obtain ⟨-, hcongr, hvalues, hsurplus⟩ := hvalue f wide ⟨[true, true, false]⟩
  refine ⟨hsupport _ f (by decide), hnone.2 ⟨q, by simp [f, leaves], by decide⟩, ?_, ?_⟩
  · exact hvalues hsubset fun x => x ≠ q
  · exact (hsurplus (by decide) [true]).trans (hcongr f.support ⟨[true, false]⟩ hagree)

end Propositional.Formula
