import Mathlib.Data.List.Induction
import Propositional.Formula.Reading
/-!
# Propositional.Proofs.Formula.Postorder

Which sequences in reverse Polish notation are formulas.

Reading builds formulas on a stack (`Formula.build`). Two facts carry everything that is said about
it. Reading the postorder of a formula pushes that formula on any stack (`build_postorder`), and a
stack that was built, laid out in postorder again, spells the items that were read
(`spell_of_build`). So a sequence is read as a formula exactly if it is the postorder of that
formula (`ofRpn_eq_ok_iff`).

Whether a sequence can be read at all depends on numbers only. Each item changes the height of the
stack by its **gain**, the height after some items is their **surplus**, and a sequence is
**supplied** if each of its operators finds as many operands as it takes (`build_ne_none_iff`). The
formulas are the supplied sequences with a surplus of one (`exists_postorder_iff`). A negation has a
gain of zero, so the surplus counts variables against connectives (`surplus_add_connectives`).
-/

namespace Propositional

/-! ### The variables of a sequence -/

/-- The variable that an item is. -/
def RpnItem.var? : RpnItem → Option Variable
  | .var x => some x
  | .op _ => none

/-- The variables of a sequence in order, as often as they occur. -/
def Rpn.leaves (rpn : Rpn) : List Variable := rpn.filterMap RpnItem.var?

namespace Rpn

@[simp] theorem leaves_nil : leaves [] = [] := rfl

@[simp] theorem leaves_var_cons (x : Variable) (rpn : Rpn) :
    leaves (.var x :: rpn) = x :: leaves rpn := rfl

@[simp] theorem leaves_op_cons (o : Operator) (rpn : Rpn) :
    leaves (.op o :: rpn) = leaves rpn := rfl

@[simp] theorem leaves_append (a b : Rpn) :
    leaves (a ++ b) = leaves a ++ leaves b :=
  List.filterMap_append

end Rpn

namespace Formula

/-- The variables of the postorder are the leaves, in the same order. -/
@[simp] theorem leaves_postorder (f : Formula) : f.postorder.leaves = f.leaves := by
  induction f with
  | var x => rfl
  | not f ih => simp [postorder, leaves, ih]
  | binary c l r ihl ihr => simp [postorder, leaves, ihl, ihr]

/-! ### Building and spelling -/

/-- The stack after all items, unless one of them lacks operands. -/
def build (stack : List Formula) (rpn : Rpn) : Option (List Formula) := rpn.foldlM step? stack

/-- The items from which a stack was built, the latest formula last. -/
def spell (stack : List Formula) : Rpn := stack.reverse.flatMap postorder

@[simp] theorem build_nil (stack : List Formula) : build stack [] = some stack := rfl

@[simp] theorem build_cons (stack : List Formula) (i : RpnItem) (rpn : Rpn) :
    build stack (i :: rpn) = (step? stack i).bind fun next => build next rpn := rfl

@[simp] theorem build_append (stack : List Formula) (a b : Rpn) :
    build stack (a ++ b) = (build stack a).bind fun next => build next b :=
  List.foldlM_append

@[simp] theorem spell_nil : spell [] = [] := rfl

@[simp] theorem spell_cons (f : Formula) (stack : List Formula) :
    spell (f :: stack) = spell stack ++ f.postorder := by
  simp [spell]

/-- Reading the postorder of a formula pushes the formula. -/
@[simp] theorem build_postorder (f : Formula) (stack : List Formula) :
    build stack f.postorder = some (f :: stack) := by
  induction f generalizing stack with
  | var x => rfl
  | not f ih => simp [postorder, ih, step?]
  | binary c l r ihl ihr => simp [postorder, ihl, ihr, step?]

/-- The three ways in which an item can be read. -/
theorem step?_cases {stack next : List Formula} {i : RpnItem} (h : step? stack i = some next) :
    (∃ x, i = .var x ∧ next = .var x :: stack) ∨
    (∃ f rest, i = .op .not ∧ stack = f :: rest ∧ next = .not f :: rest) ∨
    (∃ c l r rest, i = .op (.binary c) ∧ stack = r :: l :: rest ∧
      next = .binary c l r :: rest) := by
  cases i with
  | var x => exact Or.inl ⟨x, rfl, by simpa [step?] using h.symm⟩
  | op o =>
      cases o with
      | not =>
          cases stack with
          | nil => simp [step?] at h
          | cons f rest => exact Or.inr (Or.inl ⟨f, rest, rfl, rfl, by simpa [step?] using h.symm⟩)
      | binary c =>
          rcases stack with _ | ⟨r, _ | ⟨l, rest⟩⟩
          · simp [step?] at h
          · simp [step?] at h
          · exact Or.inr (Or.inr ⟨c, l, r, rest, rfl, rfl, by simpa [step?] using h.symm⟩)

theorem spell_of_step? {stack next : List Formula} {i : RpnItem}
    (h : step? stack i = some next) : spell next = spell stack ++ [i] := by
  rcases step?_cases h with
    ⟨x, rfl, rfl⟩ | ⟨f, rest, rfl, rfl, rfl⟩ | ⟨c, l, r, rest, rfl, rfl, rfl⟩
  · rw [spell_cons, postorder]
  · rw [spell_cons, spell_cons, postorder, List.append_assoc]
  · rw [spell_cons, spell_cons, spell_cons, postorder]
    simp only [List.append_assoc]

/-- Nothing that was read is lost: the stack spells it. -/
theorem spell_of_build {stack next : List Formula} {rpn : Rpn}
    (h : build stack rpn = some next) : spell next = spell stack ++ rpn := by
  induction rpn generalizing stack with
  | nil =>
      obtain rfl : stack = next := by simpa using h
      simp
  | cons i rpn ih =>
      rw [build_cons] at h
      obtain ⟨mid, hmid, hnext⟩ := Option.bind_eq_some_iff.1 h
      rw [ih hnext, spell_of_step? hmid, List.append_assoc, List.singleton_append]

/-! ### Formulas -/

theorem ofRpn_of_build {rpn : Rpn} {f : Formula} (h : build [] rpn = some [f]) :
    ofRpn rpn = .ok f := by
  unfold build at h
  simp [ofRpn, h]

theorem build_of_ofRpn {rpn : Rpn} {f : Formula} (h : ofRpn rpn = .ok f) :
    build [] rpn = some [f] := by
  unfold ofRpn at h
  split at h
  · next g hg =>
    cases h
    exact hg
  · cases h

/-- A sequence is a formula exactly if it is the postorder of the formula. -/
theorem ofRpn_eq_ok_iff {rpn : Rpn} {f : Formula} : ofRpn rpn = .ok f ↔ rpn = f.postorder := by
  constructor
  · intro h
    have hs := spell_of_build (build_of_ofRpn h)
    simpa using hs.symm
  · intro h
    subst h
    exact ofRpn_of_build (build_postorder f [])

/-- There is one error only. -/
theorem eq_malformed_of_ofRpn {rpn : Rpn} {e : Error} (h : ofRpn rpn = .error e) :
    e = .malformed := by
  unfold ofRpn at h
  split at h
  · cases h
  · cases h
    rfl

end Formula

/-! ### Operands and operators -/

/-- The number of operands that an operator takes. -/
def Operator.arity : Operator → Nat
  | .not => 1
  | .binary _ => 2

/-- By how much an item changes the height of the stack: a variable adds one, and an operator
replaces its operands by one. -/
def RpnItem.gain : RpnItem → Int
  | .var _ => 1
  | .op o => 1 - o.arity

namespace Rpn

/-- The height of the stack after the items: the variables less the connectives. -/
def surplus : Rpn → Int
  | [] => 0
  | i :: rpn => i.gain + surplus rpn

/-- Every operator finds as many operands as it takes. -/
def Supplied (rpn : Rpn) : Prop :=
  ∀ pre o post, rpn = pre ++ .op o :: post → (o.arity : Int) ≤ surplus pre

@[simp] theorem surplus_nil : surplus [] = 0 := rfl

theorem surplus_concat (rpn : Rpn) (i : RpnItem) :
    surplus (rpn ++ [i]) = surplus rpn + i.gain := by
  induction rpn with
  | nil => simp [surplus]
  | cons j rpn ih => rw [List.cons_append, surplus, surplus, ih, Int.add_assoc]

theorem supplied_nil : Supplied [] := by
  intro pre o post h
  simp at h

theorem supplied_concat_iff {rpn : Rpn} {i : RpnItem} :
    Supplied (rpn ++ [i]) ↔ Supplied rpn ∧ ∀ o, i = .op o → (o.arity : Int) ≤ rpn.surplus := by
  constructor
  · intro h
    constructor
    · intro pre o post hrpn
      exact h pre o (post ++ [i]) (by simp [hrpn])
    · intro o hi
      subst hi
      exact h rpn o [] rfl
  · intro h pre o post hsplit
    obtain ⟨hrpn, hi⟩ := h
    -- The operator is the last item, or it stands among the items before.
    rcases List.eq_nil_or_concat post with rfl | ⟨post', j, rfl⟩
    · obtain ⟨rfl, hij⟩ := List.append_inj' hsplit rfl
      exact hi o (List.singleton_inj.1 hij)
    · rw [List.concat_eq_append, ← List.cons_append, ← List.append_assoc] at hsplit
      exact hrpn pre o post' (List.append_inj' hsplit rfl).1

/-- A sequence that is supplied leaves something, unless it is empty. -/
theorem surplus_pos_of_supplied {rpn : Rpn} (h : rpn.Supplied) (hne : rpn ≠ []) :
    0 < rpn.surplus := by
  induction rpn using List.reverseRecOn with
  | nil => exact absurd rfl hne
  | append_singleton rpn i ih =>
      obtain ⟨hrpn, hoperands⟩ := supplied_concat_iff.1 h
      rw [surplus_concat]
      cases i with
      | var x =>
          have hle : 0 ≤ surplus rpn := by
            by_cases hnil : rpn = []
            · simp [hnil]
            · exact Int.le_of_lt (ih hrpn hnil)
          rw [RpnItem.gain]
          omega
      | op o =>
          have harity := hoperands o rfl
          rw [RpnItem.gain]
          omega

end Rpn

/-- The connective that an item is. -/
def RpnItem.connective? : RpnItem → Option Connective
  | .op (.binary c) => some c
  | _ => none

/-- The connectives of a sequence in order, as often as they occur. -/
def Rpn.connectives (rpn : Rpn) : List Connective := rpn.filterMap RpnItem.connective?

namespace Rpn

@[simp] theorem connectives_var_cons (x : Variable) (rpn : Rpn) :
    connectives (.var x :: rpn) = connectives rpn := rfl

@[simp] theorem connectives_not_cons (rpn : Rpn) :
    connectives (.op .not :: rpn) = connectives rpn := rfl

@[simp] theorem connectives_binary_cons (c : Connective) (rpn : Rpn) :
    connectives (.op (.binary c) :: rpn) = c :: connectives rpn := rfl

/-- The surplus is the number of variables less the number of connectives. -/
theorem surplus_add_connectives (rpn : Rpn) :
    rpn.surplus + rpn.connectives.length = rpn.leaves.length := by
  induction rpn with
  | nil => rfl
  | cons i rpn ih =>
      rw [surplus]
      cases i with
      | var x =>
          rw [RpnItem.gain, connectives_var_cons, leaves_var_cons, List.length_cons]
          omega
      | op o =>
          cases o with
          | not =>
              rw [RpnItem.gain, Operator.arity, connectives_not_cons, leaves_op_cons]
              omega
          | binary c =>
              rw [RpnItem.gain, Operator.arity, connectives_binary_cons, leaves_op_cons,
                List.length_cons]
              omega

end Rpn

namespace Formula

theorem step?_var (stack : List Formula) (x : Variable) :
    step? stack (.var x) = some (.var x :: stack) := rfl

theorem step?_op_ne_none_iff {stack : List Formula} {o : Operator} :
    step? stack (.op o) ≠ none ↔ o.arity ≤ stack.length := by
  cases o with
  | not => cases stack <;> simp [step?, Operator.arity]
  | binary c =>
      rcases stack with _ | ⟨r, _ | ⟨l, rest⟩⟩
      · simp [step?, Operator.arity]
      · simp [step?, Operator.arity]
      · simp [step?, Operator.arity]

theorem length_of_step? {stack next : List Formula} {i : RpnItem}
    (h : step? stack i = some next) : (next.length : Int) = stack.length + i.gain := by
  rcases step?_cases h with
    ⟨x, rfl, rfl⟩ | ⟨f, rest, rfl, rfl, rfl⟩ | ⟨c, l, r, rest, rfl, rfl, rfl⟩
  · rfl
  · simp only [RpnItem.gain, Operator.arity, List.length_cons]
    omega
  · simp only [RpnItem.gain, Operator.arity, List.length_cons]
    omega

/-- The height of the stack depends on the numbers of items only. -/
theorem length_of_build {rpn : Rpn} {stack : List Formula} (h : build [] rpn = some stack) :
    (stack.length : Int) = rpn.surplus := by
  induction rpn using List.reverseRecOn generalizing stack with
  | nil =>
      obtain rfl : [] = stack := by simpa using h
      rfl
  | append_singleton rpn i ih =>
      obtain ⟨mid, hmid, hstep⟩ := Option.bind_eq_some_iff.1 (build_append [] rpn [i] ▸ h)
      have hnext : step? mid i = some stack := by simpa using hstep
      rw [length_of_step? hnext, ih hmid, Rpn.surplus_concat]

/-- Exactly the supplied sequences can be read to their end. -/
theorem build_ne_none_iff {rpn : Rpn} : build [] rpn ≠ none ↔ rpn.Supplied := by
  induction rpn using List.reverseRecOn with
  | nil => simp [Rpn.supplied_nil]
  | append_singleton rpn i ih =>
      rw [Rpn.supplied_concat_iff, ← ih, build_append]
      cases hmid : build [] rpn with
      | none => simp
      | some mid =>
          have hlen := length_of_build hmid
          cases i with
          | var x => simp [step?_var]
          | op o =>
              have hstep : step? mid (.op o) ≠ none ↔ o.arity ≤ mid.length := step?_op_ne_none_iff
              have hbound : o.arity ≤ mid.length ↔ (o.arity : Int) ≤ Rpn.surplus rpn := by omega
              simpa [hbound] using hstep

/-! ### What is read as a formula -/

/-- A formula is determined by its postorder, since reading gives it back. -/
theorem postorder_injective {f g : Formula} (h : f.postorder = g.postorder) : f = g := by
  have hf := build_postorder f []
  rw [h, build_postorder] at hf
  exact (List.singleton_inj.1 (Option.some.inj hf)).symm

/-- The postorders are the supplied sequences that leave one formula. -/
theorem exists_postorder_iff {rpn : Rpn} :
    (∃ f : Formula, rpn = f.postorder) ↔ rpn.Supplied ∧ rpn.surplus = 1 := by
  constructor
  · intro h
    obtain ⟨f, rfl⟩ := h
    have hbuild := build_postorder f []
    refine ⟨build_ne_none_iff.1 ?_, (length_of_build hbuild).symm⟩
    rw [hbuild]
    exact Option.some_ne_none [f]
  · intro h
    obtain ⟨hsupplied, hsurplus⟩ := h
    obtain ⟨stack, hstack⟩ := Option.ne_none_iff_exists'.1 (build_ne_none_iff.2 hsupplied)
    have hlength := length_of_build hstack
    obtain ⟨f, rfl⟩ : ∃ f, stack = [f] := List.length_eq_one_iff.1 (by omega)
    exact ⟨f, ofRpn_eq_ok_iff.1 (ofRpn_of_build hstack)⟩

/-- A sequence that is no postorder is refused, and for one reason. -/
theorem ofRpn_eq_error_iff {rpn : Rpn} {e : Error} :
    ofRpn rpn = .error e ↔ e = .malformed ∧ ¬ ∃ f : Formula, rpn = f.postorder := by
  cases h : ofRpn rpn with
  | ok f =>
      have hf := ofRpn_eq_ok_iff.1 h
      refine iff_of_false (by simp) ?_
      intro hnone
      exact hnone.2 ⟨f, hf⟩
  | error e' =>
      obtain rfl := eq_malformed_of_ofRpn h
      have hnone : ¬ ∃ f : Formula, rpn = f.postorder := by
        intro hpostorder
        obtain ⟨f, hf⟩ := hpostorder
        rw [ofRpn_eq_ok_iff.2 hf] at h
        cases h
      simp [hnone, eq_comm]

/-- A sequence is read as a formula exactly if it is the postorder of the formula. Every other one
is malformed: an operator lacks operands, or what is left in the end is not one formula. So a
sequence is the postorder of one formula at most, and a formula is read from one sequence only. -/
theorem ofRpn_outcome (rpn : Rpn) :
    (∀ f, ofRpn rpn = .ok f ↔ rpn = f.postorder) ∧
    (∀ e, ofRpn rpn = .error e ↔ e = .malformed ∧ ¬ ∃ f : Formula, rpn = f.postorder) ∧
    ((∃ f : Formula, rpn = f.postorder) ↔ rpn.Supplied ∧ rpn.surplus = 1) ∧
    (∀ f g : Formula, rpn = f.postorder → rpn = g.postorder → f = g) ∧
    ∀ (rpn' : Rpn) (f : Formula), ofRpn rpn = .ok f → ofRpn rpn' = .ok f → rpn = rpn' := by
  refine ⟨fun f => ofRpn_eq_ok_iff, fun e => ofRpn_eq_error_iff, exists_postorder_iff, ?_, ?_⟩
  · intro f g hf hg
    exact postorder_injective (hf.symm.trans hg)
  · intro rpn' f h h'
    rw [ofRpn_eq_ok_iff.1 h, ofRpn_eq_ok_iff.1 h']

/-- The operands of `p q →` are not read the other way round, and two such sequences in a row are
malformed, although no operator lacks operands. -/
theorem ofRpn_outcome_implication :
    let p : Variable := ⟨'p', rfl⟩
    let q : Variable := ⟨'q', rfl⟩
    let rpn : Rpn := [.var p, .var q, .op (.binary .implies)]
    let swapped : Rpn := [.var q, .var p, .op (.binary .implies)]
    let f : Formula := .binary .implies (.var p) (.var q)
    ofRpn rpn = .ok f ∧ rpn ≠ (Formula.binary .implies (.var q) (.var p)).postorder ∧
      ofRpn swapped ≠ .ok f ∧ ofRpn (rpn ++ rpn) = .error .malformed := by
  intro p q rpn swapped f
  obtain ⟨hok, -, -, hformula, hsequence⟩ := ofRpn_outcome rpn
  have hf : ofRpn rpn = .ok f := (hok f).2 rfl
  have htwice := (ofRpn_outcome (rpn ++ rpn)).2
  refine ⟨hf, ?_, ?_, (htwice.1 .malformed).2 ⟨rfl, ?_⟩⟩
  · intro hreversed
    exact absurd (hformula f _ rfl hreversed) (by decide)
  · intro hswapped
    exact absurd (hsequence swapped f hf hswapped) (by decide)
  · intro hpostorder
    exact absurd (htwice.2.1.1 hpostorder).2 (by decide)

end Formula

end Propositional
