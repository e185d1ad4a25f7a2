import Propositional.Proofs.Formula.Compound
import Propositional.Proofs.Formula.Meaning
/-!
# Propositional.Proofs.Formula.Replacement

Replacing a group in a text.

The text around a group need not be a formula. Its parts may be malformed, may have signs next to
the group, and may be refused. But neither part sees into the group. What has been put out before is
never looked at again (`Yard.foldlM_read_onto`), and the group leaves what waits as it was. So the
text around is compiled to a **frame** that does not depend on the group, and the group is compiled
to one piece within it (`Rpn.compile_framed`).

Nor does evaluation see into the piece. The postorder of a formula that has a value pushes this
value on any stack (`Rpn.foldlM_step_postorder`), and the items around are carried out as before.
So a group may be replaced by another one wherever it stands: by one that is compiled to the same
items, or by one that has the same value.
-/

namespace Propositional

namespace Yard

/-! ### What has been put out before -/

/-- The state with further items that were put out before. -/
def onto (base : List RpnItem) (yard : Yard) : Yard := ⟨yard.output ++ base, yard.waiting⟩

theorem relabels_append (base : List RpnItem) : Relabels id (· ++ base) :=
  ⟨fun _ _ => rfl, fun _ _ => rfl⟩

theorem finish_onto (base : List RpnItem) (yard : Yard) :
    (yard.onto base).finish = yard.finish.map (base.reverse ++ ·) := by
  have hflush := flush_mapOutput (relabels_append base) yard.output yard.waiting
  simp only [List.reverse_append, List.reverse_reverse] at hflush
  exact hflush

theorem push_onto (base : List RpnItem) (yard : Yard) (t : Token) :
    (yard.onto base).push t = (yard.push t).map (onto base) := by
  have hpush := push_mapOutput (relabels_append base) yard t
  rwa [Token.rename_id] at hpush

theorem read_onto (base : List RpnItem) (yard : Yard) (c : Char) :
    (yard.onto base).read c = (yard.read c).map (onto base) := by
  unfold read
  split
  · rfl
  · split
    · exact push_onto base yard _
    · rfl

/-- What has been put out before a text is read makes no difference to how it is read. -/
theorem foldlM_read_onto (base : List RpnItem) (text : Text) (yard : Yard) :
    text.foldlM read (yard.onto base) = (text.foldlM read yard).map (onto base) := by
  have hread := foldlM_map_commutes (k := id) (read_onto base) text yard
  rwa [List.map_id] at hread

/-- The items that a text adds to the output, where only what waits is known of the state. -/
def completion (waiting : List Waiting) (text : Text) : Except Error Rpn := do
  let yard ← text.foldlM read ⟨[], waiting⟩
  yard.finish

theorem foldlM_read_finish (output : List RpnItem) (waiting : List Waiting) (text : Text) :
    text.foldlM read ⟨output, waiting⟩ >>= finish =
      (completion waiting text).map (output.reverse ++ ·) := by
  have hread : text.foldlM read ⟨output, waiting⟩ = _ := foldlM_read_onto output text ⟨[], waiting⟩
  rw [hread, completion]
  cases text.foldlM read ⟨[], waiting⟩ with
  | error e => rfl
  | ok next => exact finish_onto output next

end Yard

namespace Rpn

/-! ### Compiling a group -/

/-- What is put out before and after a group that stands between two texts. -/
def frame (front back : Text) : Except Error (Rpn × Rpn) := do
  let yard ← front.foldlM Yard.read .empty
  let rest ← Yard.completion yard.waiting back
  return (yard.output.reverse, rest)

/-- A group is compiled to one piece within what the text around it is compiled to. -/
theorem compile_framed {a : Text} {rpn : Rpn} (h : compile a = .ok rpn) (front back : Text) :
    compile (front ++ a.grouped ++ back) =
      (frame front back).map fun around => around.1 ++ rpn ++ around.2 := by
  rw [compile, List.foldlM_append, List.foldlM_append, frame]
  cases front.foldlM Yard.read .empty with
  | error e => rfl
  | ok yard =>
      -- Behind the group the same operators wait as before it, so `back` is read as in the frame.
      rw [ok_bind, ok_bind, Yard.foldlM_read_grouped h, ok_bind, Yard.foldlM_read_finish]
      cases Yard.completion yard.waiting back with
      | error e => rfl
      | ok rest =>
          rw [List.reverse_append, List.reverse_reverse]
          rfl

/-! ### Evaluating a group -/

/-- The postorder of a formula pushes the value of the formula. -/
theorem foldlM_step_postorder {ρ : Assignment} {f : Formula} {b : Bool} (h : f.eval? ρ = some b)
    (stack : List Bool) : f.postorder.foldlM (step ρ) stack = .ok (b :: stack) := by
  induction f generalizing b stack with
  | var x =>
      have hx : ρ x = some b := h
      simp [Formula.postorder, step, hx]
  | not f ih =>
      obtain ⟨a, ha, rfl⟩ := Option.map_eq_some_iff.1 h
      rw [Formula.postorder, List.foldlM_append, ih ha]
      rfl
  | binary c l r ihl ihr =>
      rw [Formula.eval?] at h
      split at h
      · next x y hl hr =>
        obtain rfl := Option.some.inj h
        rw [Formula.postorder, List.foldlM_append, List.foldlM_append, ihl hl, ok_bind, ihr hr]
        rfl
      · cases h

/-- Within a sequence, formulas with the same value may stand for each other. -/
theorem eval_postorder_congr {ρ : Assignment} {f g : Formula} {b : Bool} (hf : f.eval? ρ = some b)
    (hg : g.eval? ρ = some b) (before after : Rpn) :
    eval ρ (before ++ f.postorder ++ after) = eval ρ (before ++ g.postorder ++ after) := by
  unfold eval run
  simp only [List.foldlM_append]
  cases before.foldlM (step ρ) [] with
  | error e => rfl
  | ok stack => rw [ok_bind, ok_bind, foldlM_step_postorder hf, foldlM_step_postorder hg]

/-! ### Replacing a group -/

/-- A group may be replaced wherever it stands, also in a text that is malformed or refused. One
that is compiled to the same items leaves the compiled text as it is. One that is a formula with the
same value leaves the refusal or the result of evaluation as it is, whatever that is. -/
theorem replace_group (front back a b : Text) :
    (∀ rpn, compile a = .ok rpn → compile b = .ok rpn →
      compile (front ++ a.grouped ++ back) = compile (front ++ b.grouped ++ back)) ∧
    ∀ (f g : Formula) (vars : VariableSet) (v : Valuation) (value : Bool),
      Formula.parse a = .ok f → Formula.parse b = .ok g →
      f.evalUnder? vars v = some value → g.evalUnder? vars v = some value →
      (∃ e, compile (front ++ a.grouped ++ back) = .error e ∧
        compile (front ++ b.grouped ++ back) = .error e) ∨
      ∃ ra rb, compile (front ++ a.grouped ++ back) = .ok ra ∧
        compile (front ++ b.grouped ++ back) = .ok rb ∧
        ra.evalUnder vars v = rb.evalUnder vars v := by
  constructor
  · intro rpn ha hb
    rw [compile_framed ha, compile_framed hb]
  · intro f g vars v value ha hb hf hg
    rw [compile_framed (Formula.compile_of_parse ha), compile_framed (Formula.compile_of_parse hb)]
    cases frame front back with
    | error e => exact Or.inl ⟨e, rfl, rfl⟩
    | ok around =>
        exact Or.inr ⟨_, _, rfl, rfl, eval_postorder_congr hf hg around.1 around.2⟩

/-- Behind `p ∧ ¬¬`, where one sign has gone to `p` before the group begins, `¬(¬q)` may stand for
`q` if `q` is false. Before a second closing parenthesis, which is refused, `((q))` may. -/
theorem replace_group_between_signs :
    let front : Text := ['p', '∧', '¬', '¬']
    let q : Text := ['q']
    let twice : Text := ['¬', '(', '¬', 'q', ')']
    let vars : VariableSet := .ofList [⟨'p', rfl⟩, ⟨'q', rfl⟩]
    compile (front ++ q.grouped ++ [')']) = compile (front ++ q.grouped.grouped.grouped ++ [')']) ∧
      ∃ ra rb, compile (front ++ q.grouped ++ []) = .ok ra ∧
        compile (front ++ twice.grouped ++ []) = .ok rb ∧ ra ≠ rb ∧
        ra.evalUnder vars (.falses 2) = rb.evalUnder vars (.falses 2) := by
  intro front q twice vars
  let x : Variable := ⟨'q', rfl⟩
  have hsame := (replace_group front [')'] q q.grouped.grouped).1 [.var x] (by rfl) (by rfl)
  have hvalue := (replace_group front [] q twice).2 (.var x) (.not (.not (.var x))) vars
    (.falses 2) false (by rfl) (by rfl) (by rfl) (by rfl)
  refine ⟨hsame, ?_⟩
  rcases hvalue with ⟨e, he, -⟩ | ⟨ra, rb, ha, hb, heq⟩
  · cases he
  · refine ⟨ra, rb, ha, hb, ?_, heq⟩
    cases ha
    cases hb
    decide

end Rpn

end Propositional
