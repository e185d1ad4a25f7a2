import Propositional.Proofs.Rpn.Compilation
/-!
# Propositional.Proofs.Rpn.Composition

Parts of a text are compiled on their own.

`Yard.PutsOut n tokens rpn` says what a part of a text contributes, wherever it is read: if nothing
that waits on top binds as tightly as `n`, then the output grows by `rpn`, except for operators that
still wait and bind at least as tightly as `n` (`Yard.Extends`). They are what the next operator of
that strength, the closing parenthesis and the end of the text release. Such parts are put together
by signs (`PutsOut.signed`) and connectives (`PutsOut.joined`).

An open parenthesis is a barrier: above it, compilation runs as if it had just begun
(`foldlM_push_above`). So a group contributes what its content is compiled to, whatever the content
is (`putsOut_group`).
-/

namespace Propositional.Yard

/-! ### Strengths -/

/-- What waits on top binds less tightly than `strength`. -/
def Below (strength : Nat) (waiting : List Waiting) : Prop :=
  ∀ o rest, waiting = .op o :: rest → o.precedence < strength

theorem Below.mono {m n : Nat} {waiting : List Waiting} (h : Below m waiting) (hmn : m ≤ n) :
    Below n waiting := by
  intro o rest hw
  exact Nat.lt_of_lt_of_le (h o rest hw) hmn

theorem below_op {n : Nat} {o : Operator} (h : o.precedence < n) (waiting : List Waiting) :
    Below n (.op o :: waiting) := by
  intro o' rest hw
  cases hw
  exact h

theorem release_of_below {strength : Nat} {waiting : List Waiting} (h : Below strength waiting)
    (output : List RpnItem) : release strength output waiting = ⟨output, waiting⟩ := by
  cases waiting with
  | nil => rfl
  | cons w waiting =>
      cases w with
      | group => rfl
      | op o => rw [release, if_neg (Nat.not_le.2 (h o waiting rfl))]

theorem release_append {strength : Nat} {ops : List Operator}
    (hops : ∀ o ∈ ops, strength ≤ o.precedence) {waiting : List Waiting}
    (hw : Below strength waiting) (output : List RpnItem) :
    release strength output (ops.map .op ++ waiting) = ⟨issue ops output, waiting⟩ := by
  induction ops generalizing output with
  | nil => exact release_of_below hw output
  | cons o ops ih =>
      have htail : ∀ o' ∈ ops, strength ≤ o'.precedence := by
        intro o' ho'
        exact hops o' (List.mem_cons_of_mem o ho')
      rw [List.map_cons, List.cons_append, release, if_pos (hops o (by simp)), issue_cons]
      exact ih htail (.op o :: output)

theorem closeGroup_append (ops : List Operator) (waiting : List Waiting)
    (output : List RpnItem) :
    closeGroup output (ops.map .op ++ .group :: waiting) = .ok ⟨issue ops output, waiting⟩ := by
  induction ops generalizing output with
  | nil => rfl
  | cons o ops ih => exact (ih (.op o :: output)).trans (by rw [issue_cons])

theorem flush_ops (ops : List Operator) (output : List RpnItem) :
    flush output (ops.map .op) = .ok (issue ops output).reverse := by
  induction ops generalizing output with
  | nil => rfl
  | cons o ops ih => exact (ih (.op o :: output)).trans (by rw [issue_cons])

/-! ### Above an open parenthesis -/

/-- The state of a compilation that has run above an open parenthesis of another one. -/
def above (base yard : Yard) : Yard :=
  ⟨yard.output ++ base.output, yard.waiting ++ .group :: base.waiting⟩

/-- An open parenthesis stops a release. -/
theorem release_above (base : Yard) (strength : Nat) (output : List RpnItem)
    (waiting : List Waiting) :
    release strength (output ++ base.output) (waiting ++ .group :: base.waiting) =
      base.above (release strength output waiting) := by
  induction waiting generalizing output with
  | nil => rfl
  | cons w waiting ih =>
      cases w with
      | group => rfl
      | op o =>
          by_cases ho : strength ≤ o.precedence
          · rw [List.cons_append, release, if_pos ho, release, if_pos ho]
            exact ih (.op o :: output)
          · rw [List.cons_append, release, if_neg ho, release, if_neg ho]
            rfl

theorem closeGroup_above (base : Yard) {output : List RpnItem} {waiting : List Waiting}
    {yard : Yard} (h : closeGroup output waiting = .ok yard) :
    closeGroup (output ++ base.output) (waiting ++ .group :: base.waiting) =
      .ok (base.above yard) := by
  induction waiting generalizing output with
  | nil => cases h
  | cons w waiting ih =>
      cases w with
      | group =>
          cases h
          rfl
      | op o => exact ih h

theorem push_above (base : Yard) {yard next : Yard} {t : Token} (h : yard.push t = .ok next) :
    (base.above yard).push t = .ok (base.above next) := by
  cases t with
  | var x =>
      cases h
      rfl
  | op o =>
      cases h
      rw [push, above, release_above]
      rfl
  | leftParen =>
      cases h
      rfl
  | rightParen => exact closeGroup_above base h

theorem foldlM_push_above (base : Yard) {tokens : List Token} {yard next : Yard}
    (h : tokens.foldlM push yard = .ok next) :
    tokens.foldlM push (base.above yard) = .ok (base.above next) := by
  induction tokens generalizing yard with
  | nil =>
      cases h
      rfl
  | cons t tokens ih =>
      rw [List.foldlM_cons] at h
      obtain ⟨mid, hmid, hnext⟩ := bind_eq_ok_iff.1 h
      rw [List.foldlM_cons, push_above base hmid, ok_bind, ih hnext]

/-- A group puts out what its content is compiled to, and leaves what waits as it was. -/
theorem foldlM_push_group {tokens : List Token} {rpn : Rpn}
    (h : tokens.foldlM push empty >>= finish = .ok rpn) (yard : Yard) :
    (Token.leftParen :: tokens ++ [Token.rightParen]).foldlM push yard =
      .ok ⟨rpn.reverse ++ yard.output, yard.waiting⟩ := by
  obtain ⟨inner, hinner, hfinish⟩ := bind_eq_ok_iff.1 h
  obtain ⟨ops, hwaiting, rfl⟩ := issued_of_flush hfinish
  have hclose : (yard.above inner).push .rightParen =
      .ok ⟨issue ops inner.output ++ yard.output, yard.waiting⟩ := by
    rw [push, above, hwaiting, closeGroup_append]
    simp [issue]
  have habove : yard.push .leftParen = .ok (yard.above empty) := rfl
  rw [List.cons_append, List.foldlM_cons, habove, ok_bind, List.foldlM_append,
    foldlM_push_above yard hinner, ok_bind, List.foldlM_cons, hclose, List.reverse_reverse]
  rfl

/-! ### Parts of a text -/

/-- The items `rpn` have been put out, except for operators on top that bind at least as tightly as
`strength` and still wait. -/
def Extends (strength : Nat) (rpn : Rpn) (before after : Yard) : Prop :=
  ∃ ops : List Operator, (∀ o ∈ ops, strength ≤ o.precedence) ∧
    after.waiting = ops.map .op ++ before.waiting ∧
    (issue ops after.output).reverse = before.output.reverse ++ rpn

theorem Extends.mono {m n : Nat} {rpn : Rpn} {before after : Yard}
    (h : Extends n rpn before after) (hmn : m ≤ n) : Extends m rpn before after := by
  obtain ⟨ops, hops, hwaiting, houtput⟩ := h
  refine ⟨ops, ?_, hwaiting, houtput⟩
  intro o ho
  exact Nat.le_trans hmn (hops o ho)

/-- An operator that waits below completes the items that were read above it. -/
theorem Extends.append_op {n : Nat} {o : Operator} {a b : Rpn} {before mid after : Yard}
    (h : Extends n b mid after) (ho : n ≤ o.precedence)
    (hwaiting : mid.waiting = .op o :: before.waiting)
    (houtput : mid.output.reverse = before.output.reverse ++ a) :
    Extends n (a ++ b ++ [.op o]) before after := by
  obtain ⟨ops, hops, hafter, hissue⟩ := h
  refine ⟨ops ++ [o], ?_, by simp [hafter, hwaiting], ?_⟩
  · intro o' ho'
    rcases List.mem_append.1 ho' with ho' | ho'
    · exact hops o' ho'
    · exact (List.mem_singleton.1 ho') ▸ ho
  · rw [reverse_issue] at hissue
    rw [reverse_issue, List.map_append, ← List.append_assoc, hissue, houtput]
    simp

/-- An operator releases what was read above an equally weak or weaker place. -/
theorem push_op_of_extends {n : Nat} {o : Operator} {rpn : Rpn} {before mid : Yard}
    (h : Extends n rpn before mid) (ho : o.precedence ≤ n)
    (hw : Below o.precedence before.waiting) :
    ∃ after, mid.push (.op o) = .ok after ∧ after.waiting = .op o :: before.waiting ∧
      after.output.reverse = before.output.reverse ++ rpn := by
  obtain ⟨ops, hops, hwaiting, houtput⟩ := h
  have hstrong : ∀ o' ∈ ops, o.precedence ≤ o'.precedence := by
    intro o' ho'
    exact Nat.le_trans ho (hops o' ho')
  have hrel := release_append hstrong hw mid.output
  refine ⟨⟨issue ops mid.output, .op o :: before.waiting⟩, ?_, rfl, houtput⟩
  rw [push, hwaiting, hrel]

/-- In a run of negation signs each one releases the one before. -/
theorem foldlM_push_signs (k : Nat) {yard : Yard}
    (hw : Below Operator.not.precedence yard.waiting) :
    ∃ after, (List.replicate (k + 1) (.op .not)).foldlM push yard = .ok after ∧
      after.waiting = .op .not :: yard.waiting ∧
      after.output.reverse = yard.output.reverse ++ List.replicate k (.op .not) := by
  induction k with
  | zero =>
      refine ⟨⟨yard.output, .op .not :: yard.waiting⟩, ?_, rfl, by simp⟩
      simp [push, release_of_below hw]
  | succ k ih =>
      obtain ⟨mid, hmid, hwaiting, houtput⟩ := ih
      have hext : Extends Operator.not.precedence (List.replicate (k + 1) (.op .not)) yard mid :=
        ⟨[.not], by simp, hwaiting, by simp [houtput, List.replicate_succ']⟩
      obtain ⟨after, hafter, hwaiting', houtput'⟩ := push_op_of_extends hext (Nat.le_refl _) hw
      refine ⟨after, ?_, hwaiting', houtput'⟩
      rw [List.replicate_succ', List.foldlM_append, hmid]
      simp [ok_bind, hafter]

/-- What the tokens contribute where nothing on top binds as tightly as `strength`. -/
def PutsOut (strength : Nat) (tokens : List Token) (rpn : Rpn) : Prop :=
  ∀ yard, Below strength yard.waiting →
    ∃ after, tokens.foldlM push yard = .ok after ∧ Extends strength rpn yard after

theorem putsOut_var (n : Nat) (x : Variable) : PutsOut n [.var x] [.var x] := by
  intro yard _
  exact ⟨{ yard with output := .var x :: yard.output }, rfl, [], by simp, rfl, by simp⟩

theorem putsOut_group (n : Nat) {tokens : List Token} {rpn : Rpn}
    (h : tokens.foldlM push empty >>= finish = .ok rpn) :
    PutsOut n (.leftParen :: tokens ++ [.rightParen]) rpn := by
  intro yard _
  exact ⟨⟨rpn.reverse ++ yard.output, yard.waiting⟩, foldlM_push_group h yard, [], by simp, rfl,
    by simp⟩

namespace PutsOut

variable {n : Nat} {tokens : List Token} {rpn : Rpn}

theorem mono {m : Nat} (h : PutsOut n tokens rpn) (hmn : m ≤ n) : PutsOut m tokens rpn := by
  intro yard hw
  obtain ⟨after, hafter, hext⟩ := h yard (hw.mono hmn)
  exact ⟨after, hafter, hext.mono hmn⟩

/-- Of a run of signs, the last one waits for the operand and the others are put out before it. -/
theorem signed (h : PutsOut (Operator.not.precedence + 1) tokens rpn) (k : Nat) :
    PutsOut Operator.not.precedence (List.replicate (k + 1) (.op .not) ++ tokens)
      (List.replicate k (.op .not) ++ rpn ++ [.op .not]) := by
  intro yard hw
  obtain ⟨mid, hmid, hwaiting, houtput⟩ := foldlM_push_signs k hw
  have hbelow : Below (Operator.not.precedence + 1) mid.waiting :=
    hwaiting ▸ below_op (Nat.lt_succ_self _) yard.waiting
  obtain ⟨after, hafter, hext⟩ := h mid hbelow
  refine ⟨after, ?_, (hext.mono (Nat.le_succ _)).append_op (Nat.le_refl _) hwaiting houtput⟩
  rw [List.foldlM_append, hmid, ok_bind, hafter]

/-- A connective releases all of its left operand and waits below its right one. -/
theorem joined {o : Operator} (ho : o.precedence = n) {l r : List Token} {a b : Rpn}
    (hl : PutsOut n l a) (hr : PutsOut (n + 1) r b) :
    PutsOut n (l ++ .op o :: r) (a ++ b ++ [.op o]) := by
  intro yard hw
  subst ho
  obtain ⟨mid, hmid, hextl⟩ := hl yard hw
  obtain ⟨pushed, hpushed, hwaiting, houtput⟩ := push_op_of_extends hextl (Nat.le_refl _) hw
  have hbelow : Below (o.precedence + 1) pushed.waiting :=
    hwaiting ▸ below_op (Nat.lt_succ_self _) yard.waiting
  obtain ⟨after, hafter, hextr⟩ := hr pushed hbelow
  refine ⟨after, ?_, (hextr.mono (Nat.le_succ _)).append_op (Nat.le_refl _) hwaiting houtput⟩
  rw [List.foldlM_append, hmid, ok_bind, List.foldlM_cons, hpushed, ok_bind, hafter]

/-- At the beginning of a text nothing waits, and at its end everything is released. -/
theorem finish_eq (h : PutsOut 0 tokens rpn) :
    tokens.foldlM push empty >>= finish = .ok rpn := by
  have hw : Below 0 empty.waiting := by
    intro o rest hw
    cases hw
  obtain ⟨after, hafter, ops, -, hwaiting, houtput⟩ := h empty hw
  have hflush : after.waiting = ops.map .op := by simpa [empty] using hwaiting
  rw [hafter, ok_bind, finish, hflush, flush_ops, houtput]
  rfl

end PutsOut

end Propositional.Yard
