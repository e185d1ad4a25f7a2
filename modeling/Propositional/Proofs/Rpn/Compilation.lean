import Propositional.Proofs.Formula.Postorder
import Propositional.Rpn.Compilation
/-!
# Propositional.Proofs.Rpn.Compilation

What compilation releases, and what it keeps.

A compilation moves operators from the stack of what waits to the output, always the latest first:
`Yard.issue` is the output after some operators have moved. Releasing down to a weaker operator,
closing a group and ending the text all issue a top part of the stack, and the lemmas below say
which part. What has been put out is not looked at again (`push_mapOutput`). Variables never wait.
So the output holds the variables of the text, in the same order and as often (`leaves_of_compile`),
and since blanks change nothing, a text is compiled as the tokens that its characters write
(`compile_of_ink`). Parentheses are not issued, so whether tokens are compiled is a matter of
counting them (`exists_compiled_iff`).
-/

namespace Propositional

/-! ### Characters of tokens -/

@[simp] theorem Token.isBlank_char (t : Token) : isBlank t.char = false := by
  cases t with
  | var x => exact isBlank_of_isLower x.isLower
  | op o => exact Operator.isBlank_symbol o
  | leftParen => decide
  | rightParen => decide

/-- Only the token of a variable is written with a letter. -/
theorem Variable.ofChar?_char (t : Token) :
    Variable.ofChar? t.char = match t with
      | .var x => some x
      | _ => none := by
  cases t with
  | var x => exact Variable.ofChar?_name x
  | op o =>
      cases o with
      | not => decide
      | binary c => cases c <;> decide
  | leftParen => decide
  | rightParen => decide

/-- The token with another name for its variable, if it has one. -/
def Token.rename (r : Variable → Variable) : Token → Token
  | .var x => .var (r x)
  | t => t

@[simp] theorem Token.rename_id (t : Token) : t.rename id = t := by
  cases t <;> rfl

/-- The number of open parentheses after a token, of which `n` were open before. A parenthesis that
closes none is refused. -/
def Token.depth? (n : Nat) : Token → Option Nat
  | .leftParen => some (n + 1)
  | .rightParen =>
    match n with
    | 0 => none
    | m + 1 => some m
  | _ => some n

theorem Token.depth?_eq_none_iff {n : Nat} {t : Token} :
    Token.depth? n t = none ↔ t = .rightParen ∧ n = 0 := by
  cases t with
  | var x => simp [Token.depth?]
  | op o => simp [Token.depth?]
  | leftParen => simp [Token.depth?]
  | rightParen => cases n <;> simp [Token.depth?]

/-- A parenthesis opens one group or closes one. -/
theorem Token.depth_balance {n m : Nat} {t : Token} (h : Token.depth? n t = some m) :
    m + (if t = .rightParen then 1 else 0) = n + if t = .leftParen then 1 else 0 := by
  cases t with
  | var x => simpa [Token.depth?] using h.symm
  | op o => simpa [Token.depth?] using h.symm
  | leftParen => simpa [Token.depth?] using h.symm
  | rightParen =>
      cases n with
      | zero => cases h
      | succ n => simpa [Token.depth?] using h.symm

namespace Yard

/-! ### Issued operators -/

/-- The output after operators, the latest first, have moved from the stack to it. -/
def issue (ops : List Operator) (output : List RpnItem) : List RpnItem :=
  (ops.map RpnItem.op).reverse ++ output

@[simp] theorem issue_nil (output : List RpnItem) : issue [] output = output := rfl

@[simp] theorem issue_cons (o : Operator) (ops : List Operator) (output : List RpnItem) :
    issue (o :: ops) output = issue ops (.op o :: output) := by
  simp [issue]

theorem reverse_issue (ops : List Operator) (output : List RpnItem) :
    (issue ops output).reverse = output.reverse ++ ops.map RpnItem.op := by
  simp [issue]

@[simp] theorem leaves_issue (ops : List Operator) (output : List RpnItem) :
    Rpn.leaves (issue ops output).reverse = Rpn.leaves output.reverse := by
  induction ops generalizing output with
  | nil => rfl
  | cons o ops ih => simp [ih]

theorem release_eq (strength : Nat) (output : List RpnItem) (waiting : List Waiting) :
    ∃ ops rest, waiting = ops.map .op ++ rest ∧
      release strength output waiting = ⟨issue ops output, rest⟩ := by
  induction waiting generalizing output with
  | nil => exact ⟨[], [], rfl, rfl⟩
  | cons w waiting ih =>
      cases w with
      | group => exact ⟨[], .group :: waiting, rfl, rfl⟩
      | op o =>
          by_cases ho : strength ≤ o.precedence
          · obtain ⟨ops, rest, rfl, hrel⟩ := ih (.op o :: output)
            exact ⟨o :: ops, rest, rfl, by rw [release, if_pos ho, hrel, issue_cons]⟩
          · exact ⟨[], .op o :: waiting, rfl, by rw [release, if_neg ho, issue_nil]⟩

theorem issued_of_closeGroup {output : List RpnItem} {waiting : List Waiting} {yard : Yard}
    (h : closeGroup output waiting = .ok yard) :
    ∃ ops, waiting = ops.map .op ++ .group :: yard.waiting ∧ yard.output = issue ops output := by
  induction waiting generalizing output with
  | nil => cases h
  | cons w waiting ih =>
      cases w with
      | group =>
          cases h
          exact ⟨[], rfl, rfl⟩
      | op o =>
          obtain ⟨ops, hwaiting, houtput⟩ := ih h
          exact ⟨o :: ops, by rw [hwaiting]; rfl, by rw [houtput, issue_cons]⟩

theorem issued_of_flush {output : List RpnItem} {waiting : List Waiting} {rpn : Rpn}
    (h : flush output waiting = .ok rpn) :
    ∃ ops, waiting = ops.map .op ∧ rpn = (issue ops output).reverse := by
  induction waiting generalizing output with
  | nil =>
      cases h
      exact ⟨[], rfl, rfl⟩
  | cons w waiting ih =>
      cases w with
      | group => cases h
      | op o =>
          obtain ⟨ops, rfl, rfl⟩ := ih h
          exact ⟨o :: ops, rfl, by rw [issue_cons]⟩

/-! ### What has been put out -/

/-- The state with another output. -/
def mapOutput (g : List RpnItem → List RpnItem) (yard : Yard) : Yard :=
  ⟨g yard.output, yard.waiting⟩

/-- The change of an output goes on when further items are put out: an operator stays as it is, and
a variable gets the name that `r` gives it. -/
structure Relabels (r : Variable → Variable) (g : List RpnItem → List RpnItem) : Prop where
  op : ∀ o output, g (.op o :: output) = .op o :: g output
  var : ∀ x output, g (.var x :: output) = .var (r x) :: g output

section Relabels

variable {r : Variable → Variable} {g : List RpnItem → List RpnItem} (h : Relabels r g)

include h

theorem release_mapOutput (strength : Nat) (output : List RpnItem) (waiting : List Waiting) :
    release strength (g output) waiting = (release strength output waiting).mapOutput g := by
  induction waiting generalizing output with
  | nil => rfl
  | cons w waiting ih =>
      cases w with
      | group => rfl
      | op o =>
          rw [release, release, ← h.op]
          split
          · exact ih (.op o :: output)
          · rfl

theorem closeGroup_mapOutput (output : List RpnItem) (waiting : List Waiting) :
    closeGroup (g output) waiting = (closeGroup output waiting).map (mapOutput g) := by
  induction waiting generalizing output with
  | nil => rfl
  | cons w waiting ih =>
      cases w with
      | group => rfl
      | op o =>
          rw [closeGroup, closeGroup, ← h.op]
          exact ih (.op o :: output)

theorem flush_mapOutput (output : List RpnItem) (waiting : List Waiting) :
    flush (g output) waiting = (flush output waiting).map fun rpn => (g rpn.reverse).reverse := by
  induction waiting generalizing output with
  | nil => simp [flush, Except.map]
  | cons w waiting ih =>
      cases w with
      | group => rfl
      | op o =>
          rw [flush, flush, ← h.op]
          exact ih (.op o :: output)

/-- What has been put out is not looked at again. -/
theorem push_mapOutput (yard : Yard) (t : Token) :
    (yard.mapOutput g).push (t.rename r) = (yard.push t).map (mapOutput g) := by
  cases t with
  | var x => exact congrArg (fun output => Except.ok (mk output _)) (h.var x yard.output).symm
  | op o =>
      have hrelease := release_mapOutput h o.precedence yard.output yard.waiting
      simp only [Token.rename, push, mapOutput, Except.map, hrelease]
  | leftParen => rfl
  | rightParen => exact closeGroup_mapOutput h yard.output yard.waiting

end Relabels

/-! ### Blanks and tokens -/

theorem read_of_isBlank {c : Char} (h : isBlank c = true) (yard : Yard) :
    yard.read c = .ok yard := by
  rw [read, if_pos h]

theorem read_char (yard : Yard) (t : Token) : yard.read t.char = yard.push t := by
  simp [read]

/-- The two ways in which a character can be read. -/
theorem read_cases {yard next : Yard} {c : Char} (h : yard.read c = .ok next) :
    (isBlank c = true ∧ next = yard) ∨ ∃ t : Token, c = t.char ∧ yard.push t = .ok next := by
  unfold read at h
  split at h
  · next hc => exact Or.inl ⟨hc, (Except.ok.inj h).symm⟩
  · split at h
    · next t ht => exact Or.inr ⟨t, (Token.ofChar?_eq_some_iff.1 ht).symm, h⟩
    · cases h

/-- Blanks change nothing. -/
theorem foldlM_read_ink (text : Text) (yard : Yard) :
    text.foldlM read yard = text.ink.foldlM read yard := by
  induction text generalizing yard with
  | nil => rfl
  | cons c text ih =>
      cases hc : isBlank c with
      | true =>
          rw [Text.ink_cons_of_isBlank hc, ← ih, List.foldlM_cons, read_of_isBlank hc, ok_bind]
      | false =>
          rw [Text.ink_cons_of_not_isBlank hc, List.foldlM_cons, List.foldlM_cons]
          exact bind_congr ih

theorem foldlM_read_chars (tokens : List Token) (yard : Yard) :
    (tokens.map Token.char).foldlM read yard = tokens.foldlM push yard := by
  rw [List.foldlM_map]
  congr 1
  funext y t
  exact read_char y t

/-- A text is compiled as the tokens that its characters write. -/
theorem compile_of_ink {text : Text} {tokens : List Token}
    (h : text.ink = tokens.map Token.char) :
    Rpn.compile text = tokens.foldlM push empty >>= finish := by
  rw [Rpn.compile, foldlM_read_ink, h, foldlM_read_chars]

/-! ### Variables -/

/-- The variables put out so far, in the order of the text. -/
def leaves (yard : Yard) : List Variable := Rpn.leaves yard.output.reverse

theorem leaves_of_push {yard next : Yard} {t : Token} (h : yard.push t = .ok next) :
    next.leaves = yard.leaves ++ (Variable.ofChar? t.char).toList := by
  rw [Variable.ofChar?_char]
  cases t with
  | var x =>
      cases h
      simp [leaves]
  | op o =>
      obtain ⟨ops, rest, -, hrel⟩ := release_eq o.precedence yard.output yard.waiting
      cases h
      simp [leaves, hrel]
  | leftParen =>
      cases h
      simp [leaves]
  | rightParen =>
      obtain ⟨ops, -, houtput⟩ := issued_of_closeGroup h
      simp [leaves, houtput]

theorem leaves_of_read {yard next : Yard} {c : Char} (h : yard.read c = .ok next) :
    next.leaves = yard.leaves ++ (Variable.ofChar? c).toList := by
  rcases read_cases h with ⟨hc, rfl⟩ | ⟨t, rfl, ht⟩
  · simp [Variable.ofChar?_eq_none_iff.2 (isLower_of_isBlank hc)]
  · exact leaves_of_push ht

theorem leaves_of_foldlM_read {text : Text} {yard : Yard}
    (h : text.foldlM read empty = .ok yard) : yard.leaves = text.filterMap Variable.ofChar? := by
  refine foldlM_induction (motive := fun front mid => mid.leaves = front.filterMap _) h rfl ?_
  intro front mid c next hmid hnext
  rw [leaves_of_read hnext, hmid, List.filterMap_append]
  cases hc : Variable.ofChar? c <;> simp [hc]

/-- The output of a compilation has the variables of the text, in the same order and as often. -/
theorem leaves_of_compile {text : Text} {rpn : Rpn} (h : Rpn.compile text = .ok rpn) :
    rpn.leaves = text.filterMap Variable.ofChar? := by
  obtain ⟨yard, hyard, hfinish⟩ := bind_eq_ok_iff.1 h
  obtain ⟨ops, -, rfl⟩ := issued_of_flush hfinish
  rw [leaves_issue]
  exact leaves_of_foldlM_read hyard

/-! ### Parentheses -/

/-- The number of open parentheses. -/
def depth (yard : Yard) : Nat := yard.waiting.count .group

@[simp] theorem depth_mk_group (output : List RpnItem) (waiting : List Waiting) :
    depth ⟨output, .group :: waiting⟩ = depth ⟨output, waiting⟩ + 1 :=
  List.count_cons_self

@[simp] theorem depth_mk_op (output : List RpnItem) (o : Operator) (waiting : List Waiting) :
    depth ⟨output, .op o :: waiting⟩ = depth ⟨output, waiting⟩ :=
  List.count_cons_of_ne (by simp)

/-- Operators that are issued leave the parentheses around them. -/
theorem depth_release (strength : Nat) (output : List RpnItem) (waiting : List Waiting) :
    (release strength output waiting).depth = depth ⟨output, waiting⟩ := by
  induction waiting generalizing output with
  | nil => rfl
  | cons w waiting ih =>
      cases w with
      | group => rfl
      | op o =>
          rw [release]
          split
          · rw [ih, depth_mk_op]
            rfl
          · rfl

/-- Parentheses are counted, and a closing one without a partner is refused. -/
theorem depth_of_push (yard : Yard) (t : Token) :
    (yard.push t).toOption.map depth = Token.depth? yard.depth t := by
  obtain ⟨output, waiting⟩ := yard
  cases t with
  | var x => rfl
  | op o =>
      have hdepth := depth_release o.precedence output waiting
      exact congrArg some ((depth_mk_op _ o _).trans hdepth)
  | leftParen => exact congrArg some (depth_mk_group output waiting)
  | rightParen =>
      rw [push]
      induction waiting generalizing output with
      | nil => rfl
      | cons w waiting ih =>
          cases w with
          | group =>
              rw [depth_mk_group]
              rfl
          | op o =>
              rw [depth_mk_op]
              exact ih (.op o :: output)

theorem exists_finish_iff (yard : Yard) : (∃ rpn, yard.finish = .ok rpn) ↔ yard.depth = 0 := by
  obtain ⟨output, waiting⟩ := yard
  rw [finish]
  induction waiting generalizing output with
  | nil => exact iff_of_true ⟨_, rfl⟩ rfl
  | cons w waiting ih =>
      cases w with
      | group => simp [flush]
      | op o =>
          rw [depth_mk_op]
          exact ih (.op o :: output)

/-- The tokens are compiled if and only if their parentheses match. -/
theorem exists_compiled_iff (tokens : List Token) (yard : Yard) :
    (∃ rpn, tokens.foldlM push yard >>= finish = .ok rpn) ↔
      tokens.foldlM Token.depth? yard.depth = some 0 := by
  induction tokens generalizing yard with
  | nil => simpa using exists_finish_iff yard
  | cons t tokens ih =>
      have hstep := depth_of_push yard t
      rw [List.foldlM_cons, List.foldlM_cons, ← hstep]
      cases yard.push t with
      | error e => simp [error_bind, Except.toOption]
      | ok next => exact ih next

/-! ### Refusals

Parentheses are all that is judged once a character has been read as a token. -/

theorem eq_unbalanced_of_closeGroup {output : List RpnItem} {waiting : List Waiting} {e : Error}
    (h : closeGroup output waiting = .error e) : e = .unbalanced := by
  induction waiting generalizing output with
  | nil =>
      cases h
      rfl
  | cons w waiting ih =>
      cases w with
      | group => cases h
      | op o => exact ih h

theorem eq_unbalanced_of_flush {output : List RpnItem} {waiting : List Waiting} {e : Error}
    (h : flush output waiting = .error e) : e = .unbalanced := by
  induction waiting generalizing output with
  | nil => cases h
  | cons w waiting ih =>
      cases w with
      | group =>
          cases h
          rfl
      | op o => exact ih h

end Yard

end Propositional
