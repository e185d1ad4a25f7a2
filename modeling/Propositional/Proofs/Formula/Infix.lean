import Propositional.Proofs.Formula.Compound
/-!
# Propositional.Proofs.Formula.Infix

Infix formulas, and what is read as a formula besides.

A word of the infix grammar (`Infix`) is recognised by two scans from the left, neither of which
looks at more than one token: one counts the open parentheses (`Token.depth?`), the other remembers
whether an operand is due (`Token.due?`). Both succeed exactly on the words of the grammar
(`infix_iff`).

Compilation makes the first scan only. Where operands and operators stand is never looked at; that
each operator finds its operands is judged afterwards, when operators have been moved behind them.
So a token in a wrong place is not always noticed. The texts outside of the grammar that are read as
formulas are those that fail the second scan (`Formula.infix_iff_of_parse`). Among them are any two
operands side by side with a connective behind them (`Formula.parse_operator_last`).
-/

namespace Propositional

/-! ### The infix grammar -/

/-- The parts of an infix formula. -/
inductive Infix.Part where
  /-- What a negation sign may stand before. -/
  | operand
  /-- One or more operands with connectives between them. -/
  | formula

/-- The infix grammar: the tokens are a part of the given kind. -/
inductive Infix : Infix.Part → List Token → Prop where
  | letter (x : Variable) : Infix .operand [.var x]
  | negated {u : List Token} (h : Infix .operand u) : Infix .operand (.op .not :: u)
  | grouped {e : List Token} (h : Infix .formula e) :
    Infix .operand (.leftParen :: e ++ [.rightParen])
  | single {u : List Token} (h : Infix .operand u) : Infix .formula u
  | joined {a b : List Token} (c : Connective) (ha : Infix .formula a) (hb : Infix .formula b) :
    Infix .formula (a ++ .op (.binary c) :: b)

/-- Whether an operand is due after a token, where one was `due` before or had just ended. Refused
are an operand behind an operand, and a connective or a closing parenthesis where an operand is
due. -/
def Token.due? : Bool → Token → Option Bool
  | true, .var _ => some false
  | true, .op .not => some true
  | true, .leftParen => some true
  | false, .op (.binary _) => some true
  | false, .rightParen => some false
  | _, _ => none

namespace Infix

variable {k : Part} {tokens : List Token}

/-! ### Scanning a word of the grammar -/

/-- A part of a formula begins where an operand is due, and none is due behind it. -/
theorem due_eq (h : Infix k tokens) : tokens.foldlM Token.due? true = some false := by
  induction h with
  | letter x => rfl
  | negated _ ih => simpa [Token.due?] using ih
  | grouped _ ih => simp [Token.due?, ih]
  | single _ ih => exact ih
  | joined c _ _ iha ihb => simp [Token.due?, iha, ihb]

/-- Within a part of a formula parentheses match. -/
theorem depth_eq (h : Infix k tokens) (n : Nat) : tokens.foldlM Token.depth? n = some n := by
  induction h generalizing n with
  | letter x => rfl
  | negated _ ih => simpa [Token.depth?] using ih n
  | grouped _ ih => simp [Token.depth?, ih]
  | single _ ih => exact ih n
  | joined c _ _ iha ihb => simp [Token.depth?, iha, ihb]

/-! ### A word of the grammar from its scans -/

/-- A sign before a formula belongs to its first operand. -/
theorem sign_cons (h : Infix k tokens) : Infix k (.op .not :: tokens) := by
  induction h with
  | letter x => exact (Infix.letter x).negated
  | negated h _ => exact h.negated.negated
  | grouped h _ => exact h.grouped.negated
  | single _ ih => exact ih.single
  | joined c _ hb iha _ => exact iha.joined c hb

/-- The tokens complete a formula, of which an operand is due or one operand has been read. -/
def Completes : Bool → List Token → Prop
  | true, tokens => Infix .formula tokens
  | false, tokens => ∀ u, Infix .operand u → Infix .formula (u ++ tokens)

theorem completes_nil : Completes false [] := by
  intro u hu
  rw [List.append_nil]
  exact hu.single

theorem completes_letter (x : Variable) (h : Completes false tokens) :
    Completes true (.var x :: tokens) :=
  h [.var x] (.letter x)

theorem completes_sign (h : Completes true tokens) : Completes true (.op .not :: tokens) :=
  sign_cons h

theorem completes_connective (c : Connective) (h : Completes true tokens) :
    Completes false (.op (.binary c) :: tokens) :=
  fun _ hu => hu.single.joined c h

theorem completes_group {e : List Token} (he : Completes true e) (h : Completes false tokens) :
    Completes true (.leftParen :: e ++ [.rightParen] ++ tokens) :=
  h _ (Infix.grouped he)

/-- The tokens complete a formula within `n` open parentheses, then the formulas around them. -/
def Fills (due : Bool) : Nat → List Token → Prop
  | 0, tokens => Completes due tokens
  | n + 1, tokens => ∃ e rest, tokens = e ++ .rightParen :: rest ∧ Completes due e ∧
      Fills false n rest

/-- What is read in front belongs to the innermost formula. -/
theorem Fills.append {due due' : Bool} {front : List Token} {n : Nat}
    (hfront : ∀ e, Completes due' e → Completes due (front ++ e)) (h : Fills due' n tokens) :
    Fills due n (front ++ tokens) := by
  cases n with
  | zero => exact hfront tokens h
  | succ n =>
      obtain ⟨e, rest, rfl, he, hrest⟩ := h
      exact ⟨front ++ e, rest, by simp, hfront e he, hrest⟩

theorem Fills.cons {due due' : Bool} {t : Token} {n : Nat}
    (ht : ∀ e, Completes due' e → Completes due (t :: e)) (h : Fills due' n tokens) :
    Fills due n (t :: tokens) := by
  show Fills due n ([t] ++ tokens)
  exact h.append ht

/-- A token in its place is a step towards what is due. -/
theorem fills_cons {due due' : Bool} {n n' : Nat} {t : Token}
    (hdue : Token.due? due t = some due') (hdepth : Token.depth? n t = some n')
    (h : Fills due' n' tokens) : Fills due n (t :: tokens) := by
  unfold Token.due? at hdue
  split at hdue
  · next x =>
    cases hdue
    cases hdepth
    exact h.cons fun _ => completes_letter x
  · cases hdue
    cases hdepth
    exact h.cons fun _ => completes_sign
  · cases hdue
    cases hdepth
    -- What the parentheses enclose is an operand of the formula around them.
    obtain ⟨e, rest, rfl, he, hrest⟩ := h
    have hgroup : Fills true n _ := hrest.append fun _ => completes_group he
    simpa using hgroup
  · next c =>
    cases hdue
    cases hdepth
    exact h.cons fun _ => completes_connective c
  · cases hdue
    cases n with
    | zero => cases hdepth
    | succ n =>
        cases hdepth
        exact ⟨[], tokens, rfl, completes_nil, h⟩
  · cases hdue

/-- What both scans pass completes what has been read before. -/
theorem fills_of_scans {due : Bool} {n : Nat} (hdue : tokens.foldlM Token.due? due = some false)
    (hdepth : tokens.foldlM Token.depth? n = some 0) : Fills due n tokens := by
  induction tokens generalizing due n with
  | nil =>
      obtain rfl : due = false := by simpa using hdue
      obtain rfl : n = 0 := by simpa using hdepth
      exact completes_nil
  | cons t tokens ih =>
      rw [List.foldlM_cons] at hdue hdepth
      obtain ⟨due', htdue, hdue⟩ := Option.bind_eq_some_iff.1 hdue
      obtain ⟨n', htdepth, hdepth⟩ := Option.bind_eq_some_iff.1 hdepth
      exact fills_cons htdue htdepth (ih hdue hdepth)

end Infix

/-- The words of the grammar are the tokens of which each stands in its place and whose parentheses
match. -/
theorem infix_iff {tokens : List Token} :
    Infix .formula tokens ↔
      tokens.foldlM Token.due? true = some false ∧ tokens.foldlM Token.depth? 0 = some 0 :=
  ⟨fun h => ⟨h.due_eq, h.depth_eq 0⟩, fun h => Infix.fills_of_scans h.1 h.2⟩

instance (tokens : List Token) : Decidable (Infix .formula tokens) :=
  decidable_of_iff' _ infix_iff

/-! ### Texts that are read as formulas -/

namespace Formula

/-- The parentheses of a text that is read as a formula match. So the text is a word of the grammar
if and only if each of its tokens stands in its place. -/
theorem infix_iff_of_parse {text : Text} {f : Formula} (h : parse text = .ok f) :
    ∃ tokens : List Token, text.ink = tokens.map Token.char ∧
      (Infix .formula tokens ↔ tokens.foldlM Token.due? true = some false) := by
  obtain ⟨tokens, hink, hcompiled⟩ := Yard.exists_tokens_of_compile (compile_of_parse h)
  have hdepth : tokens.foldlM Token.depth? 0 = some 0 :=
    (Yard.exists_compiled_iff tokens .empty).1 ⟨_, hcompiled⟩
  refine ⟨tokens, hink, ?_⟩
  rw [infix_iff]
  exact and_iff_left hdepth

/-- The text `p()` is read as `p`, and is no infix formula. -/
theorem infix_iff_of_parse_empty_group :
    let text : Text := ['p', '(', ')']
    parse text = .ok (.var ⟨'p', rfl⟩) ∧
      ∃ tokens : List Token, text.ink = tokens.map Token.char ∧ ¬ Infix .formula tokens := by
  intro text
  have hparse : parse text = .ok (.var ⟨'p', rfl⟩) := by decide
  obtain ⟨tokens, hink, hiff⟩ := infix_iff_of_parse hparse
  refine ⟨hparse, tokens, hink, ?_⟩
  obtain rfl : tokens = [.var ⟨'p', rfl⟩, .leftParen, .rightParen] := by
    refine List.map_injective_iff.2 (fun _ _ => Token.char_injective) (hink.symm.trans ?_)
    decide
  rw [hiff]
  decide

/-- Two operands side by side are read as a formula if a connective comes after them. -/
theorem parse_operator_last (c : Connective) {a b : Text} {f g : Formula}
    (ha : parse a = .ok f) (hb : parse b = .ok g) :
    parse (a.grouped ++ b.grouped ++ [(Operator.binary c).symbol]) = .ok (.binary c f g) := by
  have hconnective : ∀ yard : Yard,
      yard.read (Operator.binary c).symbol = yard.push (.op (.binary c)) :=
    fun yard => yard.read_char (.op (.binary c))
  refine parse_of_compile ?_
  rw [Rpn.compile, List.foldlM_append, List.foldlM_append,
    Yard.foldlM_read_grouped (compile_of_parse ha), ok_bind,
    Yard.foldlM_read_grouped (compile_of_parse hb), ok_bind]
  simp [hconnective, ok_bind, Yard.push, Yard.release, Yard.empty, Yard.finish, Yard.flush,
    postorder]

/-- The text `p q ∧` is read as `p ∧ q`, and its tokens are no infix formula. -/
theorem parse_operator_last_letters :
    let text : Text := ['p', ' ', 'q', ' ', '∧']
    parse text = .ok (.binary .and (.var ⟨'p', rfl⟩) (.var ⟨'q', rfl⟩)) ∧
      ¬ ∃ tokens : List Token, text.ink = tokens.map Token.char ∧ Infix .formula tokens := by
  intro text
  refine ⟨by decide, ?_⟩
  intro hinfix
  obtain ⟨tokens, hink, hinfix⟩ := hinfix
  obtain rfl : tokens = [.var ⟨'p', rfl⟩, .var ⟨'q', rfl⟩, .op (.binary .and)] := by
    refine List.map_injective_iff.2 (fun _ _ => Token.char_injective) (hink.symm.trans ?_)
    decide
  revert hinfix
  decide

end Formula

end Propositional
