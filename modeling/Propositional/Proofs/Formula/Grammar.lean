import Mathlib.Logic.Function.Iterate
import Propositional.Formula.Reading
import Propositional.Proofs.Formula.Postorder
import Propositional.Proofs.Rpn.Composition
/-!
# Propositional.Proofs.Formula.Grammar

Compilation against the precedence grammar.

The grammar has six tiers. The loosest four belong to the connectives, each of which groups to the
left; then come runs of negation signs, and last letters and parenthesised formulas. A `Phrase` is a
derivation, so a text is a formula of the grammar if its ink is written by the tokens of a phrase.

Compilation differs from the grammar in one point. In a run of negation signs only the last one
waits for the operand. The others **stray**: they are put out before the operand, leave every
parenthesis around it, and apply to whatever operand comes before. `Phrase.strays` counts the signs
that leave a phrase on the left and `Phrase.formula` is the tree that results inside it; together
they are the output for the phrase (`Phrase.rpn`).

The main induction (`Yard.putsOut_phrase`) reads a phrase where nothing that waits on top binds as
tightly as its tier. Each way to derive a phrase is a way to put parts of a text together.
-/

namespace Propositional

/-! ### Phrases -/

/-- The tier of a connective in the grammar, from the loosest. -/
def Connective.tier : Connective → Nat
  | .iff => 0
  | .implies => 1
  | .or => 2
  | .and => 3

/-- The derivations of the grammar, by the tier of the phrase that they derive. -/
inductive Phrase : Nat → Type where
  /-- A letter. -/
  | letter (x : Variable) : Phrase 5
  /-- A formula in parentheses. -/
  | group (e : Phrase 0) : Phrase 5
  /-- A run of `k` negation signs before a letter or a group. -/
  | signed (k : Nat) (p : Phrase 5) : Phrase 4
  /-- A phrase of the next tier, without the connective. -/
  | single (c : Connective) (e : Phrase (c.tier + 1)) : Phrase c.tier
  /-- Two phrases with the connective between them. It groups to the left. -/
  | joined (c : Connective) (l : Phrase c.tier) (r : Phrase (c.tier + 1)) : Phrase c.tier

namespace Phrase

variable {n : Nat}

/-- The tokens that a phrase consists of. -/
def tokens : {n : Nat} → Phrase n → List Token
  | _, .letter x => [.var x]
  | _, .group e => .leftParen :: e.tokens ++ [.rightParen]
  | _, .signed k p => List.replicate k (.op .not) ++ p.tokens
  | _, .single _ e => e.tokens
  | _, .joined c l r => l.tokens ++ .op (.binary c) :: r.tokens

/-- The tree that the grammar gives to a phrase. -/
def tree : {n : Nat} → Phrase n → Formula
  | _, .letter x => .var x
  | _, .group e => e.tree
  | _, .signed k p => Formula.not^[k] p.tree
  | _, .single _ e => e.tree
  | _, .joined c l r => .binary c l.tree r.tree

/-- The number of negation signs that leave a phrase on the left: of every run at the left edge all
but the last. -/
def strays : {n : Nat} → Phrase n → Nat
  | _, .letter _ => 0
  | _, .group e => e.strays
  | _, .signed k p => (k - 1) + p.strays
  | _, .single _ e => e.strays
  | _, .joined _ l _ => l.strays

/-- The tree that compilation gives to a phrase: the signs that stray from a right operand apply to
the left one. -/
def formula : {n : Nat} → Phrase n → Formula
  | _, .letter x => .var x
  | _, .group e => e.formula
  | _, .signed k p => if k = 0 then p.formula else .not p.formula
  | _, .single _ e => e.formula
  | _, .joined c l r => .binary c (Formula.not^[r.strays] l.formula) r.formula

/-- The items that compilation puts out for a phrase. -/
def rpn (p : Phrase n) : Rpn :=
  List.replicate p.strays (.op .not) ++ p.formula.postorder

/-! ### The items of a phrase -/

theorem postorder_iterate_not (k : Nat) (f : Formula) :
    (Formula.not^[k] f).postorder = f.postorder ++ List.replicate k (.op .not) := by
  induction k with
  | zero => simp
  | succ k ih =>
      rw [Function.iterate_succ_apply', Formula.postorder, ih, List.append_assoc,
        List.replicate_succ']

theorem rpn_signed_succ (k : Nat) (p : Phrase 5) :
    (signed (k + 1) p).rpn = List.replicate k (.op .not) ++ p.rpn ++ [.op .not] := by
  simp [rpn, strays, formula, Formula.postorder, ← List.replicate_append_replicate]

theorem rpn_joined (c : Connective) (l : Phrase c.tier) (r : Phrase (c.tier + 1)) :
    (joined c l r).rpn = l.rpn ++ r.rpn ++ [.op (.binary c)] := by
  simp [rpn, strays, formula, Formula.postorder, postorder_iterate_not]

/-! ### Phrases without strays -/

/-- Where no negation sign follows another, none strays, and the tree is the grammar's. -/
theorem formula_of_no_run {p : Phrase n} (h : ¬ [.op .not, .op .not] <:+: p.tokens) :
    p.strays = 0 ∧ p.formula = p.tree := by
  induction p with
  | letter x => exact ⟨rfl, rfl⟩
  | group e ih =>
      have he : e.tokens <:+: (group e).tokens := ⟨[.leftParen], [.rightParen], rfl⟩
      apply ih
      intro hrun
      exact h (hrun.trans he)
  | signed k p ih =>
      have hp : p.tokens <:+: (signed k p).tokens := (List.suffix_append _ _).isInfix
      obtain ⟨hstrays, htree⟩ := ih fun hrun => h (hrun.trans hp)
      -- None or one sign strays nothing, and two make a run.
      rcases k with _ | _ | k
      · simp [strays, formula, tree, hstrays, htree]
      · simp [strays, formula, tree, hstrays, htree]
      · exact absurd ⟨[], List.replicate k (.op .not) ++ p.tokens, rfl⟩ h
  | single c e ih => exact ih h
  | joined c l r ihl ihr =>
      have hl : l.tokens <:+: (joined c l r).tokens := (List.prefix_append _ _).isInfix
      have hr : r.tokens <:+: (joined c l r).tokens :=
        ((List.suffix_cons _ _).trans (List.suffix_append _ _)).isInfix
      obtain ⟨hlstrays, hltree⟩ := ihl fun hrun => h (hrun.trans hl)
      obtain ⟨hrstrays, hrtree⟩ := ihr fun hrun => h (hrun.trans hr)
      simp [strays, formula, tree, hlstrays, hltree, hrstrays, hrtree]

end Phrase

/-! ### Reading a phrase -/

namespace Yard

theorem precedence_binary (c : Connective) : (Operator.binary c).precedence = c.tier := by
  cases c <;> rfl

/-- Reading a phrase where it may stand puts out its items. -/
theorem putsOut_phrase {n : Nat} (p : Phrase n) : PutsOut n p.tokens p.rpn := by
  induction p with
  | letter x => exact putsOut_var 5 x
  | group e ih => exact putsOut_group 5 ih.finish_eq
  | signed k p ih =>
      cases k with
      | zero =>
          have hrpn : (Phrase.signed 0 p).rpn = p.rpn := by
            simp [Phrase.rpn, Phrase.strays, Phrase.formula]
          rw [hrpn]
          exact ih.mono (Nat.le_succ 4)
      | succ k =>
          rw [Phrase.rpn_signed_succ]
          exact ih.signed k
  | single c e ih => exact ih.mono (Nat.le_succ _)
  | joined c l r ihl ihr =>
      rw [Phrase.rpn_joined]
      exact ihl.joined (precedence_binary c) ihr

/-- A formula of the grammar is compiled to the items of its derivation. -/
theorem compile_phrase (p : Phrase 0) {text : Text} (h : text.ink = p.tokens.map Token.char) :
    Rpn.compile text = .ok p.rpn := by
  rw [compile_of_ink h]
  exact (putsOut_phrase p).finish_eq

end Yard

namespace Formula

/-- A sequence that begins with a negation has no formula: there is no operand yet. -/
theorem ofRpn_not_cons (rpn : Rpn) : ofRpn (.op .not :: rpn) = .error .malformed := rfl

/-- A text of the grammar is read as the tree of its derivation, in which stray signs apply to the
operand before, unless a sign strays out of the whole text. Where no sign follows another, this is
the tree of the grammar. -/
theorem parse_phrase (p : Phrase 0) {text : Text} (h : text.ink = p.tokens.map Token.char) :
    parse text = (if p.strays = 0 then .ok p.formula else .error .malformed) ∧
    (¬ [.op .not, .op .not] <:+: p.tokens → parse text = .ok p.tree) := by
  have hparse : parse text = if p.strays = 0 then .ok p.formula else .error .malformed := by
    rw [parse, Yard.compile_phrase p h, ok_bind, Phrase.rpn]
    cases p.strays with
    | zero => exact ofRpn_eq_ok_iff.2 rfl
    | succ k => exact ofRpn_not_cons _
  refine ⟨hparse, ?_⟩
  intro hrun
  obtain ⟨hstrays, htree⟩ := Phrase.formula_of_no_run hrun
  rw [hparse, if_pos hstrays, htree]

/-- In `p ∧ ¬ ¬q` the first sign strays to `p`. -/
theorem parse_phrase_stray_sign :
    let p : Variable := ⟨'p', rfl⟩
    let q : Variable := ⟨'q', rfl⟩
    let e : Phrase 0 := .single .iff (.single .implies (.single .or
      (.joined .and (.single .and (.signed 0 (.letter p))) (.signed 2 (.letter q)))))
    let text : Text := ['p', ' ', '∧', ' ', '¬', ' ', '¬', 'q']
    text.ink = e.tokens.map Token.char ∧ e.strays = 0 ∧
      parse text = .ok (.binary .and (.not (.var p)) (.not (.var q))) := by
  intro p q e text
  have hink : text.ink = e.tokens.map Token.char := by decide
  exact ⟨hink, rfl, (parse_phrase e hink).1⟩

end Formula

end Propositional
