/-!
# Propositional.Error

Why a formula is refused.

An **error** is a cause, found in the formula or in its valuation; `Error.message` is the one place
that words it. A **misuse** is a fault of the caller, which no formula can provoke: an index past
the end of a valuation, or a valuation of the wrong size where sizes are checked.
-/

namespace Propositional

/-- The causes for which a formula has no value or no table. -/
inductive Error where
  /-- No letter occurs in the formula. -/
  | noVariables
  /-- A character that is neither a token nor blank, or that names no variable where one is due. -/
  | strayCharacter (c : Char)
  /-- A parenthesis without its partner. -/
  | unbalanced
  /-- Operators and operands do not fit together. -/
  | malformed
  /-- The valuation gives this variable no value. -/
  | unassigned (name : Char)
  /-- More variables than the configuration admits. -/
  | tooManyVariables (found limit : Nat)
  deriving DecidableEq, Repr

/-- The sentence that reports an error. -/
def Error.message : Error → String
  | .noVariables => "No variables found in the expression"
  | .strayCharacter c => s!"Invalid token: {c}"
  | .unbalanced => "Mismatched parentheses"
  | .malformed => "Invalid expression"
  | .unassigned name => s!"Variable {name} is not assigned a value"
  | .tooManyVariables found limit =>
    s!"Too many variables: found {found}, but at most {limit} are allowed"

/-! ### Sequencing

In a sequence of stages the first error decides. -/

theorem ok_bind {ε α β : Type} (a : α) (f : α → Except ε β) : (Except.ok a >>= f) = f a := rfl

theorem error_bind {ε α β : Type} (e : ε) (f : α → Except ε β) :
    (Except.error e >>= f) = Except.error e := rfl

theorem bind_eq_ok_iff {ε α β : Type} {x : Except ε α} {f : α → Except ε β} {b : β} :
    (x >>= f) = Except.ok b ↔ ∃ a, x = Except.ok a ∧ f a = Except.ok b := by
  cases x with
  | error e => simp [error_bind]
  | ok a => simp [ok_bind]

theorem bind_eq_error_iff {ε α β : Type} {x : Except ε α} {f : α → Except ε β} {e : ε} :
    (x >>= f) = Except.error e ↔
      x = Except.error e ∨ ∃ a, x = Except.ok a ∧ f a = Except.error e := by
  cases x with
  | error e => simp [error_bind]
  | ok a => simp [ok_bind]

theorem map_eq_ok_iff {ε α β : Type} {x : Except ε α} {f : α → β} {b : β} :
    x.map f = Except.ok b ↔ ∃ a, x = Except.ok a ∧ f a = b := by
  cases x with
  | error e => simp [Except.map]
  | ok a => simp [Except.map]

/-- What holds at the beginning of a traversal and is kept by each element holds at its end. -/
theorem foldlM_induction {ε α β : Type} {f : β → α → Except ε β} {motive : List α → β → Prop}
    {xs : List α} {b out : β} (h : xs.foldlM f b = .ok out) (start : motive [] b)
    (step : ∀ front mid x next, motive front mid → f mid x = .ok next →
      motive (front ++ [x]) next) : motive xs out := by
  suffices hrest : ∀ front mid, motive front mid → xs.foldlM f mid = .ok out →
      motive (front ++ xs) out from hrest [] b start h
  clear h start
  induction xs with
  | nil =>
      intro front mid hmid h
      cases h
      rwa [List.append_nil]
  | cons x xs ih =>
      intro front mid hmid h
      rw [List.foldlM_cons] at h
      obtain ⟨next, hnext, hrest⟩ := bind_eq_ok_iff.1 h
      rw [List.append_cons]
      exact ih (front ++ [x]) next (step front mid x next hmid hnext) hrest

/-- A traversal fails at the first element that fails. -/
theorem foldlM_eq_error_iff {ε α β : Type} {f : β → α → Except ε β} {xs : List α} {b : β} {e : ε} :
    xs.foldlM f b = .error e ↔
      ∃ front x rest mid, xs = front ++ x :: rest ∧ front.foldlM f b = .ok mid ∧
        f mid x = .error e := by
  constructor
  · intro h
    induction xs generalizing b with
    | nil => cases h
    | cons x xs ih =>
        rw [List.foldlM_cons] at h
        rcases bind_eq_error_iff.1 h with hx | ⟨next, hnext, hxs⟩
        · exact ⟨[], x, xs, b, rfl, rfl, hx⟩
        · obtain ⟨front, y, rest, mid, hsplit, hfront, hy⟩ := ih hxs
          refine ⟨x :: front, y, rest, mid, by rw [hsplit, List.cons_append], ?_, hy⟩
          rw [List.foldlM_cons, hnext, ok_bind, hfront]
  · intro h
    obtain ⟨front, x, rest, mid, hsplit, hfront, hx⟩ := h
    rw [hsplit, List.foldlM_append, hfront, ok_bind, List.foldlM_cons, hx, error_bind]

/-- A traversal commutes with a change of its state and its input with which each step commutes. -/
theorem foldlM_map_commutes {m : Type → Type} [Monad m] [LawfulMonad m] {α β : Type}
    {f : β → α → m β} {k : α → α} {g : β → β} (h : ∀ b a, f (g b) (k a) = g <$> f b a)
    (xs : List α) (b : β) : (xs.map k).foldlM f (g b) = g <$> xs.foldlM f b := by
  induction xs generalizing b with
  | nil => simp
  | cons x xs ih =>
      rw [List.map_cons, List.foldlM_cons, List.foldlM_cons, h, map_bind, bind_map_left]
      exact bind_congr ih

/-- Faults of a caller, independent of any formula. -/
inductive Misuse where
  /-- A position past the end of a valuation. -/
  | indexOutOfBounds (size index : Nat)
  /-- A valuation whose size is not that of the variable set. -/
  | sizeMismatch (columns values : Nat)
  deriving DecidableEq, Repr

/-- The sentence that reports a misuse. -/
def Misuse.message : Misuse → String
  | .indexOutOfBounds size index =>
    s!"index out of bounds: the len is {size} but the index is {index}"
  | .sizeMismatch columns values =>
    s!"Variable set has {columns} variables, but valuation has {values}."

end Propositional
