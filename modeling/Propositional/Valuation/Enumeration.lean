import Propositional.Valuation
/-!
# Propositional.Valuation.Enumeration

All valuations of one size, in the order of the rows of a truth table.

An **enumeration** is known by the valuation that it yields next; after each one comes the
valuation that writes the next number, until there is none. So it starts at `falses`, ends at
`trues`, and needs no more room than a single valuation. `remaining` says in advance how many
valuations are to come, and bounds every traversal. `Enumeration.mapM` traverses an enumeration
without listing it; a traversal that fails early has made no more valuations than it used.
-/

namespace Propositional

/-- The valuations still to come. -/
structure Enumeration where
  next? : Option Valuation
  deriving DecidableEq, Repr

namespace Enumeration

def empty : Enumeration := ⟨none⟩

/-- All valuations of `size` columns. -/
def ofSize (size : Nat) : Enumeration := ⟨some (Valuation.falses size)⟩

/-- The valuations that come after `v`. -/
def after (v : Valuation) : Enumeration := ⟨v.succ?⟩

/-- How many valuations are to come. -/
def remaining (e : Enumeration) : Nat :=
  match e.next? with
  | none => 0
  | some v => 1 <<< v.size - Bits.toNat v.values

/-- What comes after the first `k` valuations. -/
def drop : Nat → Enumeration → Enumeration
  | 0, e => e
  | _ + 1, ⟨none⟩ => empty
  | k + 1, ⟨some v⟩ => drop k (after v)

/-- The first `k` valuations, or all if there are fewer, behind those already `taken` in reverse
order. -/
def takeOnto (taken : List Valuation) : Nat → Enumeration → List Valuation
  | 0, _ => taken.reverse
  | _ + 1, ⟨none⟩ => taken.reverse
  | k + 1, ⟨some v⟩ => takeOnto (v :: taken) k (after v)

/-- The first `k` valuations, or all if there are fewer. -/
def take (k : Nat) (e : Enumeration) : List Valuation := takeOnto [] k e

def toList (e : Enumeration) : List Valuation := e.take e.remaining

theorem takeOnto_eq (taken : List Valuation) (k : Nat) (e : Enumeration) :
    takeOnto taken k e = taken.reverse ++ e.take k := by
  induction k generalizing taken e with
  | zero => simp [takeOnto, take]
  | succ k ih =>
      obtain ⟨next⟩ := e
      cases next with
      | none => simp [takeOnto, take]
      | some v => simp [takeOnto, take, ih (v :: taken), ih [v]]

@[simp] theorem take_zero (e : Enumeration) : e.take 0 = [] := rfl

@[simp] theorem take_none (k : Nat) : take k ⟨none⟩ = [] := by
  cases k <;> rfl

@[simp] theorem take_some (k : Nat) (v : Valuation) :
    take (k + 1) ⟨some v⟩ = v :: take k (after v) := by
  rw [take, takeOnto, takeOnto_eq]
  rfl

/-- One valuation fewer is to come after each. -/
theorem remaining_some (v : Valuation) :
    remaining ⟨some v⟩ = (after v).remaining + 1 := by
  have hlt := Bits.toNat_lt v.values
  cases h : Bits.succ? v.values with
  | none =>
      have := Bits.succ?_eq_none_iff.1 h
      simp only [remaining, after, Valuation.succ?, h, Valuation.size, Option.map_none]
      omega
  | some next =>
      have hn := Bits.toNat_of_succ? h
      have hl := Bits.length_of_succ? h
      simp only [remaining, after, Valuation.succ?, h, Valuation.size, Option.map_some, hl, hn]
      have := Bits.toNat_lt next
      rw [hl, hn] at this
      omega

@[simp] theorem toList_none : toList ⟨none⟩ = [] := rfl

@[simp] theorem toList_some (v : Valuation) : toList ⟨some v⟩ = v :: toList (after v) := by
  rw [toList, remaining_some, take_some, toList]

/-! ### Traversal -/

/-- The results of `f` for the first `k` valuations, in order, behind those already `done` in
reverse order. The next valuation is made only when `f` has finished with the one before. -/
@[specialize] def traverseOnto {m : Type → Type} [Monad m] {α : Type} (f : Valuation → m α)
    (done : List α) : Nat → Enumeration → m (List α)
  | 0, _ => pure done.reverse
  | _ + 1, ⟨none⟩ => pure done.reverse
  | k + 1, ⟨some v⟩ => do
    let a ← f v
    traverseOnto f (a :: done) k (after v)

/-- The results of `f` for all valuations to come, in order. -/
@[specialize] def mapM {m : Type → Type} [Monad m] {α : Type} (f : Valuation → m α)
    (e : Enumeration) : m (List α) :=
  traverseOnto f [] e.remaining e

theorem traverseOnto_eq {m : Type → Type} [Monad m] {α : Type} (f : Valuation → m α)
    (done : List α) (k : Nat) (e : Enumeration) :
    traverseOnto f done k e = List.mapM.loop f (e.take k) done := by
  induction k generalizing done e with
  | zero => rfl
  | succ k ih =>
      obtain ⟨next⟩ := e
      cases next with
      | none => rfl
      | some v => simp only [traverseOnto, take_some, List.mapM.loop, ih]

/-- Traversing an enumeration is traversing the list of its valuations. -/
theorem mapM_eq_toList_mapM {m : Type → Type} [Monad m] {α : Type} (f : Valuation → m α)
    (e : Enumeration) : e.mapM f = e.toList.mapM f :=
  traverseOnto_eq ..

end Enumeration

end Propositional
