/-!
# Propositional.Bits

Binary numbers of a fixed number of digits, most significant digit first.

A list of digits is read as a number by `Bits.toNat` and written, at a given length, by
`Bits.ofNat`; the two are inverse to each other up to the digits that do not fit. Counting is done
on the digits themselves: `Bits.succ?` adds one by a carry that starts at the last digit, and
fails when the carry leaves the first.
-/

namespace Propositional

/-- Binary digits, most significant first. -/
abbrev Bits := List Bool

namespace Bits

/-! ### Value -/

/-- The number that the digits write. -/
def toNat (bits : Bits) : Nat := bits.foldl (fun n b => 2 * n + b.toNat) 0

/-- The lowest `size` digits of `n`. -/
def ofNat (size n : Nat) : Bits :=
  (List.range size).map fun j => n.testBit (size - 1 - j)

theorem toNat_from (start : Nat) (bits : Bits) :
    bits.foldl (fun n b => 2 * n + b.toNat) start = start <<< bits.length + toNat bits := by
  induction bits generalizing start with
  | nil => simp [toNat]
  | cons b bits ih =>
      have hb : toNat (b :: bits) = b.toNat <<< bits.length + toNat bits := by
        rw [toNat, List.foldl_cons, ih, Nat.mul_zero, Nat.zero_add]
      rw [hb, List.foldl_cons, ih, List.length_cons, Nat.shiftLeft_succ_inside,
        Nat.shiftLeft_eq, Nat.shiftLeft_eq, Nat.shiftLeft_eq, Nat.add_mul, Nat.add_assoc]

@[simp] theorem toNat_nil : toNat [] = 0 := rfl

theorem toNat_cons (b : Bool) (bits : Bits) :
    toNat (b :: bits) = b.toNat <<< bits.length + toNat bits := by
  rw [toNat, List.foldl_cons, toNat_from]
  simp

theorem toNat_lt (bits : Bits) : toNat bits < 1 <<< bits.length := by
  induction bits with
  | nil => simp
  | cons b bits ih =>
      rw [toNat_cons, List.length_cons, Nat.shiftLeft_succ]
      cases b <;> simp <;> omega

theorem toNat_replicate_false (size : Nat) : toNat (List.replicate size false) = 0 := by
  induction size with
  | zero => rfl
  | succ size ih => simp [List.replicate_succ, toNat_cons, ih]

/-! ### Counting -/

/-- The digits after a carry has come in from the right, and the carry that goes out. -/
def ripple (bits : Bits) : Bool × Bits :=
  bits.foldr (fun b (carry, done) => (b && carry, (b != carry) :: done)) (true, [])

/-- The digits of the next number, if it has as many digits. -/
def succ? (bits : Bits) : Option Bits :=
  match ripple bits with
  | (true, _) => none
  | (false, next) => some next

@[simp] theorem ripple_nil : ripple [] = (true, []) := rfl

theorem ripple_cons (b : Bool) (bits : Bits) :
    ripple (b :: bits) = (b && (ripple bits).1, (b != (ripple bits).1) :: (ripple bits).2) := rfl

@[simp] theorem length_ripple (bits : Bits) : (ripple bits).2.length = bits.length := by
  induction bits with
  | nil => rfl
  | cons b bits ih => simp [ripple_cons, ih]

/-- A carry going out stands for a digit above the first. -/
theorem toNat_ripple (bits : Bits) :
    (ripple bits).1.toNat <<< bits.length + toNat (ripple bits).2 = toNat bits + 1 := by
  induction bits with
  | nil => simp
  | cons b bits ih =>
      rw [ripple_cons, toNat_cons, toNat_cons, length_ripple, List.length_cons, Nat.shiftLeft_succ]
      revert ih
      cases b <;> cases (ripple bits).1 <;> simp <;> omega

/-- The next digits write the next number. -/
theorem toNat_of_succ? {bits next : Bits} (h : succ? bits = some next) :
    toNat next = toNat bits + 1 := by
  have hr := toNat_ripple bits
  unfold succ? at h
  split at h
  · cases h
  · next heq =>
    cases h
    rw [heq] at hr
    simpa using hr

theorem length_of_succ? {bits next : Bits} (h : succ? bits = some next) :
    next.length = bits.length := by
  have hl := length_ripple bits
  unfold succ? at h
  split at h
  · cases h
  · next heq =>
    cases h
    rw [heq] at hl
    exact hl

/-- There are no next digits just after the greatest number of that many digits. -/
theorem succ?_eq_none_iff {bits : Bits} :
    succ? bits = none ↔ toNat bits + 1 = 1 <<< bits.length := by
  have hr := toNat_ripple bits
  unfold succ?
  split
  · next heq =>
    rw [heq] at hr
    have := toNat_lt bits
    simp at hr
    simp
    omega
  · next next heq =>
    rw [heq] at hr
    have hl := length_ripple bits
    rw [heq] at hl
    have := toNat_lt next
    simp at hr hl
    simp
    rw [hl] at this
    omega

/-! ### Order -/

/-- Dictionary order, where `false` comes before `true` and a proper beginning before the whole. -/
def compare : Bits → Bits → Ordering
  | [], [] => .eq
  | [], _ :: _ => .lt
  | _ :: _, [] => .gt
  | false :: _, true :: _ => .lt
  | true :: _, false :: _ => .gt
  | false :: a, false :: b => compare a b
  | true :: a, true :: b => compare a b

end Bits

end Propositional
