import Mathlib.Algebra.Group.Nat.Defs
import Propositional.Bits
/-!
# Propositional.Proofs.Bits

Digits and the numbers that they write.

The digit at a position is a bit of the number (`getElem?_eq_testBit`), so reading and writing undo
each other: digits that are read as a number are the digits of that number (`ofNat_toNat`), and a
number that is written loses only the bits for which there is no place (`toNat_ofNat`). If two lists
of digits have the same length, the first digit in which they differ decides which number is the
greater, so dictionary order is the order of the numbers (`compare_eq_compare_toNat`).
-/

namespace Propositional.Bits

/-! ### Digits of a number -/

@[simp] theorem length_ofNat (size n : Nat) : (ofNat size n).length = size := by
  simp [ofNat]

theorem getElem?_ofNat {size j : Nat} (n : Nat) (h : j < size) :
    (ofNat size n)[j]? = some (n.testBit (size - 1 - j)) := by
  simp [ofNat, h]

theorem toNat_lt_two_pow (bits : Bits) : toNat bits < 2 ^ bits.length :=
  Nat.one_shiftLeft _ ▸ toNat_lt bits

/-- The digit at a position is the bit of the number at the mirrored place. -/
theorem getElem?_eq_testBit {bits : Bits} {j : Nat} (h : j < bits.length) :
    bits[j]? = some ((toNat bits).testBit (bits.length - 1 - j)) := by
  induction bits generalizing j with
  | nil => simp at h
  | cons b bits ih =>
      rw [toNat_cons, Nat.shiftLeft_eq, Nat.mul_comm,
        Nat.testBit_two_pow_mul_add _ (toNat_lt_two_pow bits), List.length_cons]
      cases j with
      | zero => cases b <;> simp
      | succ j =>
          have hj : j < bits.length := by simpa using h
          have hplace : bits.length + 1 - 1 - (j + 1) = bits.length - 1 - j := by omega
          have hlow : bits.length - 1 - j < bits.length := by omega
          rw [List.getElem?_cons_succ, ih hj, hplace, if_pos hlow]

theorem ofNat_toNat (bits : Bits) : ofNat bits.length (toNat bits) = bits := by
  refine List.ext_getElem? fun j => ?_
  by_cases hj : j < bits.length
  · rw [getElem?_ofNat _ hj, getElem?_eq_testBit hj]
  · rw [List.getElem?_eq_none (by simpa using hj), List.getElem?_eq_none (by simpa using hj)]

/-- What a number keeps at a given length are its lowest bits. -/
theorem toNat_ofNat (size n : Nat) : toNat (ofNat size n) = n % 2 ^ size := by
  have hlt : toNat (ofNat size n) < 2 ^ size := by simpa using toNat_lt_two_pow (ofNat size n)
  apply Nat.eq_of_testBit_eq
  intro i
  rw [Nat.testBit_mod_two_pow]
  by_cases hi : i < size
  · have hj : size - 1 - i < (ofNat size n).length := by rw [length_ofNat]; omega
    have hdigit := getElem?_eq_testBit hj
    have hplace : size - 1 - (size - 1 - i) = i := by omega
    rw [length_ofNat] at hj hdigit
    rw [getElem?_ofNat n hj, hplace] at hdigit
    simpa [hi] using (Option.some.inj hdigit).symm
  · have hle : 2 ^ size ≤ 2 ^ i := Nat.pow_le_pow_right (by decide) (by omega)
    rw [Nat.testBit_lt_two_pow (Nat.lt_of_lt_of_le hlt hle)]
    simp [hi]

/-- A number that has a place for each of its digits is read again. -/
theorem toNat_ofNat_of_lt {size n : Nat} (h : n < 2 ^ size) : toNat (ofNat size n) = n := by
  rw [toNat_ofNat, Nat.mod_eq_of_lt h]

/-- Digits `false` in front do not change the number. -/
theorem toNat_replicate_false_append (size : Nat) (bits : Bits) :
    toNat (List.replicate size false ++ bits) = toNat bits := by
  have hzero := toNat_replicate_false size
  rw [toNat] at hzero ⊢
  rw [List.foldl_append, hzero, toNat]

/-- The greatest number of a length is just below the power of two. -/
theorem toNat_replicate_true (size : Nat) : toNat (List.replicate size true) + 1 = 2 ^ size := by
  induction size with
  | zero => rfl
  | succ size ih =>
      rw [List.replicate_succ, toNat_cons, List.length_replicate, Nat.add_assoc, ih,
        Nat.shiftLeft_eq, Nat.pow_succ]
      simp [Nat.mul_two]

/-- The next digits are those of the next number, until there is no place for it. -/
theorem succ?_ofNat {size n : Nat} (h : n < 2 ^ size) :
    succ? (ofNat size n) = if n + 1 < 2 ^ size then some (ofNat size (n + 1)) else none := by
  cases hnext : succ? (ofNat size n) with
  | none =>
      have hlast : toNat (ofNat size n) + 1 = 1 <<< (ofNat size n).length :=
        succ?_eq_none_iff.1 hnext
      rw [toNat_ofNat_of_lt h, length_ofNat, Nat.one_shiftLeft] at hlast
      rw [if_neg (Nat.not_lt.2 (Nat.le_of_eq hlast.symm))]
  | some next =>
      have hnumber : toNat next = n + 1 := by rw [toNat_of_succ? hnext, toNat_ofNat_of_lt h]
      have hlength : next.length = size := by rw [length_of_succ? hnext, length_ofNat]
      have hlt := toNat_lt_two_pow next
      rw [hnumber, hlength] at hlt
      rw [if_pos hlt, ← hnumber, ← hlength, ofNat_toNat]

/-! ### Order -/

/-- For digits of the same length, dictionary order is the order of the numbers. -/
theorem compare_eq_compare_toNat {a b : Bits} (h : a.length = b.length) :
    compare a b = Ord.compare (toNat a) (toNat b) := by
  induction a generalizing b with
  | nil =>
      obtain rfl : b = [] := List.length_eq_zero_iff.1 h.symm
      rfl
  | cons x a ih =>
      cases b with
      | nil => simp at h
      | cons y b =>
          have hlength : a.length = b.length := by simpa using h
          have ha := hlength ▸ toNat_lt_two_pow a
          have hb := toNat_lt_two_pow b
          rw [toNat_cons, toNat_cons, hlength, Nat.shiftLeft_eq, Nat.shiftLeft_eq]
          -- A first digit `true` is worth more than all digits behind a first digit `false`.
          cases x <;> cases y
          · simpa [compare] using ih hlength
          · symm
            rw [compare, Nat.compare_eq_lt]
            simp
            omega
          · symm
            rw [compare, Nat.compare_eq_gt]
            simp
            omega
          · rw [compare, ih hlength, Nat.compare_eq_ite_lt, Nat.compare_eq_ite_lt]
            simp

end Propositional.Bits
