import Mathlib.Algebra.Group.Nat.Defs
import Propositional.Proofs.Bits
import Propositional.Valuation
/-!
# Propositional.Proofs.Valuation.Number

The number of a valuation, and the valuation of a number.

Three widths meet here. The number of a valuation is computed in a word of 64 bits, so it is the
exact number of the digits up to a multiple of `2 ^ 64` (`toNat_number`). The valuation of a number
has as many columns as it is asked for, and its digits are the bits of the word as far as the word
has any (`values_ofNumber`). How many columns a valuation has is itself told in 16 bits only
(`width_toNat`). Between these limits numbers and valuations correspond to each other, and outside
`number_and_ofNumber` says what is lost.
-/

namespace Propositional.Valuation

/-! ### From digits to a word -/

/-- Doubling and adding a digit in machine words follows the exact computation. -/
theorem toNat_foldl_digits (bits : Bits) {index : UInt64} {n : Nat}
    (h : index.toNat = n % 2 ^ 64) :
    (bits.foldl (fun index b => 2 * index + b.toUInt64) index).toNat =
      bits.foldl (fun n b => 2 * n + b.toNat) n % 2 ^ 64 := by
  induction bits generalizing index n with
  | nil => exact h
  | cons b bits ih =>
      apply ih
      have hb : b.toUInt64.toNat = b.toNat := by cases b <;> rfl
      rw [UInt64.toNat_add, UInt64.toNat_mul, h, hb]
      simp only [UInt64.reduceToNat]
      omega

theorem toNat_number (v : Valuation) : v.number.toNat = Bits.toNat v.values % 2 ^ 64 :=
  toNat_foldl_digits v.values (by rfl)

theorem toNat_number_of_size_le {v : Valuation} (h : v.size ≤ 64) :
    v.number.toNat = Bits.toNat v.values := by
  have hlt : Bits.toNat v.values < 2 ^ v.size := Bits.toNat_lt_two_pow v.values
  have hle : 2 ^ v.size ≤ 2 ^ 64 := Nat.pow_le_pow_right (by decide) h
  rw [toNat_number, Nat.mod_eq_of_lt (Nat.lt_of_lt_of_le hlt hle)]

@[simp] theorem width_toNat (v : Valuation) : v.width.toNat = v.size % 2 ^ 16 :=
  UInt16.toNat_ofNat'

/-! ### From a word to digits -/

/-- Shifting leaves the bit at the distance as the lowest, and a word has no bits beyond its end. -/
theorem any_shiftOut? (index : UInt64) (distance : Nat) :
    (shiftOut? index distance).any (· &&& 1 == 1) = index.toNat.testBit distance := by
  unfold shiftOut?
  by_cases h : distance < 64
  · have hword : (index >>> UInt64.ofNat distance).toNat = index.toNat >>> distance := by
      rw [UInt64.toNat_shiftRight, UInt64.toNat_ofNat']
      congr 1
      omega
    rw [if_pos h, Option.any_some, Nat.testBit, ← hword, Bool.eq_iff_iff]
    simp [← UInt64.toNat_inj, Nat.and_comm]
  · have hle : 2 ^ 64 ≤ 2 ^ distance := Nat.pow_le_pow_right (by decide) (Nat.le_of_not_lt h)
    rw [if_neg h, Nat.testBit_lt_two_pow (Nat.lt_of_lt_of_le index.toNat_lt hle)]
    rfl

/-- The digits are the lowest bits of the word. -/
theorem values_ofNumber (index : UInt64) (size : Nat) :
    (ofNumber index size).values = Bits.ofNat size index.toNat := by
  simp only [ofNumber, any_shiftOut?, Bits.ofNat]

theorem getElem?_values_ofNumber (index : UInt64) {size j : Nat} (h : j < size) :
    (ofNumber index size).values[j]? = some (index.toNat.testBit (size - 1 - j)) := by
  rw [values_ofNumber, Bits.getElem?_ofNat _ h]

/-- The columns that are too far from the end for a word are `false`. -/
theorem getElem?_values_ofNumber_of_far (index : UInt64) {size j : Nat} (h : j + 64 < size) :
    (ofNumber index size).values[j]? = some false := by
  have hle : 2 ^ 64 ≤ 2 ^ (size - 1 - j) := Nat.pow_le_pow_right (by decide) (by omega)
  rw [getElem?_values_ofNumber index (by omega),
    Nat.testBit_lt_two_pow (Nat.lt_of_lt_of_le index.toNat_lt hle)]

/-! ### There and back -/

theorem toNat_number_ofNumber (index : UInt64) (size : Nat) :
    (ofNumber index size).number.toNat = index.toNat % 2 ^ min size 64 := by
  rw [toNat_number, values_ofNumber, Bits.toNat_ofNat]
  by_cases h : size ≤ 64
  · have hlt : index.toNat % 2 ^ size < 2 ^ 64 :=
      Nat.lt_of_lt_of_le (Nat.mod_lt _ (Nat.two_pow_pos size))
        (Nat.pow_le_pow_right (by decide) h)
    rw [Nat.mod_eq_of_lt hlt, Nat.min_eq_left h]
  · have hle : 64 ≤ size := Nat.le_of_not_le h
    rw [Nat.mod_mod_of_dvd _ (Nat.pow_dvd_pow 2 hle), Nat.min_eq_right hle]

/-- A valuation comes back from its number if its size fits into a word of 16 bits and its digits
into one of 64. -/
theorem ofNumber_number_iff (v : Valuation) :
    ofNumber v.number v.width.toNat = v ↔
      v.size < 2 ^ 16 ∧ ∀ j, j + 64 < v.size → v.values[j]? = some false := by
  constructor
  · intro h
    have hsize : v.size % 2 ^ 16 = v.size := by
      rw [← width_toNat, ← size_ofNumber v.number v.width.toNat, h]
    refine ⟨by omega, ?_⟩
    intro j hj
    rw [← h]
    exact getElem?_values_ofNumber_of_far _ (by rw [width_toNat]; omega)
  · intro h
    obtain ⟨hsize, hfar⟩ := h
    rw [width_toNat, Nat.mod_eq_of_lt hsize]
    refine congrArg mk (List.ext_getElem? fun j => ?_)
    show (ofNumber v.number v.size).values[j]? = v.values[j]?
    by_cases hfarj : j + 64 < v.size
    · rw [getElem?_values_ofNumber_of_far _ hfarj, hfar j hfarj]
    · by_cases hj : j < v.size
      · have hnear : v.size - 1 - j < 64 := by omega
        have hdigit : v.values[j]? = some ((Bits.toNat v.values).testBit (v.size - 1 - j)) :=
          Bits.getElem?_eq_testBit hj
        rw [getElem?_values_ofNumber _ hj, hdigit, toNat_number, Nat.testBit_mod_two_pow]
        simp [hnear]
      · have hlength : (ofNumber v.number v.size).values.length = v.size := size_ofNumber ..
        have hend : v.size ≤ j := Nat.le_of_not_lt hj
        rw [List.getElem?_eq_none (Nat.le_trans (Nat.le_of_eq hlength) hend),
          List.getElem?_eq_none hend]

theorem compare_eq_compare_number {v w : Valuation} (h : v.size = w.size) (hle : v.size ≤ 64) :
    v.compare w = Ord.compare v.number w.number := by
  have hnumbers : Ord.compare v.number w.number = Ord.compare v.number.toNat w.number.toNat := by
    show compareOfLessAndEq v.number w.number = compareOfLessAndEq v.number.toNat w.number.toNat
    simp only [compareOfLessAndEq, UInt64.lt_iff_toNat_lt, UInt64.toNat_inj]
  rw [hnumbers, toNat_number_of_size_le hle, toNat_number_of_size_le (h ▸ hle)]
  exact Bits.compare_eq_compare_toNat h

/-- The number of a valuation is exact up to multiples of `2 ^ 64`. The valuation of a number has a
value in each column, and together they write what of the number has a place. Each of the two
undoes the other as far as the widths of the words allow: a number comes back up to the bits that
have no column, and a valuation comes back exactly if its size has at most 16 bits and its number at
most 64. Among valuations of one size within a word, dictionary order is the order of the
numbers. -/
theorem number_and_ofNumber (v : Valuation) (i : UInt64) (n : Nat) :
    v.number.toNat = Bits.toNat v.values % 2 ^ 64 ∧
    ((ofNumber i n).size = n ∧ Bits.toNat (ofNumber i n).values = i.toNat % 2 ^ n ∧
      ∀ j, j + 64 < n → (ofNumber i n).values[j]? = some false) ∧
    (ofNumber i n).number.toNat = i.toNat % 2 ^ min n 64 ∧
    (ofNumber v.number v.width.toNat = v ↔
      v.size < 2 ^ 16 ∧ ∀ j, j + 64 < v.size → v.values[j]? = some false) ∧
    ∀ w : Valuation, v.size = w.size → v.size ≤ 64 →
      v.compare w = Ord.compare v.number w.number := by
  refine ⟨toNat_number v, ⟨size_ofNumber i n, ?_, ?_⟩, toNat_number_ofNumber i n,
    ofNumber_number_iff v, fun w => compare_eq_compare_number⟩
  · rw [values_ofNumber, Bits.toNat_ofNat]
  · intro j hj
    exact getElem?_values_ofNumber_of_far i hj

/-- With 65 columns the first value is lost in the number. -/
theorem number_and_ofNumber_wide :
    let wide : Valuation := ⟨true :: List.replicate 64 false⟩
    let v : Valuation := ⟨[true, false, true]⟩
    let w : Valuation := ⟨[true, true, false]⟩
    ofNumber wide.number wide.width.toNat ≠ wide ∧ ofNumber v.number v.width.toNat = v ∧
      (ofNumber 1 65).values[0]? = some false ∧ v.compare w = Ord.compare v.number w.number := by
  intro wide v w
  obtain ⟨-, ⟨-, -, hfar⟩, -, hback, -⟩ := number_and_ofNumber wide 1 65
  obtain ⟨-, -, -, hback', horder⟩ := number_and_ofNumber v 1 65
  refine ⟨?_, hback'.2 ⟨by decide, ?_⟩, hfar 0 (by decide), horder w rfl (by decide)⟩
  · intro h
    exact absurd ((hback.1 h).2 0 (by decide)) (by decide)
  · intro j hj
    exact absurd hj (by simp [v, size])

end Propositional.Valuation
