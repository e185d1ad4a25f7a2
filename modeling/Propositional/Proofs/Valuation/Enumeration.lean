import Mathlib.Algebra.Group.Nat.Defs
import Mathlib.Logic.ExistsUnique
import Propositional.Proofs.Valuation.Number
import Propositional.Valuation.Enumeration
/-!
# Propositional.Proofs.Valuation.Enumeration

Counting reaches every valuation, in the order of the numbers.

A valuation is known by its size and its number, and an enumeration by the size of its valuations
and the number that it has come to (`Enumeration.fromNumber`). One step goes on to the next number
(`after_ofNat`), so `k` steps go on by `k` (`drop_fromNumber`), and the valuation that comes after
`k` others is the one with the number `k` (`next?_drop_ofSize_eq_some_iff`). Whatever is said about
the course of an enumeration is read off this.
-/

namespace Propositional.Enumeration

/-- The valuations of `size` columns from the number `n` on. -/
def fromNumber (size n : Nat) : Enumeration :=
  ⟨if n < 2 ^ size then some ⟨Bits.ofNat size n⟩ else none⟩

theorem fromNumber_of_lt {size n : Nat} (h : n < 2 ^ size) :
    fromNumber size n = ⟨some ⟨Bits.ofNat size n⟩⟩ := by
  rw [fromNumber, if_pos h]

theorem fromNumber_of_le {size n : Nat} (h : 2 ^ size ≤ n) : fromNumber size n = empty := by
  rw [fromNumber, if_neg (Nat.not_lt.2 h)]
  rfl

/-- An enumeration begins with the number zero. -/
theorem ofSize_eq_fromNumber (size : Nat) : ofSize size = fromNumber size 0 := by
  have hzero : List.replicate size false = Bits.ofNat size 0 := by
    have hdigits := Bits.ofNat_toNat (List.replicate size false)
    rw [Bits.toNat_replicate_false, List.length_replicate] at hdigits
    exact hdigits.symm
  rw [fromNumber_of_lt (Nat.two_pow_pos size), ofSize, Valuation.falses, hzero]

/-! ### The steps -/

/-- After each number comes the next one. -/
theorem after_ofNat {size n : Nat} (h : n < 2 ^ size) :
    after ⟨Bits.ofNat size n⟩ = fromNumber size (n + 1) := by
  rw [after, Valuation.succ?, Bits.succ?_ofNat h, fromNumber]
  split <;> rfl

@[simp] theorem drop_empty (k : Nat) : empty.drop k = empty := by
  cases k <;> rfl

theorem drop_fromNumber (size n k : Nat) :
    (fromNumber size n).drop k = fromNumber size (n + k) := by
  induction k generalizing n with
  | zero => rfl
  | succ k ih =>
      by_cases h : n < 2 ^ size
      · rw [fromNumber_of_lt h, drop, after_ofNat h, ih, Nat.add_right_comm, Nat.add_assoc]
      · have hle : 2 ^ size ≤ n := Nat.le_of_not_lt h
        rw [fromNumber_of_le hle, fromNumber_of_le (Nat.le_add_right_of_le hle), drop_empty]

/-- The valuation that comes after `k` others is the one with the number `k`. -/
theorem next?_drop_ofSize_eq_some_iff {n k : Nat} {v : Valuation} :
    ((ofSize n).drop k).next? = some v ↔ v.size = n ∧ Bits.toNat v.values = k := by
  rw [ofSize_eq_fromNumber, drop_fromNumber, Nat.zero_add]
  constructor
  · intro h
    by_cases hk : k < 2 ^ n
    · rw [fromNumber_of_lt hk] at h
      cases h
      exact ⟨Bits.length_ofNat n k, Bits.toNat_ofNat_of_lt hk⟩
    · rw [fromNumber_of_le (Nat.le_of_not_lt hk)] at h
      cases h
  · intro h
    obtain ⟨rfl, rfl⟩ := h
    have hlt : Bits.toNat v.values < 2 ^ v.size := Bits.toNat_lt_two_pow v.values
    rw [fromNumber_of_lt hlt, Valuation.size, Bits.ofNat_toNat]

/-- Once all numbers have come, nothing comes any more. -/
theorem next?_drop_ofSize_eq_none_iff {n k : Nat} :
    ((ofSize n).drop k).next? = none ↔ 2 ^ n ≤ k := by
  rw [ofSize_eq_fromNumber, drop_fromNumber, Nat.zero_add, fromNumber]
  simp

/-! ### The number of valuations -/

theorem remaining_drop_ofSize (n k : Nat) : ((ofSize n).drop k).remaining = 2 ^ n - k := by
  rw [ofSize_eq_fromNumber, drop_fromNumber, Nat.zero_add]
  by_cases hk : k < 2 ^ n
  · rw [fromNumber_of_lt hk]
    simp [remaining, Valuation.size, Bits.toNat_ofNat_of_lt hk, Nat.one_shiftLeft]
  · rw [fromNumber_of_le (Nat.le_of_not_lt hk), Nat.sub_eq_zero_of_le (Nat.le_of_not_lt hk)]
    rfl

/-- An enumeration goes on for as long as it has said in advance. -/
theorem length_take (k : Nat) (e : Enumeration) : (e.take k).length = min k e.remaining := by
  induction k generalizing e with
  | zero => simp
  | succ k ih =>
      obtain ⟨next⟩ := e
      cases next with
      | none => simp [remaining]
      | some v => rw [take_some, List.length_cons, ih, remaining_some, Nat.add_min_add_right]

/-! ### The list of all valuations -/

theorem toList_fromNumber (size n : Nat) :
    (fromNumber size n).toList =
      (List.range' n (2 ^ size - n)).map fun i => ⟨Bits.ofNat size i⟩ := by
  -- The induction is on the numbers still to come.
  generalize hk : 2 ^ size - n = k
  induction k generalizing n with
  | zero =>
      rw [fromNumber_of_le (Nat.le_of_sub_eq_zero hk)]
      rfl
  | succ k ih =>
      have hn : n < 2 ^ size := by omega
      rw [fromNumber_of_lt hn, toList_some, after_ofNat hn, ih (n + 1) (by omega),
        List.range'_succ, List.map_cons]

/-- The valuations of `n` columns are the digits of the numbers below `2 ^ n`, in their order. -/
theorem toList_ofSize (n : Nat) :
    (ofSize n).toList = (List.range (2 ^ n)).map fun i => ⟨Bits.ofNat n i⟩ := by
  rw [ofSize_eq_fromNumber, toList_fromNumber, Nat.sub_zero, List.range_eq_range']

/-! ### The course of an enumeration -/

/-- After `k` valuations of `n` columns comes the one that writes `k`, and after the greatest number
nothing comes any more. So each valuation of `n` columns comes exactly once, from `falses` to
`trues` in dictionary order, and `2 ^ n - k` are left when `k` have come. As far as a word can hold
its number, a valuation is the one that is computed from it. -/
theorem ofSize_counts (n : Nat) :
    (∀ k < 2 ^ n, ∃ v, ((ofSize n).drop k).next? = some v ∧ v.size = n ∧
      Bits.toNat v.values = k) ∧
    (∀ k, 2 ^ n ≤ k → ((ofSize n).drop k).next? = none) ∧
    (∀ v : Valuation, v.size = n → ∃! k, ((ofSize n).drop k).next? = some v) ∧
    (ofSize n).next? = some (.falses n) ∧
    ((ofSize n).drop (2 ^ n - 1)).next? = some (.trues n) ∧
    (∀ j k v w, j < k → ((ofSize n).drop j).next? = some v →
      ((ofSize n).drop k).next? = some w → v.compare w = .lt) ∧
    (∀ k ≤ 2 ^ n, ((ofSize n).drop k).remaining = 2 ^ n - k ∧
      ∀ m, (((ofSize n).drop k).take m).length = min m (2 ^ n - k)) ∧
    ∀ k < min (2 ^ n) (2 ^ 64),
      ((ofSize n).drop k).next? = some (.ofNumber (UInt64.ofNat k) n) := by
  refine ⟨?_, fun k => next?_drop_ofSize_eq_none_iff.2, ?_, rfl, ?_, ?_, ?_, ?_⟩
  · intro k hk
    have hnext : ((ofSize n).drop k).next? ≠ none := by
      rw [Ne, next?_drop_ofSize_eq_none_iff]
      exact Nat.not_le.2 hk
    obtain ⟨v, hv⟩ := Option.ne_none_iff_exists'.1 hnext
    exact ⟨v, hv, next?_drop_ofSize_eq_some_iff.1 hv⟩
  · intro v hv
    refine ⟨Bits.toNat v.values, next?_drop_ofSize_eq_some_iff.2 ⟨hv, rfl⟩, ?_⟩
    intro k hk
    exact (next?_drop_ofSize_eq_some_iff.1 hk).2.symm
  · have hlast := Bits.toNat_replicate_true n
    refine next?_drop_ofSize_eq_some_iff.2 ⟨List.length_replicate, ?_⟩
    show Bits.toNat (List.replicate n true) = 2 ^ n - 1
    omega
  · intro j k v w hjk hv hw
    obtain ⟨hvsize, hvnumber⟩ := next?_drop_ofSize_eq_some_iff.1 hv
    obtain ⟨hwsize, hwnumber⟩ := next?_drop_ofSize_eq_some_iff.1 hw
    have hlength : v.values.length = w.values.length := hvsize.trans hwsize.symm
    rw [Valuation.compare, Bits.compare_eq_compare_toNat hlength, hvnumber, hwnumber]
    exact Nat.compare_eq_lt.2 hjk
  · intro k _
    refine ⟨remaining_drop_ofSize n k, ?_⟩
    intro m
    rw [length_take, remaining_drop_ofSize]
  · intro k hk
    obtain ⟨hkn, hkword⟩ := Nat.lt_min.1 hk
    refine next?_drop_ofSize_eq_some_iff.2 ⟨Valuation.size_ofNumber .., ?_⟩
    rw [Valuation.values_ofNumber, UInt64.toNat_ofNat_of_lt' hkword, Bits.toNat_ofNat_of_lt hkn]

/-- Of the eight valuations of three columns, `[1,0,1]` is the one with the number five, and two
come after it. -/
theorem ofSize_counts_three :
    let v : Valuation := ⟨[true, false, true]⟩
    ((ofSize 3).drop 5).next? = some v ∧ ((ofSize 3).drop 8).next? = none ∧
      (.falses 3 : Valuation).compare v = .lt ∧ ((ofSize 3).drop 6).remaining = 2 ∧
      ((ofSize 3).drop 5).next? = some (.ofNumber 5 3) ∧
      ∃! k, ((ofSize 3).drop k).next? = some v := by
  intro v
  obtain ⟨-, hend, honce, hfirst, -, horder, hleft, hnumber⟩ := ofSize_counts 3
  have hfive : ((ofSize 3).drop 5).next? = some v := by decide
  exact ⟨hfive, hend 8 (by decide), horder 0 5 _ _ (by decide) hfirst hfive,
    (hleft 6 (by decide)).1, hnumber 5 (by decide), honce v rfl⟩

end Propositional.Enumeration
