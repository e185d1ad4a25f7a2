import Propositional.Bits
import Propositional.VariableSet
/-!
# Propositional.Valuation

Truth values for the variables of a set.

A **valuation** lists truth values by column: its value at position `j` belongs to the variable in
column `j` of the set it is used with. Nothing ties the two lengths together. A valuation that is
too short leaves the last variables without a value, and surplus values belong to no variable.

Read as binary digits, with the first variable as the most significant, a valuation is the number
of its row in a truth table. Row numbers are machine words of 64 bits and widths are machine words
of 16 bits, so `number` and `width` wrap around; `Bits.toNat` and `size` are the exact numbers
behind them.

With a variable set a valuation makes an **assignment**, which is what formulas are evaluated
under: it gives a variable the value in its column, if there is one.
-/

namespace Propositional

/-- Truth values by column. -/
structure Valuation where
  /-- The values, first column first. -/
  values : Bits
  deriving DecidableEq, Repr

namespace Valuation

/-- `false` in each of `size` columns. -/
def falses (size : Nat) : Valuation := ⟨List.replicate size false⟩

/-- `true` in each of `size` columns. -/
def trues (size : Nat) : Valuation := ⟨List.replicate size true⟩

def size (v : Valuation) : Nat := v.values.length

/-- The number of values, in a machine word of 16 bits. -/
def width (v : Valuation) : UInt16 := UInt16.ofNat v.size

/-- The value at a position, which has to be one of the valuation's. -/
def get (v : Valuation) (i : Nat) : Except Misuse Bool :=
  match v.values[i]? with
  | some b => .ok b
  | none => .error (.indexOutOfBounds v.size i)

/-- Dictionary order of the values. -/
def compare (v w : Valuation) : Ordering := Bits.compare v.values w.values

/-- The values as digits in brackets, separated by commas. -/
def display (v : Valuation) : String :=
  let digits := v.values.map fun b => if b then "1" else "0"
  "[" ++ ",".intercalate digits ++ "]"

/-! ### Rows -/

/-- The number that the values write in binary, in a machine word of 64 bits. -/
def number (v : Valuation) : UInt64 :=
  v.values.foldl (fun index b => 2 * index + b.toUInt64) 0

/-- What a word leaves when its lowest digits, as many as `distance`, are shifted out. A word of 64
bits has no digits at a distance of 64 or more. -/
def shiftOut? (index : UInt64) (distance : Nat) : Option UInt64 :=
  if distance < 64 then some (index >>> UInt64.ofNat distance) else none

/-- The valuation of `size` columns that writes the number `index`. Columns beyond the last 64
are `false`. -/
def ofNumber (index : UInt64) (size : Nat) : Valuation :=
  ⟨(List.range size).map fun j => (shiftOut? index (size - 1 - j)).any (· &&& 1 == 1)⟩

/-- The valuation that writes the next number. -/
def succ? (v : Valuation) : Option Valuation := (Bits.succ? v.values).map Valuation.mk

@[simp] theorem size_ofNumber (index : UInt64) (size : Nat) :
    (ofNumber index size).size = size := by
  simp [ofNumber, Valuation.size]

end Valuation

/-- Truth values for variables, some of which may have none. -/
abbrev Assignment := Variable → Option Bool

/-- The assignment that a valuation of the set's columns makes. -/
def VariableSet.assign (vars : VariableSet) (v : Valuation) : Assignment := fun x =>
  (vars.column? x).bind fun column => v.values[column]?

end Propositional
