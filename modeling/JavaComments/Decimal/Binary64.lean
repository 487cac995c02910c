namespace JavaComments.Decimal

/-- The magnitude of a finite double: `mantissa * 2 ^ exponent`. -/
structure Binary64 where
  mantissa : Nat
  exponent : Int
deriving DecidableEq

namespace Binary64

/-- The leading bit of the mantissa of a normal double, which is not stored. -/
def leadingBit : Nat := 0x10000000000000

/-- Reads the magnitude from the bits of a finite double; the sign bit is left out. -/
def ofBits (bits : UInt64) : Binary64 :=
  let biased := (bits >>> 52 &&& 0x7FF).toNat
  let fraction := bits.toNat % leadingBit
  if biased = 0 then ⟨fraction, -1074⟩ else ⟨leadingBit + fraction, biased - 1075⟩

/-- The reals that round to a double, in quarters of its last place: from `lower` to `upper`, with
both ends when the mantissa is even. The gap below a power of two is half of the one above it. -/
structure Interval where
  lower : Nat
  middle : Nat
  upper : Nat
  closed : Bool

def interval (x : Binary64) : Interval where
  lower := 4 * x.mantissa - if x.mantissa = leadingBit && x.exponent != -1074 then 1 else 2
  middle := 4 * x.mantissa
  upper := 4 * x.mantissa + 2
  closed := x.mantissa % 2 = 0

end Binary64

end JavaComments.Decimal
