import JavaComments.Text.Lines
import JavaComments.Decimal.Shortest

namespace JavaComments.Decimal

def ofInt (n : Int) : Text :=
  if n < 0 then '-' :: Text.ofNat n.natAbs else Text.ofNat n.natAbs

/-- Writes out a positive decimal number whose leading digit stands at `10 ^ leading`. -/
def positional (digits : Text) (leading : Int) : Text :=
  if leading < 0 then "0.".toList ++ List.replicate (-leading - 1).toNat '0' ++ digits
  else
    let whole := (leading + 1).toNat
    let fraction := digits.drop whole
    digits.take whole ++ List.replicate (whole - digits.length) '0' ++
      '.' :: if fraction.isEmpty then ['0'] else fraction

/-- Writes a positive decimal number with one digit before the point and a signed exponent. -/
def scientific (digits : Text) (leading : Int) : Text :=
  digits.take 1 ++ (if digits.length ≤ 1 then [] else '.' :: digits.drop 1) ++
    'e' :: (if leading < 0 then '-' else '+') :: Text.ofNat leading.natAbs

/-- Numbers from `10 ^ -5` up to `10 ^ 16` are written out, all others with an exponent. -/
def Scaled.spelling (number : Scaled) : Text :=
  let digits := Text.ofNat number.digits
  let leading := number.exponent + (digits.length - 1 : Nat)
  if -5 ≤ leading ∧ leading ≤ 15 then positional digits leading else scientific digits leading

/-- The text of a finite double: its sign and the fewest digits that read back. -/
def ofDouble (bits : UInt64) : Text :=
  let x := Binary64.ofBits bits
  let magnitude := if x.mantissa = 0 then "0.0".toList else (shortest x).spelling
  if bits >>> 63 = 0 then magnitude else '-' :: magnitude

end JavaComments.Decimal
