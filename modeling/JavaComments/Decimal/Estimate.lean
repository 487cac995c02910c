namespace JavaComments.Decimal

/-- The double nearest to `10 ^ n`, for `n` up to 308. -/
def powerOfTen (n : Nat) : Float := Float.ofScientific 1 false n

/-- Divides by `10 ^ n`, by at most `10 ^ 308` at a time. -/
def divideByPower (x : Float) (n : Nat) : Float :=
  if n ≤ 308 then x / powerOfTen n
  else if x == 0 then x
  else divideByPower (x / powerOfTen 308) (n - 308)
termination_by n

/-- The bits of the double for `significand * 10 ^ exponent`: the significand is rounded first, then
the product or quotient. A number beyond the largest double has none. -/
def estimate? (significand : UInt64) (exponent : Int) : Option UInt64 :=
  let x := significand.toFloat
  if exponent < 0 then some (divideByPower x exponent.natAbs).toBits
  else if 308 < exponent then if x == 0 then some x.toBits else none
  else
    let product := x * powerOfTen exponent.toNat
    if product.isInf then none else some product.toBits

end JavaComments.Decimal
