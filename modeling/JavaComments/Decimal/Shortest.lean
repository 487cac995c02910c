import JavaComments.Decimal.Binary64

namespace JavaComments.Decimal

structure Scaled where
  digits : Nat
  exponent : Int
deriving DecidableEq

/-- A positive double measured against the grid of the multiples of `10 ^ exponent`: a quarter of
its last place is `unit / step` of a grid step. -/
structure Grid where
  unit : Nat
  step : Nat

def Grid.of (x : Binary64) (exponent : Int) : Grid where
  unit := Nat.pow 2 (x.exponent - 2).toNat * Nat.pow 10 (-exponent).toNat
  step := Nat.pow 2 (2 - x.exponent).toNat * Nat.pow 10 exponent.toNat

namespace Grid

def reads (grid : Grid) (range : Binary64.Interval) (n : Nat) : Bool :=
  let low := range.lower * grid.unit
  let high := range.upper * grid.unit
  let point := n * grid.step
  if range.closed then low ≤ point && point ≤ high else low < point && point < high

/-- The point nearer to the double of its two neighbours, the even one when both are as near, among
those that round to it. -/
def nearest? (grid : Grid) (range : Binary64.Interval) : Option Nat :=
  let value := range.middle * grid.unit
  let below := value / grid.step
  match below != 0 && grid.reads range below, grid.reads range (below + 1) with
  | true, true =>
    let twice := 2 * (value % grid.step)
    if twice < grid.step ∨ twice = grid.step ∧ below % 2 = 0 then some below else some (below + 1)
  | true, false => some below
  | false, true => some (below + 1)
  | false, false => none

end Grid

/-- The decimal exponents at which a finite double can have a last digit, coarsest first. -/
def exponents : List Int := (List.range 633).map fun (i : Nat) => 308 - i

/-- The decimal number on the coarsest grid that reads back as the positive double. -/
def shortest (x : Binary64) : Scaled :=
  let found := exponents.findSome? fun exponent =>
    ((Grid.of x exponent).nearest? x.interval).map fun n => Scaled.mk n exponent
  found.getD ⟨0, 0⟩

end JavaComments.Decimal
