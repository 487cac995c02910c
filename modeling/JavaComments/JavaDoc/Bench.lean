import JavaComments.JavaDoc.Builder

namespace JavaComments

/-- Builders that are filled side by side; a slot is an index into the list. -/
abbrev Bench := List Builder

namespace Bench

def initial : Bench := [Builder.empty]

inductive Step where
  | call (slot : Nat) (call : Call)
  | clone (slot : Nat)
deriving DecidableEq

/-- The builders after a step, the slot that it changed or created, and what it logged. -/
structure Change where
  bench : Bench
  slot : Nat
  events : List Event
deriving DecidableEq

/-- There is no change when the step names a slot that does not exist. -/
def change? (bench : Bench) : Step → Option Change
  | .call slot call =>
    bench[slot]?.map fun b => ⟨bench.set slot (b.apply call), slot, (b.event? call).toList⟩
  | .clone slot => bench[slot]?.map fun b => ⟨bench ++ [b], bench.length, []⟩

end Bench

end JavaComments
