/-!
# Positions and the room memory has

Positions, sizes and counts are natural numbers below `2 ^ 64`. A channel accepts those up to
`maxPosition`, and no content is ever longer than memory can hold.
-/

namespace SharedBytes

/-- The largest position, size or count that a channel accepts: 63 bits. -/
def maxPosition : Nat :=
  0x7fffffffffffffff

def maxWord : Nat :=
  0xffffffffffffffff

/-- The room that memory has for the content of one buffer. -/
class Memory where
  capacity : Nat
  capacity_le : capacity ≤ maxPosition

@[reducible] def Memory.standard : Memory where
  capacity := 0x800000000000
  capacity_le := by decide

end SharedBytes
