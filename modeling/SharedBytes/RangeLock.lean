import SharedBytes.Position

/-!
# Advisory locks

A lock records a range of bytes and whether it is shared. It is valid until it is released, and it
keeps nobody out: locks whose ranges overlap stand side by side.
-/

namespace SharedBytes

/-- An advisory lock on the bytes from `position` up to `position + size`. -/
structure RangeLock where
  position : Nat
  size : Nat
  shared : Bool
  valid : Bool := true
deriving DecidableEq, Repr

namespace RangeLock

def release (lock : RangeLock) : RangeLock :=
  { lock with valid := false }

/-- Where a range stops, or the end of all positions if it would stop beyond. -/
def stop (position size : Nat) : Nat :=
  min (position + size) maxWord

def overlaps (lock : RangeLock) (position size : Nat) : Bool :=
  decide (lock.position < stop position size) && decide (position < stop lock.position lock.size)

def inspect (lock : RangeLock) : String :=
  "LockToken(position=" ++ toString lock.position ++ ", size=" ++ toString lock.size
    ++ ", shared=" ++ toString lock.shared ++ ", valid=" ++ toString lock.valid ++ ")"

end RangeLock

end SharedBytes
