import SharedBytes.Proofs.Channel.Calls

/-!
# Ranges in common

A lock tells whether another range overlaps the one that it stands for. Where both ranges hold bytes
the answer is that they have a byte in common, and of two locks it does not matter which one is
asked. An empty range has a byte in common with none. Its two ends are looked at all the same, so
that it is taken to overlap a range which has bytes on both sides of it. This is the one case in
which the answer is not that of the bytes.
-/

namespace SharedBytes

namespace RangeLock

/-- A lock that some channel hands out, and that may have been released since. -/
inductive HandedOut : RangeLock → Prop
  | granted {σ : Type} {channel : Channel} {position size : Nat} {shared : Bool} {s : σ}
      {lock : RangeLock} (granted : (channel.lock position size shared s).result = .ok lock) :
      HandedOut lock
  | released {lock : RangeLock} (before : HandedOut lock) : HandedOut lock.release

def Covers (lock : RangeLock) (offset : Nat) : Prop :=
  lock.position ≤ offset ∧ offset < lock.position + lock.size

def Meets (lock : RangeLock) (position size : Nat) : Prop :=
  ∃ offset, lock.Covers offset ∧ position ≤ offset ∧ offset < position + size

/-- One of the two ranges is empty, and the other one has bytes on both sides of it. -/
def Straddles (lock : RangeLock) (position size : Nat) : Prop :=
  (size = 0 ∧ lock.position < position ∧ position < lock.position + lock.size) ∨
    (lock.size = 0 ∧ position < lock.position ∧ lock.position < position + size)

variable {lock : RangeLock} {position size : Nat}

/-- The first byte in common is the first byte of one of the two ranges. -/
theorem meets_iff :
    lock.Meets position size ↔
      (0 < lock.size ∧ 0 < size) ∧
        lock.position < position + size ∧ position < lock.position + lock.size := by
  constructor
  · intro meets
    obtain ⟨offset, covered, lower, upper⟩ := meets
    unfold Covers at covered
    omega
  · intro within
    apply Exists.intro (max lock.position position)
    unfold Covers
    omega

theorem HandedOut.bounds (handedOut : lock.HandedOut) :
    lock.position ≤ maxPosition ∧ lock.size ≤ maxPosition := by
  induction handedOut with
  | released before induction => exact induction
  | @granted σ channel position size shared s lock granted =>
    simp only [Channel.lock, Channel.attempt] at granted
    cases verdict : channel.refusal? (if shared then .readable else .writable)
        [("position", position), ("size", size)] with
    | some failure =>
      rw [verdict] at granted
      cases granted
    | none =>
      rw [verdict] at granted
      cases granted
      have inRange := ((channel.refusal?_eq_none_iff _ _).mp verdict).1
      constructor
      · exact inRange ("position", position) (by simp)
      · exact inRange ("size", size) (by simp)

/-- A lock that is handed out stops before the last of all positions, so that it makes no difference
where exactly a range stops that reaches further. -/
theorem HandedOut.overlaps_iff (handedOut : lock.HandedOut) (position size : Nat) :
    lock.overlaps position size = true ↔
      lock.position < position + size ∧ position < lock.position + lock.size := by
  have bounds := handedOut.bounds
  have room : maxPosition + maxPosition < maxWord := by decide
  unfold overlaps stop
  rw [Bool.and_eq_true, decide_eq_true_eq, decide_eq_true_eq, Nat.lt_min, Nat.lt_min]
  omega

/-- A lock tells rightly whether a range has a byte in common with its own, unless one of the two is
empty and lies inside of the other. Two locks tell the same of each other. -/
theorem overlaps_exact_iff (handedOut : lock.HandedOut) :
    (∀ position size,
      (lock.overlaps position size = true ↔ lock.Meets position size) ↔
        ¬ lock.Straddles position size) ∧
    ∀ other : RangeLock, other.HandedOut →
      lock.overlaps other.position other.size = other.overlaps lock.position lock.size := by
  constructor
  · intro position size
    rw [handedOut.overlaps_iff, meets_iff]
    unfold Straddles
    omega
  · intro other otherHandedOut
    apply Bool.eq_iff_iff.mpr
    rw [handedOut.overlaps_iff, otherHandedOut.overlaps_iff]
    exact And.comm

def fiveBytes : RangeLock where
  position := 10
  size := 5
  shared := true

theorem fiveBytes_handedOut : fiveBytes.HandedOut := by
  have granted : ((Channel.opened { read := true }).lock 10 5 true ()).result = .ok fiveBytes := rfl
  exact .granted granted

/-- Ranges at either border, and the range that reaches furthest beyond all positions. -/
theorem fiveBytes_overlaps_exact :
    (fiveBytes.overlaps 14 1 = true ∧ fiveBytes.Meets 14 1) ∧
      (fiveBytes.overlaps 15 3 = false ∧ ¬ fiveBytes.Meets 15 3) ∧
      fiveBytes.overlaps 1 maxWord = true ∧ fiveBytes.Meets 1 maxWord := by
  have right := (overlaps_exact_iff fiveBytes_handedOut).1
  have onLast := (right 14 1).mpr (by unfold Straddles; decide)
  have behind := (right 15 3).mpr (by unfold Straddles; decide)
  have around := (right 1 maxWord).mpr (by unfold Straddles; decide)
  have last : fiveBytes.overlaps 14 1 = true := by decide
  have none : fiveBytes.overlaps 15 3 = false := by decide
  have all : fiveBytes.overlaps 1 maxWord = true := by decide
  rw [none] at behind
  exact ⟨⟨last, onLast.mp last⟩, ⟨none, fun meets => nomatch behind.mpr meets⟩, all, around.mp all⟩

/-- No byte lies in an empty range, also not in one between two bytes that are locked. -/
theorem empty_inside_overlaps :
    fiveBytes.HandedOut ∧ fiveBytes.overlaps 12 0 = true ∧ ¬ fiveBytes.Meets 12 0 := by
  apply And.intro fiveBytes_handedOut
  constructor
  · decide
  · rw [meets_iff]
    decide

end RangeLock

end SharedBytes
