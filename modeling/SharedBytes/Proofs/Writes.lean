import SharedBytes.Proofs.Transfer.Deposits

/-!
# Writes of several pieces

A write takes the pieces of its payload as one. Where the payload ends decides on all of it: either
each byte is stored at its place, and a gap before the first one reads as zeros, or the buffer stays
as it was. Other pieces of the same payload make no difference. If the buffer admits the whole, the
pieces may as well be written one by one, each behind the one before it.
-/

namespace SharedBytes.Buffer

variable [Memory] {buffer : Buffer} {stop position : Nat} {payload : List Bytes}

theorem write_congr {other : List Bytes} (same : other.flatten = payload.flatten) :
    buffer.write position other = buffer.write position payload := by
  unfold write
  rw [same]

theorem write_flatten (buffer : Buffer) (position : Nat) (payload : List Bytes) :
    buffer.write position [payload.flatten] = buffer.write position payload := by
  apply write_congr
  exact List.flatten_singleton

theorem write_nothing (buffer : Buffer) (position : Nat) (payload : List Bytes)
    (nothing : payload.flatten = []) : buffer.write position payload = (.ok 0, buffer) := by
  simp only [write, nothing, if_true]

theorem write_admitted (nonempty : payload.flatten ≠ [])
    (admitted : buffer.Admits (position + payload.flatten.length)) :
    buffer.write position payload = (.ok payload.flatten.length,
      { buffer with bytes := buffer.bytes.splice position payload.flatten }) := by
  rcases buffer.write_deposit nonempty position with ⟨_, written⟩ | ⟨beyond, _⟩
  · rw [← write_flatten, written]
  · exact absurd admitted beyond

theorem write_beyond (nonempty : payload.flatten ≠ [])
    (beyond : ¬ buffer.Admits (position + payload.flatten.length)) :
    buffer.write position payload =
      (.error (buffer.overflow (position + payload.flatten.length)), buffer) := by
  rcases buffer.write_deposit nonempty position with ⟨admitted, _⟩ | ⟨_, refused⟩
  · exact absurd admitted beyond
  · rw [← write_flatten, refused]

theorem Admits.write (admitted : buffer.Admits stop) (position : Nat) (payload : List Bytes) :
    (buffer.write position payload).2.Admits stop := by
  by_cases nothing : payload.flatten = []
  · rwa [buffer.write_nothing position payload nothing]
  · by_cases fits : buffer.Admits (position + payload.flatten.length)
    · rw [write_admitted nothing fits]
      exact (admits_splice_iff fits stop).mpr admitted
    · rwa [write_beyond nothing fits]

/-- To write more behind what was just written is to write all of it at once. -/
theorem write_write {first second : Bytes}
    (admitted : buffer.Admits (position + (first ++ second).length)) :
    (buffer.write position [first]).2.write (position + first.length) [second] =
      (.ok second.length, (buffer.write position [first ++ second]).2) := by
  rw [List.length_append, ← Nat.add_assoc] at admitted
  by_cases more : second = []
  · rw [more, List.append_nil]
    exact write_nothing _ _ _ List.flatten_singleton
  · have room := admitted.write position [first]
    have whole : [first ++ second].flatten ≠ [] := by simp [more]
    rw [write_admitted (by simpa using more) (by simpa using room)]
    rw [write_admitted whole (by simpa [← Nat.add_assoc] using admitted)]
    by_cases some : first = []
    · rw [some, buffer.write_nothing position [[]] List.flatten_singleton]
      simp
    · have fits : buffer.Admits (position + first.length) :=
        admitted.mono (Nat.le_add_right _ _)
      rw [write_admitted (by simpa using some) (by simpa using fits)]
      simp [Bytes.splice_append]

def writeInTurn (buffer : Buffer) (position : Nat) : List Bytes → Buffer
  | [] => buffer
  | piece :: pieces =>
    (buffer.write position [piece]).2.writeInTurn (position + piece.length) pieces

theorem writeInTurn_eq (admitted : buffer.Admits (position + payload.flatten.length)) :
    buffer.writeInTurn position payload = (buffer.write position payload).2 := by
  induction payload generalizing buffer position with
  | nil => rw [writeInTurn, buffer.write_nothing position [] List.flatten_nil]
  | cons piece pieces induction =>
    rw [List.flatten_cons] at admitted
    have room := admitted.write position [piece]
    rw [List.length_append, ← Nat.add_assoc] at room
    rw [writeInTurn, induction room, ← write_flatten, write_write admitted]
    change (buffer.write position [(piece :: pieces).flatten]).2 = _
    rw [write_flatten]

theorem write_exact (buffer : Buffer) (position : Nat) (payload : List Bytes) :
    let bytes := payload.flatten
    let stop := position + bytes.length
    let written := buffer.write position payload
    (bytes = [] → written = (.ok 0, buffer)) ∧
      (bytes ≠ [] → buffer.Admits stop →
        written.1 = .ok bytes.length ∧ written.2 = { buffer with bytes := written.2.bytes } ∧
          written.2.size = max buffer.size stop ∧
          (∀ i < written.2.size, written.2.bytes[i]? =
            if position ≤ i ∧ i < stop then bytes[i - position]?
            else if i < buffer.size then buffer.bytes[i]?
            else some 0) ∧
          buffer.writeInTurn position payload = written.2) ∧
      (bytes ≠ [] → ¬ buffer.Admits stop →
        written = (.error (.capacityExceeded (buffer.limit.getD maxPosition) (min stop maxWord)),
          buffer)) ∧
      ∀ other : List Bytes, other.flatten = bytes → buffer.write position other = written := by
  intro bytes stop written
  constructor
  · exact buffer.write_nothing position payload
  constructor
  · intro nonempty admitted
    have stored : written = (.ok bytes.length,
        { buffer with bytes := buffer.bytes.splice position bytes }) :=
      write_admitted nonempty admitted
    have length : written.2.size = max buffer.size stop := by
      rw [stored]
      exact Bytes.length_splice buffer.bytes position bytes
    refine ⟨by rw [stored], by rw [stored], length, ?_, writeInTurn_eq admitted⟩
    intro i inside
    rw [length] at inside
    rw [stored]
    simp only [Bytes.getElem?_splice, size] at inside ⊢
    grind
  constructor
  · intro nonempty beyond
    exact write_beyond nonempty beyond
  · intro other same
    exact write_congr same

/-- Two pieces across a gap, in a buffer that may grow to eight bytes. -/
example :
    @write .standard { bytes := [1, 2], limit := some 8 } 4 [[5], [], [6, 7]] =
      (.ok 3, { bytes := [1, 2, 0, 0, 5, 6, 7], limit := some 8 }) := by
  rfl

end SharedBytes.Buffer
