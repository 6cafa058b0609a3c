import Mathlib.Data.List.SplitLengths
import SharedBytes.Proofs.Channel.Calls

/-!
# Reads into several slices

A read fills its slices one after the other and leaves off where the content ends, be that before,
in or behind a slice. However a room is cut into slices, empty ones among them, the read finds the
same bytes for it as for one slice of the whole length, and leaves the same bytes of it as they were.
-/

namespace SharedBytes

namespace Bytes

theorem overlay_nothing (slice : Bytes) : overlay [] slice = slice := by
  simp [overlay]

/-- As much of the slice is replaced as both have. -/
theorem overlay_eq (bytes slice : Bytes) :
    overlay bytes slice =
      bytes.take (min slice.length bytes.length) ++
        slice.drop (min slice.length bytes.length) := by
  rw [overlay, List.take_eq_take_min]
  congr 1
  rcases Nat.le_total slice.length bytes.length with long | short
  · rw [Nat.min_eq_left long, List.drop_length, List.drop_of_length_le long]
  · rw [Nat.min_eq_right short]

/-- What does not fit in the slice makes no difference to it. -/
theorem overlay_take (bytes slice : Bytes) :
    overlay (bytes.take slice.length) slice = overlay bytes slice := by
  have shorter : min slice.length (min slice.length bytes.length) =
      min slice.length bytes.length := by
    omega
  rw [overlay_eq, overlay_eq bytes, List.length_take, shorter, List.take_take,
    Nat.min_eq_left (Nat.min_le_left _ _)]

theorem scatter_nothing (slices : List Bytes) : scatter [] slices = slices := by
  induction slices with
  | nil => rfl
  | cons slice slices induction =>
    rw [scatter, overlay_nothing, List.drop_nil, induction]

theorem splitLengths_flatten (slices : List Bytes) :
    (slices.map List.length).splitLengths slices.flatten = slices := by
  induction slices with
  | nil => rfl
  | cons slice slices induction =>
    rw [List.map_cons, List.flatten_cons, List.splitLengths_cons, List.take_left, List.drop_left,
      induction]

/-- Copies a content from an offset on into slices, one after the other, and leaves off as soon as
the content ends. Gives the offset that it has come to. -/
def pour (content : Bytes) (offset : Nat) : List Bytes → Nat × List Bytes
  | [] => (offset, [])
  | slice :: slices =>
    let count := min slice.length (content.length - offset)
    let filled := overlay ((content.drop offset).take count) slice
    if offset + count = content.length then (offset + count, filled :: slices)
    else
      let rest := content.pour (offset + count) slices
      (rest.1, filled :: rest.2)

theorem poured_slice (content : Bytes) (offset : Nat) (slice : Bytes) :
    overlay ((content.drop offset).take (min slice.length (content.length - offset))) slice =
      overlay (content.drop offset) slice := by
  rw [← List.length_drop, ← List.take_eq_take_min, overlay_take]

theorem pour_eq (content : Bytes) {offset : Nat} (inside : offset ≤ content.length)
    (slices : List Bytes) :
    content.pour offset slices =
      (offset + min slices.flatten.length (content.length - offset),
        scatter (content.drop offset) slices) := by
  induction slices generalizing offset with
  | nil => simp [pour, scatter]
  | cons slice slices induction =>
    rw [pour, poured_slice, scatter, List.drop_drop, List.flatten_cons, List.length_append]
    by_cases long : content.length ≤ offset + slice.length
    · -- The content ends in this slice, so nothing is left for the others.
      have ended : offset + min slice.length (content.length - offset) = content.length := by omega
      have nothing : content.drop (offset + slice.length) = [] := List.drop_of_length_le long
      rw [if_pos ended, nothing, scatter_nothing]
      exact Prod.ext (by simp only; omega) rfl
    · have whole : min slice.length (content.length - offset) = slice.length := by omega
      have further : offset + slice.length ≤ content.length := by omega
      rw [whole, if_neg (by omega), induction further]
      exact Prod.ext (by simp only; omega) rfl

end Bytes

namespace Buffer

theorem read_ended (buffer : Buffer) {position : Nat} (ended : buffer.size ≤ position)
    (slices : List Bytes) : buffer.read position slices = (none, slices) := by
  rw [read, if_pos ended]

/-- A read goes through its slices, and counts by how far it has come. -/
theorem read_pours (buffer : Buffer) {position : Nat} (inside : position < buffer.size)
    (slices : List Bytes) :
    let poured := buffer.bytes.pour position slices
    buffer.read position slices = (some (poured.1 - position), poured.2) := by
  intro poured
  have reached : poured = _ := Bytes.pour_eq buffer.bytes (Nat.le_of_lt inside) slices
  rw [reached, read, if_neg (Nat.not_le_of_lt inside), Nat.add_sub_cancel_left, size]

/-- The slices are those of one long slice, cut up again. -/
theorem read_splits (buffer : Buffer) (position : Nat) (slices : List Bytes) :
    let whole := buffer.read position [slices.flatten]
    buffer.read position slices =
      (whole.1, (slices.map List.length).splitLengths whole.2.flatten) := by
  intro whole
  have cut := Bytes.splitLengths_flatten (buffer.read position slices).2
  obtain ⟨_, _, _, lengths⟩ := buffer.read_fills position slices
  rw [lengths] at cut
  have same : (buffer.read position slices).1 = whole.1 ∧
      (buffer.read position slices).2.flatten = whole.2.flatten := by
    simp only [whole, read, List.flatten_singleton]
    by_cases ended : buffer.size ≤ position
    · simp [ended]
    · simp [ended, Bytes.flatten_scatter]
  rw [← same.1, ← same.2, cut]

end Buffer

variable {σ : Type}

/-- A channel finds the same in a room that is cut up as in one that is not. -/
theorem Channel.read_splits (channel : Channel) (place : Place σ) (slices : List Bytes) (s : σ) :
    let whole := channel.read place.store [slices.flatten] s
    channel.read place.store slices s =
      { whole with slices := (slices.map List.length).splitLengths whole.slices.flatten } := by
  intro whole
  cases refused : channel.refusal? .readable [] with
  | some failure =>
    simp only [whole, read, attempt, refused, List.flatten_singleton, Bytes.splitLengths_flatten]
  | none =>
    have same := (place.look s).read_splits channel.position slices
    simp only [whole, read, attempt, refused, Place.store, same]

/-- What a read of several slices comes to, and that a channel reads into them as into one. -/
theorem scattered_read_exact (place : Place σ) (position : Nat) (slices : List Bytes) (s : σ) :
    let content := (place.look s).bytes
    let count := min slices.flatten.length (content.length - position)
    let reading := place.store.read position slices s
    let filled := reading.1.2
    (reading.1.1 = .ok none ↔ content.length ≤ position) ∧
      (content.length ≤ position → filled = slices) ∧
      (position < content.length →
        reading.1.1 = .ok (some count) ∧
          filled.flatten = (content.drop position).take count ++ slices.flatten.drop count ∧
          content.pour position slices = (position + count, filled)) ∧
      filled.map List.length = slices.map List.length ∧ reading.2 = s ∧
      ∀ channel : Channel,
        let whole := channel.read place.store [slices.flatten] s
        channel.read place.store slices s =
          { whole with slices := (slices.map List.length).splitLengths whole.slices.flatten } := by
  intro content count reading filled
  have read : reading = ((.ok ((place.look s).read position slices).1,
    ((place.look s).read position slices).2), s) := rfl
  have lengths : filled.map List.length = slices.map List.length :=
    ((place.look s).read_fills position slices).2.2.2
  have alike (channel : Channel) := channel.read_splits place slices s
  by_cases ended : content.length ≤ position
  · have nothing : (place.look s).read position slices = (none, slices) :=
      (place.look s).read_ended ended slices
    rw [nothing] at read
    have left : filled = slices := by
      simp only [filled, read]
    refine ⟨?_, fun _ => left, ?_, lengths, rfl, alike⟩
    · simp [read, ended]
    · intro inside
      exact absurd ended (Nat.not_le_of_lt inside)
  · have inside : position < content.length := Nat.lt_of_not_le ended
    have poured : content.pour position slices =
        (position + count, Bytes.scatter (content.drop position) slices) :=
      content.pour_eq (Nat.le_of_lt inside) slices
    have some : (place.look s).read position slices =
        (some ((content.pour position slices).1 - position), (content.pour position slices).2) :=
      (place.look s).read_pours inside slices
    rw [some, poured, Nat.add_sub_cancel_left] at read
    have left : filled = Bytes.scatter (content.drop position) slices := by
      simp only [filled, read]
    refine ⟨?_, fun beyond => absurd beyond ended, ?_, lengths, rfl, alike⟩
    · simp [read, ended]
    · intro _
      refine ⟨by rw [read], ?_, by rw [poured, left]⟩
      rw [left, Bytes.flatten_scatter, Bytes.overlay_eq, List.length_drop]

/-- The content ends in the middle of a slice, with empty slices before, in between and behind. -/
example : (Buffer.ofBytes [1, 2, 3]).read 1 [[], [9], [], [9, 9], [], [9]] =
    (some 2, [[], [2], [], [3, 9], [], [9]]) := by
  rfl

end SharedBytes
