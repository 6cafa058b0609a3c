import Mathlib.Data.Stream.Init
import SharedBytes.Bytes
import SharedBytes.Buffer.Transfer

/-!
# Chunks of a content that is being changed

A copy within one content stores each chunk before it takes the next one, so what it has stored may
show in what it takes. If it stores at the end, all that it takes is the stretch from its position
on, again and again. If it stores at another place, what it has stored does not show where it lies
beside the next chunk.
-/

namespace SharedBytes

namespace Bytes

def range (content : Bytes) (position count : Nat) : Bytes :=
  (content.drop position).take count

variable {content bytes : Bytes} {position count : Nat}

theorem length_range (inside : position + count ≤ content.length) :
    (content.range position count).length = count := by
  rw [range, List.length_take, List.length_drop]
  omega

theorem length_take_range {moved : Nat} (inside : position + count ≤ content.length)
    (further : moved ≤ count) : ((content.range position count).take moved).length = moved := by
  rw [List.length_take, length_range inside, Nat.min_eq_left further]

theorem getElem?_range (content : Bytes) (position count i : Nat) :
    (content.range position count)[i]? = if i < count then content[position + i]? else none := by
  rw [range, List.getElem?_take, List.getElem?_drop]

/-- What is put beside a range does not show in it. -/
theorem range_splice {start : Nat} (inside : start + count ≤ content.length)
    (beside : position + bytes.length ≤ start ∨ start + count ≤ position) :
    (content.splice position bytes).range start count = content.range start count := by
  apply List.ext_getElem?
  intro i
  rw [getElem?_range, getElem?_range]
  by_cases near : i < count
  · have apart : ¬ (position ≤ start + i ∧ start + i < position + bytes.length) := by omega
    have within : start + i < content.length := by omega
    rw [if_pos near, if_pos near, getElem?_splice, if_neg apart, if_pos within]
  · rw [if_neg near, if_neg near]

end Bytes

namespace Transfer

theorem take_further (bytes : Bytes) (moved remaining : Nat) :
    bytes.take moved ++ nextChunk bytes moved remaining =
      bytes.take (moved + (nextChunk bytes moved remaining).length) := by
  rw [List.take_add]
  congr 1
  rw [nextChunk, List.length_take, List.take_eq_take_min]

section

variable {content : Bytes} {position : Nat} (more : content.drop position ≠ [])

/-- From its position on, the extended content starts with the stretch that the extension repeats. -/
theorem drop_repeating (length : Nat) :
    (content ++ (Stream'.cycle (content.drop position) more).take length).drop position =
      (Stream'.cycle (content.drop position) more).take
        ((content.drop position).length + length) := by
  have inside : position ≤ content.length := by
    have some := List.length_pos_iff.mpr more
    rw [List.length_drop] at some
    omega
  rw [List.drop_append_of_le_length inside, Stream'.append_take, ← Stream'.cycle_eq]

theorem nextChunk_repeating (moved remaining : Nat) :
    nextChunk (content ++ (Stream'.cycle (content.drop position) more).take moved)
        (position + moved) remaining =
      ((Stream'.cycle (content.drop position) more).drop moved).take
        (min (content.drop position).length (min remaining chunkSize)) := by
  rw [nextChunk, ← List.drop_drop, drop_repeating, Nat.add_comm _ moved, ← Stream'.take_drop,
    Stream'.take_take]

/-- Each byte of the extension is the byte as far from the position. -/
theorem getElem?_repeating {count j : Nat} (near : j < count) :
    let extended := content ++ (Stream'.cycle (content.drop position) more).take count
    extended[content.length + j]? = extended[position + j]? := by
  intro extended
  have behind : extended[position + j]? = (extended.drop position)[j]? := by
    rw [List.getElem?_drop]
  rw [behind, drop_repeating more count, Stream'.getElem?_take (by omega)]
  rw [List.getElem?_append_right (Nat.le_add_right _ _), Nat.add_sub_cancel_left,
    Stream'.getElem?_take near]

end

theorem nextChunk_beside {content stored : Bytes} {position start remaining : Nat}
    (inside : start + remaining ≤ content.length)
    (beside : position + stored.length ≤ start ∨ start + remaining ≤ position) :
    nextChunk (content.splice position stored) start remaining =
      nextChunk content start remaining := by
  have short := Nat.min_le_left remaining chunkSize
  exact Bytes.range_splice (by omega) (by omega)

/-- The chunks of a range are those of the bytes in it. -/
theorem nextChunk_range (content : Bytes) (position count moved : Nat) :
    nextChunk (content.range position count) moved (count - moved) =
      nextChunk content (position + moved) (count - moved) := by
  have short := Nat.min_le_left (count - moved) chunkSize
  unfold nextChunk Bytes.range
  rw [List.drop_take, List.drop_drop, List.take_take, Nat.min_eq_left short]

end Transfer

end SharedBytes
