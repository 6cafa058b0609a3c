/-!
# Byte sequences

The contents of a buffer, a payload and a reader's slice are all lists of bytes. This module holds
the three ways in which one of them changes: bytes laid over the front of a slice, bytes scattered
over several slices in order, and bytes put at a position of a content that grows as needed.
-/

namespace SharedBytes

abbrev Bytes := List UInt8

namespace Bytes

def zeros (count : Nat) : Bytes :=
  List.replicate count 0

@[simp] theorem length_zeros (count : Nat) : (zeros count).length = count := by
  simp [zeros]

/-- Replaces the front of `slice` by `bytes`, without changing its length. -/
def overlay (bytes slice : Bytes) : Bytes :=
  bytes.take slice.length ++ slice.drop bytes.length

@[simp] theorem length_overlay (bytes slice : Bytes) :
    (overlay bytes slice).length = slice.length := by
  simp only [overlay, List.length_append, List.length_take, List.length_drop]
  omega

/-- Fills the slices one after the other; what the bytes do not reach stays as it was. -/
def scatter : Bytes → List Bytes → List Bytes
  | _, [] => []
  | bytes, slice :: slices =>
    overlay bytes slice :: scatter (bytes.drop slice.length) slices

@[simp] theorem map_length_scatter (bytes : Bytes) (slices : List Bytes) :
    (scatter bytes slices).map List.length = slices.map List.length := by
  induction slices generalizing bytes with
  | nil => rfl
  | cons slice slices ih => simp [scatter, ih]

theorem flatten_scatter (bytes : Bytes) (slices : List Bytes) :
    (scatter bytes slices).flatten = overlay bytes slices.flatten := by
  induction slices generalizing bytes with
  | nil => simp [scatter, overlay]
  | cons slice slices ih =>
    simp only [scatter, List.flatten_cons, ih, overlay, List.length_append, List.take_add,
      List.drop_append, List.length_drop, List.append_assoc]
    congr 1
    rcases Nat.le_total bytes.length slice.length with short | long
    · simp [List.drop_of_length_le short, Nat.sub_eq_zero_of_le short]
    · simp [List.drop_of_length_le long]

/-- Puts `bytes` at `position` of `content`. A gap before the position reads as zeros. -/
def splice (content : Bytes) (position : Nat) (bytes : Bytes) : Bytes :=
  content.take position ++ zeros (position - content.length) ++ bytes
    ++ content.drop (position + bytes.length)

@[simp] theorem length_splice (content : Bytes) (position : Nat) (bytes : Bytes) :
    (content.splice position bytes).length = max content.length (position + bytes.length) := by
  simp only [splice, List.length_append, List.length_take, List.length_drop, length_zeros]
  omega

theorem getElem?_splice (content : Bytes) (position : Nat) (bytes : Bytes) (i : Nat) :
    (content.splice position bytes)[i]? =
      if position ≤ i ∧ i < position + bytes.length then bytes[i - position]?
      else if i < content.length then content[i]?
      else if i < position then some 0
      else none := by
  simp only [splice, zeros, List.getElem?_append, List.length_append, List.length_take,
    List.length_replicate, List.getElem?_take, List.getElem?_drop, List.getElem?_replicate]
  grind

end Bytes

end SharedBytes
