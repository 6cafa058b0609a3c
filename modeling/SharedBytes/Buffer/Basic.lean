import SharedBytes.Bytes
import SharedBytes.Failure
import SharedBytes.Position
import SharedBytes.Text.Number

/-!
# Buffers

A buffer is a content that all its holders share: the handles on it and the channels open on it. It
may have a growth limit. Reads and writes are at a position; a write past the end fills the gap with
zeros; a write that the limit or memory refuses changes nothing.
-/

namespace SharedBytes

structure Buffer where
  bytes : Bytes := []
  limit : Option Nat := none
  holders : Nat := 1
deriving DecidableEq, Repr

structure Receipt where
  written : Nat
  /-- The size right after. -/
  size : Nat
deriving DecidableEq, Repr

namespace Buffer

def empty : Buffer := {}

def bounded (limit : Nat) : Buffer :=
  { limit := some limit }

def ofBytes (bytes : Bytes) : Buffer :=
  { bytes }

def size (buffer : Buffer) : Nat :=
  buffer.bytes.length

def isEmpty (buffer : Buffer) : Bool :=
  buffer.bytes.isEmpty

def hold (buffer : Buffer) : Buffer :=
  { buffer with holders := buffer.holders + 1 }

def release (buffer : Buffer) : Buffer :=
  { buffer with holders := buffer.holders - 1 }

/-- Reads at a position into slices, one after the other. At or past the end there is nothing to
read, which is not the same as a read of no bytes. -/
def read (buffer : Buffer) (position : Nat) (slices : List Bytes) : Option Nat × List Bytes :=
  if buffer.size ≤ position then (none, slices)
  else
    (some (min slices.flatten.length (buffer.size - position)),
      Bytes.scatter (buffer.bytes.drop position) slices)

theorem read_fills (buffer : Buffer) (position : Nat) (slices : List Bytes) :
    let count := (buffer.read position slices).1.getD 0
    let filled := (buffer.read position slices).2
    count = min slices.flatten.length (buffer.size - position) ∧
      filled.flatten.take count = (buffer.bytes.drop position).take slices.flatten.length ∧
      filled.flatten.drop count = slices.flatten.drop count ∧
      filled.map List.length = slices.map List.length := by
  rw [read]
  by_cases ended : buffer.size ≤ position
  · have nothing : buffer.bytes.drop position = [] := List.drop_of_length_le ended
    simp [ended, nothing]
  · simp only [if_neg ended, Option.getD_some, Bytes.flatten_scatter, Bytes.overlay,
      Bytes.map_length_scatter]
    have length : ((buffer.bytes.drop position).take slices.flatten.length).length =
        min slices.flatten.length (buffer.size - position) := by
      rw [List.length_take, List.length_drop, size]
    refine ⟨trivial, List.take_left' length, ?_, trivial⟩
    rw [List.drop_left' length, List.length_drop, ← size]
    rcases Nat.le_total slices.flatten.length (buffer.size - position) with short | long
    · rw [Nat.min_eq_left short, List.drop_of_length_le short, List.drop_length]
    · rw [Nat.min_eq_right long]

/-- Cuts the content down to a size. It never grows. -/
def truncate (buffer : Buffer) (size : Nat) : Buffer :=
  { buffer with bytes := buffer.bytes.take size }

variable [Memory]

/-- Why the content may not reach up to `stop`, if it may not: the limit lies before, or the content
would have to grow past what memory can hold. -/
def refusal? (buffer : Buffer) (stop : Nat) : Option StoreFailure :=
  if buffer.limit.any (· < stop) || decide (buffer.size < stop ∧ Memory.capacity < stop) then
    some (.capacityExceeded (buffer.limit.getD maxPosition) (min stop maxWord))
  else none

theorem refusal?_eq_none_iff (buffer : Buffer) (stop : Nat) :
    buffer.refusal? stop = none ↔
      (∀ limit, buffer.limit = some limit → stop ≤ limit) ∧
        (stop ≤ buffer.size ∨ stop ≤ Memory.capacity) := by
  cases found : buffer.limit with
  | none => simp [refusal?, found]; omega
  | some limit => simp [refusal?, found]; omega

/-- Writes the pieces of a payload at a position, all or nothing. An empty payload is always
accepted and changes nothing. What lies inside the content is never refused. -/
def write (buffer : Buffer) (position : Nat) (payload : List Bytes) :
    Except StoreFailure Nat × Buffer :=
  let bytes := payload.flatten
  let stop := position + bytes.length
  if bytes = [] then (.ok 0, buffer)
  else
    match if stop ≤ buffer.size then none else buffer.refusal? stop with
    | some error => (.error error, buffer)
    | none => (.ok bytes.length, { buffer with bytes := buffer.bytes.splice position bytes })

def append (buffer : Buffer) (payload : List Bytes) : Except StoreFailure Receipt × Buffer :=
  let bytes := payload.flatten
  match buffer.refusal? (buffer.size + bytes.length) with
  | some error => (.error error, buffer)
  | none =>
    (.ok ⟨bytes.length, buffer.size + bytes.length⟩,
      { buffer with bytes := buffer.bytes ++ bytes })

theorem write_cases (buffer : Buffer) (position : Nat) (payload : List Bytes) :
    (payload.flatten = [] ∧ buffer.write position payload = (.ok 0, buffer)) ∨
      (payload.flatten ≠ [] ∧
        (position + payload.flatten.length ≤ buffer.size ∨
          buffer.refusal? (position + payload.flatten.length) = none) ∧
        buffer.write position payload = (.ok payload.flatten.length,
          { buffer with bytes := buffer.bytes.splice position payload.flatten })) ∨
      (payload.flatten ≠ [] ∧ buffer.size < position + payload.flatten.length ∧
        ∃ error, buffer.refusal? (position + payload.flatten.length) = some error ∧
          buffer.write position payload = (.error error, buffer)) := by
  by_cases empty : payload.flatten = []
  · exact .inl ⟨empty, by simp [write, empty]⟩
  · right
    by_cases inside : position + payload.flatten.length ≤ buffer.size
    · exact .inl ⟨empty, .inl inside, by simp only [write, if_neg empty, if_pos inside]⟩
    · cases refused : buffer.refusal? (position + payload.flatten.length) with
      | none =>
        exact .inl ⟨empty, .inr rfl, by simp only [write, if_neg empty, if_neg inside, refused]⟩
      | some error =>
        refine .inr ⟨empty, Nat.lt_of_not_le inside, error, rfl, ?_⟩
        simp only [write, if_neg empty, if_neg inside, refused]

theorem append_cases (buffer : Buffer) (payload : List Bytes) :
    (buffer.refusal? (buffer.size + payload.flatten.length) = none ∧
        buffer.append payload =
          (.ok ⟨payload.flatten.length, buffer.size + payload.flatten.length⟩,
            { buffer with bytes := buffer.bytes ++ payload.flatten })) ∨
      ∃ error, buffer.refusal? (buffer.size + payload.flatten.length) = some error ∧
        buffer.append payload = (.error error, buffer) := by
  cases refused : buffer.refusal? (buffer.size + payload.flatten.length) with
  | none => exact .inl ⟨rfl, by simp only [append, refused]⟩
  | some error => exact .inr ⟨error, rfl, by simp only [append, refused]⟩

omit [Memory] in
def inspect (buffer : Buffer) : String :=
  let limit := Text.optional buffer.limit
  s!"Buffer(len={buffer.size}, limit={limit}, handles={buffer.holders})"

end Buffer

end SharedBytes
