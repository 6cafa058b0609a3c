import SharedBytes.Buffer.Transfer

/-!
# Deposits

A transfer from a source deposits bytes in a buffer, at a position or at the end. Where the deposit
ends decides whether the buffer admits it: inside the content always, past it if neither the limit
nor the room of memory is in the way. What is admitted is stored whole, and what is not leaves the
buffer as it was.
-/

namespace SharedBytes

/-- To lay more bytes behind those laid at a position is to lay them all there. -/
theorem Bytes.splice_append (content : Bytes) (position : Nat) (bytes more : Bytes) :
    (content.splice position bytes).splice (position + bytes.length) more =
      content.splice position (bytes ++ more) := by
  apply List.ext_getElem?
  intro i
  simp only [getElem?_splice, length_splice, List.length_append, List.getElem?_append]
  grind

theorem Bytes.splice_nil {content : Bytes} {position : Nat} (inside : position ≤ content.length) :
    content.splice position [] = content := by
  simp [splice, zeros, Nat.sub_eq_zero_of_le inside]

theorem Bytes.splice_length (content bytes : Bytes) :
    content.splice content.length bytes = content ++ bytes := by
  simp [splice, zeros]

namespace Buffer

variable [Memory] {buffer : Buffer} {stop position : Nat} {bytes : Bytes}

/-- The content reaches up to `stop`, or nothing is in the way of its growing so far. -/
def Admits (buffer : Buffer) (stop : Nat) : Prop :=
  stop ≤ buffer.size ∨
    (∀ limit, buffer.limit = some limit → stop ≤ limit) ∧ stop ≤ Memory.capacity

def overflow (buffer : Buffer) (stop : Nat) : StoreFailure :=
  .capacityExceeded (buffer.limit.getD maxPosition) (min stop maxWord)

theorem Admits.mono {further : Nat} (admitted : buffer.Admits further) (less : stop ≤ further) :
    buffer.Admits stop := by
  rcases admitted with inside | ⟨limits, roomy⟩
  · exact .inl (Nat.le_trans less inside)
  · exact .inr ⟨fun limit limited => Nat.le_trans less (limits limit limited),
      Nat.le_trans less roomy⟩

theorem Admits.inRange (admitted : buffer.Admits stop) (fits : buffer.size ≤ maxPosition) :
    stop ≤ maxPosition := by
  rcases admitted with inside | ⟨_, roomy⟩
  · exact Nat.le_trans inside fits
  · exact Nat.le_trans roomy Memory.capacity_le

/-- A deposit that was admitted makes no difference to what else is. -/
theorem admits_splice_iff (admitted : buffer.Admits (position + bytes.length)) (stop : Nat) :
    ({ buffer with bytes := buffer.bytes.splice position bytes } : Buffer).Admits stop ↔
      buffer.Admits stop := by
  rw [Admits, size, Bytes.length_splice, ← size]
  constructor
  · rintro (inside | further)
    · by_cases old : stop ≤ buffer.size
      · exact .inl old
      · exact admitted.mono (by omega)
    · exact .inr further
  · rintro (inside | further)
    · exact .inl (Nat.le_trans inside (Nat.le_max_left _ _))
    · exact .inr further

theorem refusal?_growing (growing : buffer.size < stop) :
    (buffer.Admits stop ∧ buffer.refusal? stop = none) ∨
      (¬ buffer.Admits stop ∧ buffer.refusal? stop = some (buffer.overflow stop)) := by
  have outside : ¬ stop ≤ buffer.size := Nat.not_le_of_lt growing
  cases refused : buffer.refusal? stop with
  | none =>
    obtain ⟨limits, inside | roomy⟩ := (buffer.refusal?_eq_none_iff stop).mp refused
    · exact absurd inside outside
    · exact .inl ⟨.inr ⟨limits, roomy⟩, rfl⟩
  | some error =>
    refine .inr ⟨?_, ?_⟩
    · rintro (inside | ⟨limits, roomy⟩)
      · exact outside inside
      · have accepted := (buffer.refusal?_eq_none_iff stop).mpr ⟨limits, .inr roomy⟩
        rw [accepted] at refused
        cases refused
    · rw [refusal?] at refused
      split at refused
      · rw [← refused]
        rfl
      · cases refused

theorem write_deposit (buffer : Buffer) (some : bytes ≠ []) (position : Nat) :
    (buffer.Admits (position + bytes.length) ∧ buffer.write position [bytes] =
        (.ok bytes.length, { buffer with bytes := buffer.bytes.splice position bytes })) ∨
      (¬ buffer.Admits (position + bytes.length) ∧ buffer.write position [bytes] =
        (.error (buffer.overflow (position + bytes.length)), buffer)) := by
  rw [write, List.flatten_singleton]
  simp only [if_neg some]
  by_cases inside : position + bytes.length ≤ buffer.size
  · exact .inl ⟨.inl inside, by rw [if_pos inside]⟩
  · rw [if_neg inside]
    rcases refusal?_growing (Nat.lt_of_not_le inside) with ⟨admitted, found⟩ | ⟨refused, found⟩
    · exact .inl ⟨admitted, by rw [found]⟩
    · exact .inr ⟨refused, by rw [found]⟩

theorem append_deposit (buffer : Buffer) (some : bytes ≠ []) :
    (buffer.Admits (buffer.size + bytes.length) ∧ buffer.append [bytes] =
        (.ok ⟨bytes.length, buffer.size + bytes.length⟩,
          { buffer with bytes := buffer.bytes ++ bytes })) ∨
      (¬ buffer.Admits (buffer.size + bytes.length) ∧ buffer.append [bytes] =
        (.error (buffer.overflow (buffer.size + bytes.length)), buffer)) := by
  rw [append, List.flatten_singleton]
  have growing : buffer.size < buffer.size + bytes.length := by
    have length := List.length_pos_iff.mpr some
    omega
  rcases refusal?_growing growing with ⟨admitted, found⟩ | ⟨refused, found⟩
  · exact .inl ⟨admitted, by rw [found]⟩
  · exact .inr ⟨refused, by rw [found]⟩

end Buffer

variable {σ : Type} [Memory]

/-- The work at a place is work on the buffer that is seen there. -/
structure Place.Faithful (place : Place σ) : Prop where
  write : ∀ position payload s,
    (place.write position payload s).1 = ((place.look s).write position payload).1 ∧
      place.look (place.write position payload s).2 = ((place.look s).write position payload).2
  append : ∀ payload s,
    (place.append payload s).1 = ((place.look s).append payload).1 ∧
      place.look (place.append payload s).2 = ((place.look s).append payload).2

theorem Place.ofPart_faithful {get : σ → Buffer} {set : Buffer → σ → σ}
    (put : ∀ buffer s, get (set buffer s) = buffer) : (Place.ofPart get set).Faithful where
  write _ _ s := ⟨rfl, put _ s⟩
  append _ s := ⟨rfl, put _ s⟩

section

variable {place : Place σ} {s : σ} {bytes : Bytes}

theorem Place.Faithful.write_cases (faithful : place.Faithful) (some : bytes ≠ [])
    (position : Nat) :
    ((place.look s).Admits (position + bytes.length) ∧
        (place.write position [bytes] s).1 = .ok bytes.length ∧
        place.look (place.write position [bytes] s).2 =
          { place.look s with bytes := (place.look s).bytes.splice position bytes }) ∨
      (¬ (place.look s).Admits (position + bytes.length) ∧
        (place.write position [bytes] s).1 =
          .error ((place.look s).overflow (position + bytes.length)) ∧
        place.look (place.write position [bytes] s).2 = place.look s) := by
  obtain ⟨answer, state⟩ := faithful.write position [bytes] s
  rw [answer, state]
  rcases (place.look s).write_deposit some position with
    ⟨admitted, written⟩ | ⟨refused, written⟩
  · rw [written]
    exact .inl ⟨admitted, rfl, rfl⟩
  · rw [written]
    exact .inr ⟨refused, rfl, rfl⟩

theorem Place.Faithful.append_cases (faithful : place.Faithful) (some : bytes ≠ []) :
    ((place.look s).Admits ((place.look s).size + bytes.length) ∧
        (place.append [bytes] s).1 =
          .ok ⟨bytes.length, (place.look s).size + bytes.length⟩ ∧
        place.look (place.append [bytes] s).2 =
          { place.look s with bytes := (place.look s).bytes ++ bytes }) ∨
      (¬ (place.look s).Admits ((place.look s).size + bytes.length) ∧
        (place.append [bytes] s).1 =
          .error ((place.look s).overflow ((place.look s).size + bytes.length)) ∧
        place.look (place.append [bytes] s).2 = place.look s) := by
  obtain ⟨answer, state⟩ := faithful.append [bytes] s
  rw [answer, state]
  rcases (place.look s).append_deposit some with
    ⟨admitted, appended⟩ | ⟨refused, appended⟩
  · rw [appended]
    exact .inl ⟨admitted, rfl, rfl⟩
  · rw [appended]
    exact .inr ⟨refused, rfl, rfl⟩

end

end SharedBytes
