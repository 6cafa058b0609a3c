import SharedBytes.Proofs.Session.Copies
import SharedBytes.Proofs.Transfer.Within
import SharedBytes.Proofs.Writes

/-!
# Copies within one buffer

One channel of a session copies a range of a buffer into another channel on that buffer, which
writes at its cursor. Each chunk is written before the next one is read. The copy comes to the same
as one write of the whole range if what it has written never lies in what it has still to read: if
it writes before the range or behind it, or if the range is a single chunk.
-/

namespace SharedBytes

open Transfer

section

variable [Memory] {buffer : Buffer} {p q count moved : Nat}

/-- A buffer after the first bytes of a range of its own were written to a position. -/
def Buffer.copied (buffer : Buffer) (p q count moved : Nat) : Buffer :=
  (buffer.write q [(buffer.bytes.range p count).take moved]).2

namespace Buffer

theorem copied_nothing (buffer : Buffer) (p q count : Nat) : buffer.copied p q count 0 = buffer := by
  rw [copied, List.take_zero, write_nothing _ _ _ List.flatten_singleton]

variable (inside : p + count ≤ buffer.size)

include inside

theorem copied_all (q : Nat) :
    buffer.copied p q count count = (buffer.write q [buffer.bytes.range p count]).2 := by
  have length := Bytes.length_range inside
  rw [copied, List.take_of_length_le (Nat.le_of_eq length)]

variable (admitted : buffer.Admits (q + count))

include admitted

theorem copied_some (some : 0 < moved) (further : moved ≤ count) :
    buffer.copied p q count moved =
      { buffer with bytes := buffer.bytes.splice q ((buffer.bytes.range p count).take moved) } := by
  have length := Bytes.length_take_range inside further
  have nonempty : [(buffer.bytes.range p count).take moved].flatten ≠ [] := by
    rw [List.flatten_singleton]
    exact List.ne_nil_of_length_pos (by omega)
  have fits : buffer.Admits (q + moved) := admitted.mono (Nat.add_le_add_left further q)
  rw [copied, write_admitted nonempty (by rwa [List.flatten_singleton, length])]
  rw [List.flatten_singleton]

/-- What is still to be read is there as it was. -/
theorem copied_unread (further : moved ≤ count)
    (apart : q ≤ p ∨ p + count ≤ q ∨ moved = 0) :
    nextChunk (buffer.copied p q count moved).bytes (p + moved) (count - moved) =
      nextChunk (buffer.bytes.range p count) moved (count - moved) := by
  rw [nextChunk_range]
  by_cases fresh : moved = 0
  · rw [fresh, copied_nothing]
  · rw [copied_some inside admitted (Nat.pos_of_ne_zero fresh) further]
    apply nextChunk_beside
    · rw [size] at inside
      omega
    · rw [Bytes.length_take_range inside further]
      omega

theorem copied_further (moved : Nat) (within : moved ≤ count) :
    let chunk := nextChunk (buffer.bytes.range p count) moved (count - moved)
    (buffer.copied p q count moved).write (q + moved) [chunk] =
      (.ok chunk.length, buffer.copied p q count (moved + chunk.length)) := by
  intro chunk
  have length := Bytes.length_take_range inside within
  have bounded : chunk.length ≤ count - moved := length_nextChunk_le _ _ _
  have fits : buffer.Admits (q + ((buffer.bytes.range p count).take moved ++ chunk).length) := by
    rw [List.length_append, length]
    exact admitted.mono (by omega)
  have written := write_write fits
  rw [length, take_further] at written
  exact written

end Buffer

end

namespace Session

variable [Memory] {session : Session} {a b i p q count : Nat} {reader writer : Channel}

/-- How far a copy of a range has come. A range that is a single chunk is moved at once. -/
structure Copied (session : Session) (i p q count moved : Nat) (buffers : List Buffer) : Prop where
  written : buffers =
    session.buffers.modify i fun _ => (session.bufferAt i).copied p q count moved
  atOnce : count ≤ chunkSize → moved = 0 ∨ moved = count

theorem Copied.round (inside : p + count ≤ (session.bufferAt i).size)
    (admitted : (session.bufferAt i).Admits (q + count))
    (apart : q ≤ p ∨ p + count ≤ q ∨ count ≤ chunkSize) (moved : Nat) (buffers : List Buffer)
    (further : moved < count) (copied : session.Copied i p q count moved buffers) :
    let chunk := nextChunk (buffers.getD i {}).bytes (p + moved) (count - moved)
    chunk ≠ [] ∧ ∃ answer next, deposit false i (q + moved) chunk buffers = (.ok answer, next) ∧
      session.Copied i p q count (moved + chunk.length) next := by
  have there : i < session.buffers.length := there_of_content (by omega)
  have before : buffers.getD i {} = (session.bufferAt i).copied p q count moved := by
    rw [copied.written, getD_modify there]
  -- A range of a single chunk is all read before any of it is written, wherever that goes.
  have unread : q ≤ p ∨ p + count ≤ q ∨ moved = 0 := by
    have atOnce := copied.atOnce
    omega
  rw [before, Buffer.copied_unread inside admitted (Nat.le_of_lt further) unread]
  intro chunk
  have length : chunk.length = min (count - moved) chunkSize := by
    simp only [chunk, nextChunk, List.length_take, List.length_drop, Bytes.length_range inside]
    omega
  have stored := Buffer.copied_further inside admitted moved (Nat.le_of_lt further)
  rw [← before] at stored
  have nonempty : chunk ≠ [] := by
    apply List.ne_nil_of_length_pos
    rw [length, chunkSize]
    omega
  refine ⟨nonempty, chunk.length, _, ?_, rfl, ?_⟩
  · simp only [deposit, Bool.false_eq_true, if_false, chunk, stored]
    rw [copied.written, List.modify_modify_eq]
    rfl
  · intro short
    omega

/-- By the rounds of the copy, from none of the bytes on. -/
theorem copy_range (inside : p + count ≤ (session.bufferAt i).size)
    (admitted : (session.bufferAt i).Admits (q + count))
    (apart : q ≤ p ∨ p + count ≤ q ∨ count ≤ chunkSize) :
    copy false i i p q count session.buffers = (.ok count, session.buffers.modify i fun buffer =>
      (buffer.write q [buffer.bytes.range p count]).2) := by
  have start : session.Copied i p q count 0 session.buffers := by
    refine ⟨?_, fun _ => .inl rfl⟩
    rw [Buffer.copied_nothing, modify_bufferAt_self]
  obtain ⟨final, copied, written, _⟩ := relay_completes (Copied.round inside admitted apart) 0
    session.buffers (Nat.zero_le count) start
  rw [copy, copied, written, Buffer.copied_all inside]
  exact congrArg (Prod.mk _) (modify_bufferAt session i fun buffer =>
    (buffer.write q [buffer.bytes.range p count]).2)

/-- A copy out of one channel of a buffer into another that writes at its cursor: as if the whole
range had been read before anything was written. -/
theorem copies_range (distinct : a ≠ b) (source : session.Bears a reader i)
    (target : session.Bears b writer i) (readerOpen : reader.isOpen = true)
    (readable : reader.capabilities.isReadable = true) (writerOpen : writer.isOpen = true)
    (writable : writer.capabilities.isWritable = true)
    (positional : writer.capabilities.isAppending = false) (nonempty : 0 < count)
    (inside : p + count ≤ (session.bufferAt i).size)
    (held : (session.bufferAt i).size ≤ maxPosition)
    (admitted : (session.bufferAt i).Admits (writer.position + count))
    (apart : writer.position ≤ p ∨ p + count ≤ writer.position ∨ count ≤ chunkSize) :
    let out := session.perform (.channel a (.copyOut p count (.channel b)))
    let q := writer.position
    let content := (session.bufferAt i).bytes
    let copied := (out.2.bufferAt i).bytes
    out.1.outcome = .ok (.number count) ∧
      out.2.buffers = session.buffers.modify i (fun buffer =>
        (buffer.write q [buffer.bytes.range p count]).2) ∧
      copied.length = max content.length (q + count) ∧
      (∀ k < copied.length, copied[k]? =
        if q ≤ k ∧ k < q + count then content[p + (k - q)]?
        else if k < content.length then content[k]?
        else some 0) ∧
      out.2.channel? b = some (writer.moveTo (q + count)) ∧
      ∀ id, id ≠ b → out.2.channel? id = session.channel? id := by
  intro out q content copied
  have there : i < session.buffers.length := there_of_content (by omega)
  have inRange : p ≤ maxPosition ∧ count ≤ maxPosition := by omega
  have arguments : reader.refusal? .readable [("position", p), ("count", count)] = none :=
    reader.readable_allowed readerOpen readable (by simpa using inRange)
  have writes := writer.writable_allowed writerOpen writable (List.forall_mem_nil _)
  obtain ⟨ended, cursor, turned, advanced⟩ := copyOut_copies distinct source target arguments
    writes (fun _ => (rfl : writer.position = q))
  rw [positional, copy_range inside admitted apart] at ended turned advanced
  obtain rfl := advanced rfl count rfl
  have range : (content.range p count).length = count := Bytes.length_range inside
  have final : out.2.bufferAt i = (session.bufferAt i).copied p q count count := by
    rw [bufferAt, turned.buffers_eq, getD_modify there, Buffer.copied_all inside]
    rfl
  have bytes : copied = content.splice q (content.range p count) := by
    rw [Buffer.copied_some inside admitted nonempty (Nat.le_refl count),
      List.take_of_length_le (Nat.le_of_eq range)] at final
    exact congrArg Buffer.bytes final
  have length : copied.length = max content.length (q + count) := by
    rw [bytes, Bytes.length_splice, range]
  refine ⟨ended, turned.buffers_eq, length, ?_, (turned.bears target).channel_eq, ?_⟩
  · intro k near
    rw [length] at near
    rw [bytes, Bytes.getElem?_splice, range, Bytes.getElem?_range]
    grind
  · intro id other
    exact turned.channel_other other

def nearEnd : Session where
  buffers := [{ bytes := [1, 2, 3, 4, 5], limit := some 7 }]
  slots := [
    some { channel := .opened { read := true }, handle := 0, buffer := 0 },
    some { channel := (Channel.opened { write := true }).moveTo 4, handle := 0, buffer := 0 }]

omit [Memory] in
/-- The range and its copy overlap, and the copy grows the buffer to its limit. -/
theorem nearEnd_copies_range :
    let out := @perform .standard nearEnd (.channel 0 (.copyOut 2 3 (.channel 1)))
    out.1.outcome = .ok (.number 3) ∧
      (out.2.bufferAt 0).bytes = [1, 2, 3, 4, 3, 4, 5] ∧
      out.2.channel? 1 = some ((Channel.opened { write := true }).moveTo 7) := by
  intro out
  obtain ⟨outcome, buffers, _, _, moved, _⟩ := @copies_range .standard nearEnd 0 1 0 2 3
    (.opened { read := true }) ((Channel.opened { write := true }).moveTo 4) (by decide)
    ⟨_, rfl, rfl, rfl, rfl⟩ ⟨_, rfl, rfl, rfl, rfl⟩ rfl rfl rfl rfl rfl (by decide) (by decide)
    (by decide) (.inr ⟨by decide, by decide⟩) (.inr (.inr (by decide)))
  refine ⟨outcome, ?_, moved⟩
  rw [bufferAt, show out.2.buffers = _ from buffers]
  rfl

end Session

end SharedBytes
