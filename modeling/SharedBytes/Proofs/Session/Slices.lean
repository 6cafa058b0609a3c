import SharedBytes.Proofs.Session.Channels
import SharedBytes.Proofs.Transfer.Relay
import SharedBytes.Proofs.Transfer.Within

/-!
# Appending a slice

A source that is a slice gives its bytes in order, as many as it is asked for, and touches no
buffer. So a transfer from it to the end of a buffer stores the front of the slice there, in however
many chunks, and the size that it reports is that of the buffer.
-/

namespace SharedBytes.Session

open Transfer

variable {session : Session} {index : Nat}

def grown (session : Session) (index : Nat) (bytes : Bytes) : List Buffer :=
  session.buffers.modify index fun _ =>
    { session.bufferAt index with bytes := (session.bufferAt index).bytes ++ bytes }

theorem grown_nil (session : Session) (index : Nat) : session.grown index [] = session.buffers := by
  unfold grown
  rw [List.append_nil]
  exact session.modify_bufferAt_self index

theorem getD_grown (there : index < session.buffers.length) (bytes : Bytes) :
    (session.grown index bytes).getD index {} =
      { session.bufferAt index with bytes := (session.bufferAt index).bytes ++ bytes } := by
  unfold grown
  exact getD_modify there {}

theorem grown_grown (there : index < session.buffers.length) (first second : Bytes) :
    (session.grown index first).modify index (fun _ =>
      { (session.grown index first).getD index {} with
        bytes := ((session.grown index first).getD index {}).bytes ++ second }) =
      session.grown index (first ++ second) := by
  rw [getD_grown there, grown, List.modify_modify_eq, grown, List.append_assoc]
  rfl

variable {bytes chunk : Bytes} {count moved : Nat} {last : Option Receipt}
  {s next : Session × SourcePeer}

theorem take_of_exhausted (more : moved < count)
    (exhausted : (nextChunk bytes moved (count - moved)).length = 0) :
    bytes.take count = bytes.take moved := by
  have length : bytes.length ≤ moved := by
    rw [nextChunk, List.length_take, List.length_drop, chunkSize] at exhausted
    omega
  rw [List.take_of_length_le length, List.take_of_length_le (by omega)]

theorem length_nextChunk_le_rest (bytes : Bytes) (moved remaining : Nat) :
    (nextChunk bytes moved remaining).length ≤ bytes.length - moved := by
  rw [nextChunk, List.length_take, List.length_drop]
  exact Nat.min_le_right _ _

structure Fed (session : Session) (index : Nat) (bytes : Bytes) (count : Nat) (chunk : Bytes)
    (moved : Nat) (last : Option Receipt) (s : Session × SourcePeer) : Prop where
  full : chunk.length = min count chunkSize
  within : moved ≤ count
  given : moved ≤ bytes.length
  left : s.2 = .slice (bytes.drop moved)
  buffers : s.1.buffers = session.grown index (bytes.take moved)
  bare : ∀ other, s.1.bareSlot? other = session.bareSlot? other
  size : ∀ receipt ∈ last, receipt.size = (session.bufferAt index).size + moved

/-- The deposit is what the source has given, and no older byte of the chunk. -/
theorem Fed.delivered (fed : session.Fed index bytes count chunk moved last s) {n : Nat}
    (length : n = (nextChunk bytes moved (count - moved)).length) :
    (refilled count moved chunk (nextChunk bytes moved (count - moved))).take n =
      nextChunk bytes moved (count - moved) := by
  have fits : n ≤ (slice count moved chunk).length := by
    rw [length, ← take_slice bytes moved fed.full, List.length_take]
    exact Nat.min_le_left _ _
  rw [take_refilled count moved chunk (Nat.le_of_eq length) fits, length, List.take_length]

variable [Memory]

theorem Fed.supplied (fed : session.Fed index bytes count chunk moved last s) {supply : Supply}
    (asked : SourcePeer.source (slice count moved chunk) s = (supply, next)) :
    let part := nextChunk bytes moved (count - moved)
    supply.report = .ok part.length ∧ supply.bytes = part ∧ next.1 = s.1 ∧
      next.2 = .slice (bytes.drop (moved + part.length)) := by
  obtain ⟨t, peer⟩ := s
  cases fed.left
  have part : (bytes.drop moved).take (slice count moved chunk).length =
      nextChunk bytes moved (count - moved) := take_slice bytes moved fed.full
  have length := congrArg List.length part
  rw [List.length_take, List.length_drop] at length
  simp only [SourcePeer.source, part, List.drop_drop] at asked
  cases asked
  refine ⟨rfl, rfl, rfl, ?_⟩
  rcases Nat.le_total (slice count moved chunk).length (bytes.length - moved) with short | long
  · rw [← length, Nat.min_eq_left short]
  · rw [← length, Nat.min_eq_right long, List.drop_of_length_le, List.drop_of_length_le]
    · omega
    · omega

theorem Fed.stored (there : index < session.buffers.length)
    (fed : session.Fed index bytes count chunk moved last s) {front : Bytes} {n : Nat}
    {receipt : Receipt} {final : Session × SourcePeer}
    (asked : SourcePeer.source (slice count moved chunk) s = (⟨.ok (n + 1), front⟩, next))
    (storage : (place SourcePeer index).append [(refilled count moved chunk front).take (n + 1)]
      next = (.ok receipt, final)) :
    session.Fed index bytes count (refilled count moved chunk front) (moved + (n + 1))
      (some receipt) final := by
  obtain ⟨report, rfl, same, left⟩ := fed.supplied asked
  have length := Except.ok.inj report
  have offered := length_nextChunk_le bytes moved (count - moved)
  have supplied := length_nextChunk_le_rest bytes moved (count - moved)
  have whole := fed.given
  have before : next.1.bufferAt index = (session.grown index (bytes.take moved)).getD index {} := by
    rw [bufferAt, same, fed.buffers]
  rw [fed.delivered length] at storage
  rcases (next.1.bufferAt index).append_cases [nextChunk bytes moved (count - moved)] with
    ⟨_, appended⟩ | ⟨error, _, refused⟩
  · simp only [place, Place.ofPart, appended, List.flatten_singleton] at storage
    cases storage
    constructor
    · rw [length_refilled, fed.full]
    · omega
    · omega
    · rw [length, left]
    · change next.1.buffers.modify index _ = _
      rw [before, same, fed.buffers, grown_grown there, take_further, length]
    · intro other
      rw [← fed.bare, ← same]
      rfl
    · rintro _ ⟨⟩
      simp only [before, getD_grown there, Buffer.size, List.length_append, List.length_take]
      omega
  · simp only [place, Place.ofPart, refused] at storage
    cases storage

theorem slice_rounds (there : index < session.buffers.length) :
    Rounds SourcePeer.source (fun _ payload => (place SourcePeer index).append [payload]) count
      (session.Fed index bytes count)
      (fun outcome s => ∀ moved last, outcome = .ok (moved, last) →
        ∃ chunk, session.Fed index bytes count chunk moved last s ∧
          bytes.take count = bytes.take moved) where
  finished := by
    rintro chunk moved last s fed reached _ _ ⟨⟩
    rw [Nat.le_antisymm fed.within reached]
    exact ⟨chunk, Nat.le_antisymm fed.within reached ▸ fed, rfl⟩
  failed _ _ _ _ _ _ _ _ _ _ := nofun
  ended := by
    rintro chunk moved last s front next fed more asked _ _ ⟨⟩
    obtain ⟨report, _, same, left⟩ := fed.supplied asked
    -- The slice is used up when it gives nothing, and the state is that before the round.
    have exhausted := (Except.ok.inj report).symm
    have unmoved : next = s := by
      rw [exhausted, Nat.add_zero, ← fed.left] at left
      exact Prod.ext same left
    exact ⟨chunk, unmoved ▸ fed, take_of_exhausted more exhausted⟩
  overrun _ _ _ _ _ _ _ _ _ _ _ := nofun
  refused _ _ _ _ _ _ _ _ _ _ _ _ _ _ := nofun
  stored _ _ _ _ _ _ _ _ _ fed _ asked _ storage := fed.stored there asked storage

/-- A transfer from a slice that succeeds has stored the front of the slice. -/
theorem copyInAtEnd_slice (there : index < session.buffers.length) (bytes : Bytes) (count : Nat)
    {s : Session × SourcePeer} (left : s.2 = .slice bytes) (buffers : s.1.buffers = session.buffers)
    (bare : ∀ other, s.1.bareSlot? other = session.bareSlot? other) {receipt : Receipt}
    (done : ((place SourcePeer index).copyInAtEnd SourcePeer.source count s).1 = .ok receipt) :
    let final := ((place SourcePeer index).copyInAtEnd SourcePeer.source count s).2
    receipt = ⟨(bytes.take count).length,
        (session.bufferAt index).size + (bytes.take count).length⟩ ∧
      final.1.buffers = session.grown index (bytes.take count) ∧
      ∀ other, final.1.bareSlot? other = session.bareSlot? other := by
  have start : session.Fed index bytes count (freshChunk count) 0 none s :=
    { full := length_freshChunk count
      within := Nat.zero_le count
      given := Nat.zero_le bytes.length
      left
      buffers := by rw [buffers, List.take_zero, grown_nil]
      bare
      size := nofun }
  have ends := pump_ends (slice_rounds there) (freshChunk count) 0 none s start
  rw [Place.copyInAtEnd] at done ⊢
  rcases pumped : pump SourcePeer.source
    (fun _ payload => (place SourcePeer index).append [payload]) count (freshChunk count) 0 none s
    with ⟨⟨moved, last⟩ | _ | _, final⟩
  · rw [pumped] at ends done
    obtain ⟨chunk, fed, whole⟩ := ends moved last rfl
    cases done
    have size : (final.1.bufferAt index).size = (session.bufferAt index).size + moved := by
      rw [bufferAt, fed.buffers, getD_grown there]
      simp only [Buffer.size, List.length_append, List.length_take]
      have given := fed.given
      omega
    have length : (bytes.take count).length = moved := by
      rw [whole, List.length_take, Nat.min_eq_left fed.given]
    refine ⟨?_, whole ▸ fed.buffers, fed.bare⟩
    rw [length]
    cases last with
    | none => exact congrArg (Receipt.mk moved) size
    | some receipt => exact congrArg (Receipt.mk moved) (fed.size receipt rfl)
  · rw [pumped] at done
    cases done
  · rw [pumped] at done
    cases done

/-- What a transfer from a slice through an appending channel does if it succeeds. -/
theorem copyIn_slice {id : Nat} {slot : Slot} (unprobed : slot.fixed = {})
    (appending : slot.channel.capabilities.isAppending = true)
    (there : slot.buffer < session.buffers.length) {slice : Bytes} {position written : Nat}
    (done : (slot.channel.copyIn (slot.store id) SourcePeer.source position count
      ({ session with log := [] }, .slice slice)).result = .ok written) :
    let reply := slot.channel.copyIn (slot.store id) SourcePeer.source position count
      ({ session with log := [] }, .slice slice)
    written = (slice.take count).length ∧
      reply.channel = slot.channel.moveTo
        ((session.bufferAt slot.buffer).size + (slice.take count).length) ∧
      reply.state.1.buffers = session.grown slot.buffer (slice.take count) ∧
      ∀ other, reply.state.1.bareSlot? other = session.bareSlot? other := by
  let start : Session × SourcePeer := ({ session with log := [] }, .slice slice)
  have noted : ∀ other, (note id (.copyInAtEnd count) start).1.bareSlot? other =
      session.bareSlot? other := fun _ => bareSlot_note _ start
  cases refused : slot.channel.refusal? .writable [("position", position), ("count", count)] with
  | some failure =>
    rw [Channel.copyIn_refused (slot.store id) refused SourcePeer.source start] at done
    cases done
  | none =>
    obtain ⟨passed, moved, state⟩ := Channel.copyIn_appending (slot.store id) refused appending
      SourcePeer.source start
    rw [store_eq unprobed] at passed moved state
    rw [store_eq unprobed, passed] at done
    cases answered : (((place SourcePeer slot.buffer).store.noting (note id)).copyInAtEnd
      SourcePeer.source count start).1 with
    | ok receipt =>
      rw [answered] at done moved
      obtain ⟨stored, buffers, bare⟩ := copyInAtEnd_slice there slice count rfl rfl noted answered
      cases stored
      cases done
      rw [store_eq unprobed]
      refine ⟨rfl, moved, (congrArg (·.1.buffers) state).trans buffers, ?_⟩
      intro other
      exact (congrArg (·.1.bareSlot? other) state).trans (bare other)
    | error _ | aborted =>
      rw [answered] at done
      cases done

end SharedBytes.Session
