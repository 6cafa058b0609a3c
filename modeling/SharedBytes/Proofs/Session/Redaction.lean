import SharedBytes.Proofs.Capabilities
import SharedBytes.Proofs.Session.Channels

/-!
# Channels that cannot be read

Two sessions differ in nothing but the bytes in their buffers: once the bytes are blotted out, they
are one. Both are given the same errands, each of which goes to a channel that cannot be read. No
errand can tell the two apart, so the callers get the same answers, and what the peers keep in the
world is the same. Only the contents may drift apart further.

A sink is never called, as a transfer out of such a channel is refused. A source may change buffers,
but it must not go by their bytes.
-/

namespace SharedBytes

namespace Buffer

def redacted (buffer : Buffer) : Buffer :=
  { buffer with bytes := Bytes.zeros buffer.bytes.length }

variable {buffer other : Buffer}

@[simp] theorem redacted_size : buffer.redacted.size = buffer.size := by
  simp [redacted, size]

@[simp] theorem redacted_refusal [Memory] (stop : Nat) :
    buffer.redacted.refusal? stop = buffer.refusal? stop := by
  rw [refusal?, refusal?, redacted_size]
  rfl

@[simp] theorem redacted_redacted : buffer.redacted.redacted = buffer.redacted := by
  simp [redacted]

/-- A write is answered by the sizes alone, and leaves a size that goes by sizes alone. -/
theorem write_redacted [Memory] (position : Nat) (payload : List Bytes) :
    (buffer.redacted.write position payload).1 = (buffer.write position payload).1 ∧
      (buffer.redacted.write position payload).2.redacted =
        (buffer.write position payload).2.redacted := by
  simp only [write, redacted_size, redacted_refusal]
  by_cases empty : payload.flatten = []
  · simp only [if_pos empty, redacted_redacted, and_self]
  · simp only [if_neg empty]
    cases if position + payload.flatten.length ≤ buffer.size then none
      else buffer.refusal? (position + payload.flatten.length) with
    | some error => simp only [redacted_redacted, and_self]
    | none => simp [redacted]

theorem append_redacted [Memory] (payload : List Bytes) :
    (buffer.redacted.append payload).1 = (buffer.append payload).1 ∧
      (buffer.redacted.append payload).2.redacted = (buffer.append payload).2.redacted := by
  simp only [append, redacted_size, redacted_refusal]
  cases buffer.refusal? (buffer.size + payload.flatten.length) with
  | some error => simp only [redacted_redacted, and_self]
  | none => simp [redacted]

theorem truncate_redacted (size : Nat) :
    (buffer.redacted.truncate size).redacted = (buffer.truncate size).redacted := by
  simp [redacted, truncate]

section

variable (same : buffer.redacted = other.redacted)

include same

theorem size_alike : buffer.size = other.size := by
  rw [← redacted_size, same, redacted_size]

theorem write_alike [Memory] (position : Nat) (payload : List Bytes) :
    (buffer.write position payload).1 = (other.write position payload).1 ∧
      (buffer.write position payload).2.redacted = (other.write position payload).2.redacted := by
  obtain ⟨answer, left⟩ := @write_redacted buffer _ position payload
  obtain ⟨answer', left'⟩ := @write_redacted other _ position payload
  rw [← answer, ← left, same, answer', left']
  exact ⟨rfl, rfl⟩

theorem append_alike [Memory] (payload : List Bytes) :
    (buffer.append payload).1 = (other.append payload).1 ∧
      (buffer.append payload).2.redacted = (other.append payload).2.redacted := by
  obtain ⟨answer, left⟩ := @append_redacted buffer _ payload
  obtain ⟨answer', left'⟩ := @append_redacted other _ payload
  rw [← answer, ← left, same, answer', left']
  exact ⟨rfl, rfl⟩

theorem truncate_alike (size : Nat) :
    (buffer.truncate size).redacted = (other.truncate size).redacted := by
  rw [← truncate_redacted, same, truncate_redacted]

theorem release_alike : buffer.release.redacted = other.release.redacted :=
  congrArg release same

end

end Buffer

namespace Session

variable {ω : Type}

def redacted (session : Session) : Session :=
  { session with buffers := session.buffers.map Buffer.redacted }

/-- Two sessions that differ in the bytes of their buffers only, in one and the same world. -/
structure Blurred (s t : Session × ω) : Prop where
  session : s.1.redacted = t.1.redacted
  world : s.2 = t.2

theorem redacted_bufferAt (session : Session) (index : Nat) :
    session.redacted.bufferAt index = (session.bufferAt index).redacted := by
  simp only [bufferAt, redacted, List.getD_eq_getElem?_getD, List.getElem?_map]
  cases session.buffers[index]? <;> rfl

theorem redacted_modifyBuffer (session : Session) (index : Nat) (buffer : Buffer) :
    (session.modifyBuffer index fun _ => buffer).redacted =
      session.redacted.modifyBuffer index fun _ => buffer.redacted := by
  have buffers : (session.buffers.modify index fun _ => buffer).map Buffer.redacted =
      (session.buffers.map Buffer.redacted).modify index fun _ => buffer.redacted := by
    apply List.ext_getElem?
    intro other
    simp only [List.getElem?_map, List.getElem?_modify]
    by_cases same : index = other
    · cases session.buffers[other]? <;> simp [same]
    · cases session.buffers[other]? <;> simp [same]
  simp only [redacted, modifyBuffer, buffers]

namespace Blurred

variable {s t : Session × ω} (blurred : Blurred s t)

include blurred

theorem buffer (index : Nat) :
    (s.1.bufferAt index).redacted = (t.1.bufferAt index).redacted := by
  rw [← redacted_bufferAt, blurred.session, redacted_bufferAt]

theorem slot (id : Nat) : s.1.slot? id = t.1.slot? id :=
  congrArg (·.slot? id) blurred.session

theorem stores {buffer buffer' : Buffer} (same : buffer.redacted = buffer'.redacted)
    (index : Nat) :
    Blurred (s.1.modifyBuffer index fun _ => buffer, s.2)
      (t.1.modifyBuffer index fun _ => buffer', t.2) where
  session := by rw [redacted_modifyBuffer, redacted_modifyBuffer, blurred.session, same]
  world := blurred.world

theorem modifySlot (id : Nat) (change : Slot → Slot) :
    Blurred (s.1.modifySlot id change, s.2) (t.1.modifySlot id change, t.2) where
  session := congrArg (·.modifySlot id change) blurred.session
  world := blurred.world

end Blurred

/-- A source that does not go by the bytes of the buffers. What it does to them may show in their
sizes. -/
def BlindSource (source : Source (Session × ω)) : Prop :=
  ∀ slice, Action.Alike Blurred (source slice) (source slice)

def Blind : Call (Session × ω) → Prop
  | .copyIn source _ _ => BlindSource source
  | _ => True

section

variable [Memory] {call : Call (Session × ω)}

/-- A buffer that is not read gives away its size and no more. -/
theorem place_store_alike (index : Nat) :
    Store.Alike Blurred (fun use => use ≠ .reading) (place ω index).store
      (place ω index).store where
  size _ _ blurred := ⟨Buffer.size_alike (blurred.buffer index), blurred⟩
  read reading := absurd rfl reading
  write _ position payload s t blurred := by
    obtain ⟨answer, same⟩ := Buffer.write_alike (blurred.buffer index) position payload
    exact ⟨answer, blurred.stores same index⟩
  append _ payload s t blurred := by
    obtain ⟨answer, same⟩ := Buffer.append_alike (blurred.buffer index) payload
    exact ⟨answer, blurred.stores same index⟩
  truncate _ size s t blurred :=
    ⟨rfl, blurred.stores (Buffer.truncate_alike (blurred.buffer index) size) index⟩
  release s t blurred := blurred.stores (Buffer.release_alike (blurred.buffer index)) index

theorem place_call_alike (index : Nat) (blind : Blind call) :
    Call.Alike Blurred (fun use => use ≠ .reading) (place ω index).store (place ω index).store
      call call := by
  have stores := @place_store_alike ω _ index
  have sizes : ∀ s t, Blurred s t →
      ((place ω index).look s).size = ((place ω index).look t).size :=
    fun s t blurred => Buffer.size_alike (blurred.buffer index)
  cases call with
  | request plain => exact .request plain
  | copyOut position count sink => exact .copyOut position count fun reading => absurd rfl reading
  | copyIn source position count =>
    exact .copyIn position count
      (fun writing => Place.copyIn_alike sizes (stores.write writing) blind position count)
      fun appending => Place.copyInAtEnd_alike sizes (stores.append appending) blind count

/-- A call of a channel that cannot be read goes alike over two blurred sessions, its probe's
doings included. -/
theorem slot_perform_alike {slot : Slot} (unreadable : slot.channel.capabilities.read = false)
    (id : Nat) (blind : Blind call) {s t : Session × ω} (blurred : Blurred s t) :
    (slot.channel.perform (slot.store id) s call).Alike Blurred
      (slot.channel.perform (slot.store id) t call) := by
  have notes : ∀ (noted : StoreCall) (s t : Session × ω), Blurred s t →
      Blurred (note id noted s) (note id noted t) :=
    fun noted s t blurred => blurred.modifySlot id _
  apply Channel.perform_alike
    (((place_store_alike slot.buffer).replying slot.fixed).noting notes) blurred
    (((place_call_alike slot.buffer blind).replying slot.fixed).noting notes)
  rintro use found rfl
  rcases Channel.use?_cases found with ⟨_, readable⟩ | ⟨⟨⟩, _⟩ | ⟨⟨⟩, _⟩ | ⟨⟨⟩, _⟩
  cases unreadable.symm.trans readable

end

theorem settle_blurred {α : Type} {reply reply' : Reply (Session × ω) α}
    (alike : reply.Alike Blurred reply') (id : Nat) :
    Blurred (settle id reply) (settle id reply') := by
  have turned := alike.state.modifySlot id fun slot => { slot with channel := reply.channel }
  constructor
  · unfold settle
    rw [← alike.channel, ← alike.events]
    exact congrArg (·.record reply.events) turned.session
  · exact turned.world

theorem keepLock_blurred {s t : Session × ω} (blurred : Blurred s t) (id : Nat)
    (outcome : Outcome CallFailure Answer) :
    Blurred (s.1.keepLock id outcome, s.2) (t.1.keepLock id outcome, t.2) where
  session := by
    have kept (session : Session) :
        (session.keepLock id outcome).redacted = session.redacted.keepLock id outcome := by
      unfold keepLock
      split <;> rfl
    rw [kept, kept, blurred.session]
  world := blurred.world

structure Errand (ω : Type) where
  memory : Memory
  id : Nat
  call : Call (Session × ω)

structure Notice where
  result : Outcome CallFailure Answer
  slices : List Bytes
  events : List Event
deriving DecidableEq, Repr

def attend (s : Session × ω) (errand : Errand ω) : Option Notice × (Session × ω) :=
  match s.1.slot? errand.id with
  | none => (none, s)
  | some slot =>
    let reply := slot.channel.perform (@Slot.store ω errand.memory slot errand.id) s errand.call
    let next := settle errand.id reply
    (some ⟨reply.result, reply.slices, reply.events⟩,
      (next.1.keepLock errand.id reply.result, next.2))

theorem keepLock_number (session : Session) (id : Nat) (outcome : Outcome ChannelFailure Nat) :
    session.keepLock id ((outcome.map Answer.number).mapError CallFailure.channel) = session := by
  cases outcome <;> rfl

section

variable [Memory] {session : Session} {id : Nat} {slot : Slot}
  (found : session.slot? id = some slot)

include found

/-- To make a request of a channel is an errand without a peer. -/
theorem request_attends (request : Request) :
    let attended := attend (session, ()) ⟨inferInstance, id, .request request⟩
    ∃ notice, attended.1 = some notice ∧
      session.runChannel id slot (.request request) =
        ({ outcome := (notice.result.map (Answer.value session.locks.length)).mapError .call
           slices := request.slices?.map fun _ => notice.slices }, attended.2.1) := by
  simp only [attend, found]
  exact ⟨_, rfl, rfl⟩

/-- A transfer from a source that is at hand is an errand beside the source. -/
theorem copyIn_attends (source : SourcePeer) (position count : Nat)
    (atHand : source.isAtHand session (some id) = true) :
    let attended := attend (session, source)
      ⟨inferInstance, id, .copyIn SourcePeer.source position count⟩
    ∃ notice, attended.1 = some notice ∧
      session.runChannel id slot (.copyIn source position count) =
        (.transfer ((notice.result.map (Answer.value 0)).mapError .call)
          (attended.2.2.report attended.2.1), attended.2.1) := by
  simp only [attend, found, runChannel, atHand, if_true, Channel.perform, keepLock_number]
  exact ⟨_, rfl, rfl⟩

/-- A transfer into a sink that is at hand is an errand beside the sink. -/
theorem copyOut_attends (sink : SinkPeer) (position count : Nat)
    (atHand : sink.isAtHand session (some id) = true) :
    let attended := attend (session, sink)
      ⟨inferInstance, id, .copyOut position count SinkPeer.sink⟩
    ∃ notice, attended.1 = some notice ∧
      session.runChannel id slot (.copyOut position count sink) =
        (.transfer ((notice.result.map (Answer.value 0)).mapError .call)
          (attended.2.2.report attended.2.1), attended.2.1) := by
  simp only [attend, found, runChannel, atHand, if_true, Channel.perform, Reply.answering,
    keepLock_number]
  exact ⟨_, rfl, rfl⟩

end

def attendAll (s : Session × ω) : List (Errand ω) → List (Option Notice) × (Session × ω)
  | [] => ([], s)
  | errand :: errands =>
    let (notice, next) := attend s errand
    let (notices, last) := attendAll next errands
    (notice :: notices, last)

def Unreadable (s : Session × ω) : List (Errand ω) → Prop
  | [] => True
  | errand :: errands =>
    (∀ channel ∈ s.1.channel? errand.id, channel.capabilities.read = false) ∧
      Unreadable (attend s errand).2 errands

instance decidableUnreadable :
    (s : Session × ω) → (errands : List (Errand ω)) → Decidable (Unreadable s errands)
  | _, [] => .isTrue trivial
  | s, errand :: errands =>
    @instDecidableAnd _ _ inferInstance (decidableUnreadable (attend s errand).2 errands)

theorem Unreadable.take {early more : List (Errand ω)} {s : Session × ω}
    (unreadable : Unreadable s (early ++ more)) : Unreadable s early := by
  induction early generalizing s with
  | nil => trivial
  | cons errand early induction => exact ⟨unreadable.1, induction unreadable.2⟩

theorem attend_alike {errand : Errand ω} {s t : Session × ω} (blurred : Blurred s t)
    (unreadable : ∀ channel ∈ s.1.channel? errand.id, channel.capabilities.read = false)
    (blind : Blind errand.call) :
    (attend s errand).1 = (attend t errand).1 ∧
      Blurred (attend s errand).2 (attend t errand).2 := by
  cases found : s.1.slot? errand.id with
  | none =>
    have foundToo : t.1.slot? errand.id = none := (blurred.slot errand.id).symm.trans found
    simp only [attend, found, foundToo]
    exact ⟨trivial, blurred⟩
  | some slot =>
    have foundToo : t.1.slot? errand.id = some slot := (blurred.slot errand.id).symm.trans found
    have unread : slot.channel.capabilities.read = false := by
      apply unreadable
      rw [channel?, found]
      rfl
    have alike := @slot_perform_alike ω errand.memory errand.call slot unread errand.id blind s t
      blurred
    simp only [attend, found, foundToo]
    constructor
    · rw [alike.result, alike.slices, alike.events]
    · rw [alike.result]
      exact keepLock_blurred (settle_blurred alike errand.id) errand.id _

theorem attendAll_alike {errands : List (Errand ω)} {s t : Session × ω} (blurred : Blurred s t)
    (unreadable : Unreadable s errands) (blind : ∀ errand ∈ errands, Blind errand.call) :
    (attendAll s errands).1 = (attendAll t errands).1 ∧
      Blurred (attendAll s errands).2 (attendAll t errands).2 := by
  induction errands generalizing s t with
  | nil => exact ⟨rfl, blurred⟩
  | cons errand errands induction =>
    obtain ⟨first, others⟩ := List.forall_mem_cons.mp blind
    obtain ⟨notice, next⟩ := attend_alike blurred unreadable.1 first
    obtain ⟨notices, last⟩ := induction next unreadable.2 others
    simp only [attendAll, notice, notices]
    exact ⟨trivial, last⟩

theorem unreadable_give_nothing_away {errands : List (Errand ω)} {s t : Session × ω}
    (blurred : Blurred s t) (unreadable : Unreadable s errands)
    (blind : ∀ errand ∈ errands, Blind errand.call) :
    (attendAll s errands).1 = (attendAll t errands).1 ∧
      ∀ early, early <+: errands →
        let left := (attendAll s early).2
        let right := (attendAll t early).2
        left.2 = right.2 ∧ (∀ id, left.1.channel? id = right.1.channel? id) ∧
          ∀ index, (left.1.bufferAt index).size = (right.1.bufferAt index).size := by
  refine ⟨(attendAll_alike blurred unreadable blind).1, ?_⟩
  rintro early ⟨more, rfl⟩
  have after := (attendAll_alike blurred unreadable.take fun errand member =>
    blind errand (List.mem_append_left more member)).2
  refine ⟨after.world, ?_, ?_⟩
  · intro id
    rw [channel?, channel?, after.slot id]
  · intro index
    exact Buffer.size_alike (after.buffer index)

def delivers : Source (Session × Bytes) := fun slice s =>
  let moved := s.2.take slice.length
  (⟨.ok moved.length, moved⟩, s.1, s.2.drop slice.length)

def vault (bytes : Bytes) : Session × Bytes :=
  let slot (capabilities : Capabilities) : Slot :=
    { channel := .opened capabilities, handle := 0, buffer := 0 }
  ({ buffers := [{ bytes, limit := some 6, holders := 3 }]
     handles := [some 0]
     slots := [some (slot { write := true }), some (slot { append := true })] }, [7, 8, 9])

/-- Errands to both channels, one of which asks to read and one asks for more than fits. -/
def visits : List (Errand Bytes) :=
  [⟨.standard, 0, .request (.write [[5]])⟩, ⟨.standard, 0, .request (.readAt [0, 0] 0)⟩,
    ⟨.standard, 1, .copyIn delivers 0 2⟩, ⟨.standard, 0, .request (.writeAt [6, 6] 5)⟩,
    ⟨.standard, 1, .request (.seek (.ending 1))⟩, ⟨.standard, 0, .request .close⟩]

theorem vault_gives_nothing_away :
    let left := attendAll (vault [1, 2, 3]) visits
    let right := attendAll (vault [4, 4, 4]) visits
    left.1 = right.1 ∧ left.2.2 = right.2.2 ∧ (left.2.1.bufferAt 0).bytes = [5, 2, 3, 7, 8] ∧
      (right.2.1.bufferAt 0).bytes = [5, 4, 4, 7, 8] := by
  intro left right
  have blurred : Blurred (vault [1, 2, 3]) (vault [4, 4, 4]) := ⟨rfl, rfl⟩
  have blind : ∀ errand ∈ visits, Blind errand.call := by
    simp only [visits, List.forall_mem_cons, Blind, true_and]
    refine ⟨?_, List.forall_mem_nil _⟩
    rintro slice s t ⟨same, world⟩
    simp only [delivers, world]
    exact ⟨trivial, same, rfl⟩
  obtain ⟨notices, after⟩ := unreadable_give_nothing_away blurred (by decide +kernel) blind
  exact ⟨notices, (after visits List.prefix_rfl).1, by decide +kernel, by decide +kernel⟩

end Session

end SharedBytes
