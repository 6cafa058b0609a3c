import SharedBytes.Proofs.Channel.Calls
import SharedBytes.Session.Step

/-!
# The channels of a session

Of a session's channels everything counts but the calls that their probes have noted. A step through
one channel changes buffers and that channel, and no other.
-/

namespace SharedBytes

section

variable {α : Type} {xs : List α} {i : Nat} {change change' : α → α}

/-- It counts only what changes make of the one element that they are made to. -/
theorem modify_congr (same : ∀ x, xs[i]? = some x → change x = change' x) :
    xs.modify i change = xs.modify i change' := by
  apply List.ext_getElem?
  intro other
  rw [List.getElem?_modify, List.getElem?_modify]
  by_cases own : i = other
  · subst own
    cases there : xs[i]? with
    | none => rfl
    | some x => simp only [if_true, Option.map_eq_map, Option.map_some, same x there]
  · simp only [if_neg own]

theorem modify_idle (idle : ∀ x, xs[i]? = some x → change x = x) : xs.modify i change = xs :=
  (modify_congr idle).trans (List.modify_id i xs)

theorem modify_getD (xs : List α) (i : Nat) (other : α) (change : α → α) :
    (xs.modify i fun _ => change (xs.getD i other)) = xs.modify i change := by
  apply modify_congr
  intro x there
  rw [List.getD_eq_getElem?_getD, there]
  rfl

theorem getD_modify (there : i < xs.length) (other : α) :
    (xs.modify i change).getD i other = change (xs.getD i other) := by
  rw [List.getD_eq_getElem?_getD, List.getD_eq_getElem?_getD, List.getElem?_modify_eq,
    List.getElem?_eq_getElem there]
  rfl

end

theorem Buffer.read_slice (buffer : Buffer) (position : Nat) (slice : Bytes) :
    let chunk := (buffer.bytes.drop position).take slice.length
    (buffer.read position [slice]).1.getD 0 = chunk.length ∧
      (buffer.read position [slice]).2.flatten.take chunk.length = chunk := by
  obtain ⟨count, front, _⟩ := buffer.read_fills position [slice]
  rw [List.flatten_singleton] at count front
  have length : ((buffer.bytes.drop position).take slice.length).length =
      (buffer.read position [slice]).1.getD 0 := by
    rw [count, List.length_take, List.length_drop, size]
  exact ⟨length.symm, length ▸ front⟩

namespace Session

variable {session s : Session} {id other index : Nat}

/-- A channel with its store, without the calls that were noted. -/
def bareSlot? (session : Session) (id : Nat) : Option Slot :=
  (session.slot? id).map fun slot => { slot with calls := [] }

def channel? (session : Session) (id : Nat) : Option Channel :=
  (session.slot? id).map (·.channel)

/-- The channel of this number works on the buffer `index`, with no probe that replies for it. -/
def Bears (session : Session) (id : Nat) (channel : Channel) (index : Nat) : Prop :=
  ∃ slot, session.slot? id = some slot ∧ slot.channel = channel ∧ slot.buffer = index ∧
    slot.fixed = {}

theorem modify_bufferAt (session : Session) (index : Nat) (change : Buffer → Buffer) :
    (session.buffers.modify index fun _ => change (session.bufferAt index)) =
      session.buffers.modify index change :=
  modify_getD session.buffers index {} change

theorem modify_bufferAt_self (session : Session) (index : Nat) :
    (session.buffers.modify index fun _ => session.bufferAt index) = session.buffers :=
  (modify_bufferAt session index fun buffer => buffer).trans (List.modify_id _ _)

theorem there_of_content (content : 0 < (session.bufferAt index).size) :
    index < session.buffers.length := by
  apply Nat.lt_of_not_le
  intro absent
  rw [bufferAt, List.getD_eq_getElem?_getD, List.getElem?_eq_none absent] at content
  cases content

theorem channel_eq_bare (session : Session) (id : Nat) :
    session.channel? id = (session.bareSlot? id).map (·.channel) := by
  unfold channel? bareSlot?
  rw [Option.map_map]
  rfl

theorem bears_iff_bare (session : Session) (id : Nat) (channel : Channel) (index : Nat) :
    session.Bears id channel index ↔
      ∃ slot, session.bareSlot? id = some slot ∧ slot.channel = channel ∧ slot.buffer = index ∧
        slot.fixed = {} := by
  unfold Bears bareSlot?
  cases session.slot? id with
  | none => simp
  | some slot => simp

theorem Bears.channel_eq {channel : Channel} (bears : session.Bears id channel index) :
    session.channel? id = some channel := by
  obtain ⟨slot, found, same, _⟩ := bears
  rw [channel?, found, ← same]
  rfl

theorem Bears.present {channel : Channel} (bears : session.Bears id channel index) :
    (session.slot? id).isSome = true := by
  obtain ⟨slot, found, _⟩ := bears
  rw [found]
  rfl

theorem slot_modifySlot (change : Slot → Slot) :
    (session.modifySlot id change).slot? other =
      if other = id then (session.slot? id).map change else session.slot? other := by
  simp only [slot?, modifySlot, List.getElem?_modify]
  by_cases same : other = id
  · subst same
    cases session.slots[other]? <;> simp
  · rw [if_neg same]
    cases session.slots[other]? <;> simp [Ne.symm same]

theorem slot_getElem {slot : Slot} (found : session.slot? id = some slot) :
    session.slots[id]? = some (some slot) := by
  rw [slot?, Option.join_eq_some_iff] at found
  exact found

theorem modifySlot_found {slot : Slot} (found : session.slot? id = some slot)
    (change : Slot → Slot) :
    session.modifySlot id change =
      { session with slots := session.slots.set id (some (change slot)) } := by
  rw [modifySlot, List.modify_eq_set, slot_getElem found]
  rfl

theorem modifySlot_absent (absent : session.slot? id = none) (change : Slot → Slot) :
    session.modifySlot id change = session := by
  have slots : session.slots.modify id (·.map change) = session.slots := by
    refine modify_idle fun kept there => ?_
    rw [slot?, there, Option.join_some] at absent
    rw [absent]
    rfl
  rw [modifySlot, slots]

theorem modifySlot_idle {slot : Slot} (found : session.slot? id = some slot)
    {change : Slot → Slot} (idle : change slot = slot) :
    session.modifySlot id change = session := by
  have slots : session.slots.modify id (·.map change) = session.slots := by
    refine modify_idle fun kept there => ?_
    obtain rfl := Option.some.inj (there.symm.trans (slot_getElem found))
    rw [Option.map_some, idle]
  rw [modifySlot, slots]

/-- What a call through one channel leaves of a session: these buffers, the channel in this state,
and every other channel as it was. -/
structure Turned (session : Session) (id : Nat) (channel : Channel) (buffers : List Buffer)
    (s : Session) : Prop where
  buffers_eq : s.buffers = buffers
  bareSlot_eq : ∀ other, s.bareSlot? other =
    if other = id then (session.bareSlot? id).map fun slot => { slot with channel }
    else session.bareSlot? other

namespace Turned

variable {channel later : Channel} {buffers grown : List Buffer} {next : Session}

theorem of_bare (bears : session.Bears id channel index) (stored : s.buffers = buffers)
    (bare : ∀ other, s.bareSlot? other = session.bareSlot? other) :
    session.Turned id channel buffers s where
  buffers_eq := stored
  bareSlot_eq other := by
    obtain ⟨slot, found, same, _⟩ := (session.bears_iff_bare id channel index).mp bears
    rw [bare]
    by_cases own : other = id
    · rw [if_pos own, own, found, ← same]
      rfl
    · rw [if_neg own]

theorem trans (first : session.Turned id channel buffers s)
    (second : s.Turned id later grown next) : session.Turned id later grown next where
  buffers_eq := second.buffers_eq
  bareSlot_eq other := by
    rw [second.bareSlot_eq, first.bareSlot_eq id, if_pos rfl, Option.map_map]
    by_cases own : other = id
    · rw [if_pos own, if_pos own]
      rfl
    · rw [if_neg own, if_neg own, first.bareSlot_eq other, if_neg own]

theorem bears {before : Channel} (turned : session.Turned id channel buffers s)
    (held : session.Bears id before index) : s.Bears id channel index := by
  obtain ⟨slot, found, _, buffer, unprobed⟩ := (session.bears_iff_bare id before index).mp held
  rw [bears_iff_bare, turned.bareSlot_eq, if_pos rfl, found]
  exact ⟨_, rfl, rfl, buffer, unprobed⟩

theorem bears_other {before : Channel} (turned : session.Turned id channel buffers s)
    (distinct : other ≠ id) (held : session.Bears other before index) :
    s.Bears other before index := by
  rw [bears_iff_bare, turned.bareSlot_eq, if_neg distinct, ← bears_iff_bare]
  exact held

theorem channel_other (turned : session.Turned id channel buffers s) (distinct : other ≠ id) :
    s.channel? other = session.channel? other := by
  rw [channel_eq_bare, turned.bareSlot_eq, if_neg distinct, ← channel_eq_bare]

end Turned

def note {π : Type} (id : Nat) (call : StoreCall) (s : Session × π) : Session × π :=
  (s.1.modifySlot id fun slot => { slot with calls := slot.calls ++ [call] }, s.2)

theorem bareSlot_note {π : Type} (call : StoreCall) (s : Session × π) :
    (note id call s).1.bareSlot? other = s.1.bareSlot? other := by
  unfold note bareSlot?
  rw [slot_modifySlot]
  by_cases own : other = id
  · rw [if_pos own, own]
    cases s.1.slot? id <;> rfl
  · rw [if_neg own]

theorem store_eq [Memory] {π : Type} {slot : Slot} (unprobed : slot.fixed = {}) (id : Nat) :
    (slot.store id : Store (Session × π)) = (place π slot.buffer).store.noting (note id) := by
  unfold Slot.store
  rw [unprobed]
  rfl

theorem bareSlot_settle {π α : Type} (id other : Nat) (reply : Reply (Session × π) α) :
    (settle id reply).1.bareSlot? other =
      if other = id then (reply.state.1.bareSlot? id).map fun slot =>
        { slot with channel := reply.channel }
      else reply.state.1.bareSlot? other := by
  change (reply.state.1.modifySlot id _).bareSlot? other = _
  unfold bareSlot?
  rw [slot_modifySlot]
  by_cases own : other = id
  · rw [if_pos own, if_pos own]
    cases reply.state.1.slot? id <;> rfl
  · rw [if_neg own, if_neg own]

theorem settle_turns {π α : Type} {reply : Reply (Session × π) α} {later : Channel}
    {buffers : List Buffer} (moved : reply.channel = later)
    (stored : reply.state.1.buffers = buffers)
    (bare : ∀ other, reply.state.1.bareSlot? other = session.bareSlot? other) :
    session.Turned id later buffers (settle id reply).1 where
  buffers_eq := stored
  bareSlot_eq other := by rw [bareSlot_settle, moved, bare id, bare other]

/-- A call that leaves all as it is, its channel included, leaves no more behind than a record. -/
theorem settle_unmoved {π α : Type} {slot : Slot} (found : session.slot? id = some slot)
    {reply : Reply (Session × π) α} {world : π} (channel : reply.channel = slot.channel)
    (state : reply.state = (session, world)) :
    settle id reply = (session.record reply.events, world) := by
  simp only [settle, state, channel]
  rw [modifySlot_idle found rfl]

theorem bareSlot_forget (other : Nat) :
    (session.modifySlot id fun slot => { slot with calls := [] }).bareSlot? other =
      session.bareSlot? other := by
  unfold bareSlot?
  rw [slot_modifySlot]
  by_cases own : other = id
  · rw [if_pos own, own]
    cases session.slot? id <;> rfl
  · rw [if_neg own]

theorem keepLock_buffers (outcome : Outcome CallFailure Answer) :
    (session.keepLock id outcome).buffers = session.buffers := by
  unfold keepLock
  split <;> rfl

theorem bareSlot_keepLock (outcome : Outcome CallFailure Answer) (other : Nat) :
    (session.keepLock id outcome).bareSlot? other = session.bareSlot? other := by
  unfold keepLock
  split <;> rfl

/-- The call of another channel, which stays as it is, turns no more than its peer does. -/
theorem Turned.settled {π α : Type} {channel later : Channel} {buffers : List Buffer}
    {reply : Reply (Session × π) α} (turned : session.Turned id later buffers reply.state.1)
    (distinct : other ≠ id) (bears : session.Bears other channel index)
    (same : reply.channel = channel) :
    session.Turned id later buffers (settle other reply).1 where
  buffers_eq := turned.buffers_eq
  bareSlot_eq third := by
    rw [bareSlot_settle, same]
    by_cases own : third = other
    · obtain ⟨slot, found, rfl, _⟩ := (session.bears_iff_bare other channel index).mp bears
      rw [if_pos own, own, turned.bareSlot_eq, if_neg distinct, found]
      rfl
    · rw [if_neg own, turned.bareSlot_eq]

theorem number_reported (answer : Except ChannelFailure Nat) (nextLock : Nat) :
    ((((Outcome.ofExcept answer).map Answer.number).mapError CallFailure.channel).map
        (Answer.value nextLock)).mapError StepFailure.call =
      ((Outcome.ofExcept answer).map Value.number).mapError fun failure =>
        .call (.channel failure) := by
  cases answer <;> rfl

theorem kind_store {α : Type} (answer : Except StoreFailure α) :
    (answer.mapError ChannelFailure.store).mapError ChannelFailure.kind =
      answer.mapError StoreFailure.kind := by
  cases answer <;> rfl

theorem answered_moves {α ε : Type} (channel : Channel) (answer : Except ε α) (position : α → Nat) :
    ∃ cursor, channel.answered answer position = channel.moveTo cursor := by
  cases answer with
  | ok value => exact ⟨position value, rfl⟩
  | error _ => exact ⟨channel.position, rfl⟩

section

variable [Memory] {channel : Channel}

def deposit (appending : Bool) (index position : Nat) (bytes : Bytes) (buffers : List Buffer) :
    Except StoreFailure Nat × List Buffer :=
  let buffer := buffers.getD index {}
  let answer :=
    if appending then ((buffer.append [bytes]).1.map (·.written), (buffer.append [bytes]).2)
    else buffer.write position [bytes]
  (answer.1, buffers.modify index fun _ => answer.2)

theorem writeStream_turns (bears : s.Bears id channel index)
    (allowed : channel.refusal? .writable [] = none) (bytes : Bytes) :
    let answer := deposit channel.capabilities.isAppending index channel.position bytes s.buffers
    (s.writeStream id bytes).1 = answer.1.mapError StoreFailure.kind ∧
      s.Turned id (channel.moveTo (channel.landing (s.bufferAt index).size answer.1)) answer.2
        (s.writeStream id bytes).2 := by
  obtain ⟨slot, found, rfl, rfl, unprobed⟩ := bears
  simp only [writeStream, found, Channel.streamWrite, store_eq unprobed]
  have bare (call : StoreCall) (buffer : Buffer) (other : Nat) :
      ((note id call (s, ())).1.modifyBuffer slot.buffer fun _ => buffer).bareSlot? other =
        s.bareSlot? other :=
    bareSlot_note call (s, ())
  cases mode : slot.channel.capabilities.isAppending with
  | true =>
    obtain ⟨result, moved, state⟩ := Channel.write_appending
      ((place Unit slot.buffer).store.noting (note id)) allowed mode [bytes] (s, ())
    have lands := Channel.append_lands mode (s.bufferAt slot.buffer) [bytes]
    have turned : s.Turned id _ _ _ := settle_turns (moved.trans lands)
      (congrArg (·.1.buffers) state) fun other => by rw [state]; exact bare _ _ other
    refine ⟨?_, turned⟩
    rw [result, kind_store]
    rfl
  | false =>
    obtain ⟨result, moved, state⟩ := Channel.write_positional
      ((place Unit slot.buffer).store.noting (note id)) allowed mode [bytes] (s, ())
    have lands := Channel.write_lands mode (s.bufferAt slot.buffer).size
      ((s.bufferAt slot.buffer).write slot.channel.position [bytes]).1
    have turned : s.Turned id _ _ _ := settle_turns (moved.trans lands)
      (congrArg (·.1.buffers) state) fun other => by rw [state]; exact bare _ _ other
    refine ⟨?_, turned⟩
    rw [result, kind_store]
    rfl

theorem readStream_turns (bears : s.Bears id channel index)
    (allowed : channel.refusal? .readable [] = none) (slice : Bytes) :
    let chunk := ((s.bufferAt index).bytes.drop channel.position).take slice.length
    let supply := (s.readStream id slice).1
    supply.report = .ok chunk.length ∧ supply.bytes.take chunk.length = chunk ∧
      s.Turned id (channel.moveTo (channel.position + chunk.length)) s.buffers
        (s.readStream id slice).2 := by
  obtain ⟨slot, found, rfl, rfl, unprobed⟩ := bears
  simp only [readStream, found, Channel.streamRead, store_eq unprobed]
  obtain ⟨result, slices, moved, state⟩ := Channel.read_allowed
    ((place Unit slot.buffer).store.noting (note id)) allowed [slice] (s, ())
  obtain ⟨count, front⟩ := (s.bufferAt slot.buffer).read_slice slot.channel.position slice
  refine ⟨?_, ?_, ?_⟩
  · rw [result, ← count]
    rfl
  · rw [slices]
    exact front
  · rw [← count]
    exact settle_turns moved (congrArg (·.1.buffers) state)
      fun other => by rw [state]; exact bareSlot_note _ (s, ())

end

end Session

end SharedBytes
