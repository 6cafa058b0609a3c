import SharedBytes.Proofs.Channel.Kept
import SharedBytes.Proofs.Session.Channels

/-!
# Sessions that look the same

A view says what of a session is looked at: some of its buffers, with or without the number of their
holders, and some of its channels. Locks and records are not looked at, nor are the calls that were
noted. Two sessions that look the same give the same answers through the channels and buffers that
are looked at, and look the same afterwards.
-/

namespace SharedBytes

/-- Two buffers of one content and one limit and, if they are counted, as many holders. -/
structure Buffer.Alike (counted : Prop) (buffer other : Buffer) : Prop where
  bytes : buffer.bytes = other.bytes
  limit : buffer.limit = other.limit
  holders : counted → buffer.holders = other.holders

namespace Buffer.Alike

variable {counted : Prop} {buffer other : Buffer}

theorem refl (buffer : Buffer) : buffer.Alike counted buffer :=
  ⟨rfl, rfl, fun _ => rfl⟩

variable (alike : buffer.Alike counted other)

include alike

theorem symm : other.Alike counted buffer :=
  ⟨alike.bytes.symm, alike.limit.symm, fun count => (alike.holders count).symm⟩

theorem trans {third : Buffer} (next : other.Alike counted third) : buffer.Alike counted third :=
  ⟨alike.bytes.trans next.bytes, alike.limit.trans next.limit,
    fun count => (alike.holders count).trans (next.holders count)⟩

theorem eq (count : counted) : buffer = other := by
  obtain ⟨bytes, limit, holders⟩ := buffer
  obtain ⟨bytes', limit', holders'⟩ := other
  obtain ⟨rfl, rfl, same⟩ := alike
  cases same count
  rfl

theorem size : buffer.size = other.size :=
  congrArg List.length alike.bytes

theorem refusal [Memory] (stop : Nat) : buffer.refusal? stop = other.refusal? stop := by
  simp only [refusal?, alike.limit, alike.size]

theorem write [Memory] (position : Nat) (payload : List Bytes) :
    (buffer.write position payload).1 = (other.write position payload).1 ∧
      (buffer.write position payload).2.Alike counted (other.write position payload).2 := by
  simp only [Buffer.write, alike.size, alike.refusal]
  by_cases empty : payload.flatten = []
  · simp only [if_pos empty]
    exact ⟨trivial, alike⟩
  · simp only [if_neg empty]
    cases if position + payload.flatten.length ≤ other.size then none
      else other.refusal? (position + payload.flatten.length) with
    | some error => exact ⟨rfl, alike⟩
    | none =>
      refine ⟨rfl, ?_, alike.limit, alike.holders⟩
      simp only [alike.bytes]

theorem append [Memory] (payload : List Bytes) :
    (buffer.append payload).1 = (other.append payload).1 ∧
      (buffer.append payload).2.Alike counted (other.append payload).2 := by
  simp only [Buffer.append, alike.size, alike.refusal]
  cases other.refusal? (other.size + payload.flatten.length) with
  | some error => exact ⟨rfl, alike⟩
  | none =>
    refine ⟨rfl, ?_, alike.limit, alike.holders⟩
    simp only [alike.bytes]

theorem truncate (size : Nat) : (buffer.truncate size).Alike counted (other.truncate size) :=
  ⟨congrArg (·.take size) alike.bytes, alike.limit, alike.holders⟩

theorem release : buffer.release.Alike counted other.release :=
  ⟨alike.bytes, alike.limit, fun count => congrArg (· - 1) (alike.holders count)⟩

theorem hold : buffer.hold.Alike counted other.hold :=
  ⟨alike.bytes, alike.limit, fun count => congrArg (· + 1) (alike.holders count)⟩

end Buffer.Alike

def SinkPeer.channel? : SinkPeer → Option Nat
  | .channel id => some id
  | _ => none

def SourcePeer.channel? : SourcePeer → Option Nat
  | .channel id => some id
  | _ => none

namespace Session

variable {ω : Type} {s t : Session} {id index other : Nat}

theorem bufferAt_modifyBuffer (session : Session) (index other : Nat) (change : Buffer → Buffer) :
    (session.modifyBuffer index change).bufferAt other =
      if other = index ∧ other < session.buffers.length then change (session.bufferAt other)
      else session.bufferAt other := by
  simp only [bufferAt, modifyBuffer, List.getD_eq_getElem?_getD, List.getElem?_modify]
  by_cases same : index = other
  · subst same
    by_cases there : index < session.buffers.length
    · simp [there]
    · simp [there]
  · simp [same, Ne.symm same]

theorem buffers_eq (length : s.buffers.length = t.buffers.length)
    (same : ∀ index, s.bufferAt index = t.bufferAt index) : s.buffers = t.buffers := by
  apply List.ext_getElem length
  intro index there there'
  have equal := same index
  simp only [bufferAt, List.getD_eq_getElem?_getD, List.getElem?_eq_getElem there,
    List.getElem?_eq_getElem there', Option.getD_some] at equal
  exact equal

section

variable [Memory] {related : Session × ω → Session × ω → Prop} {used : Use → Prop} {slot : Slot}
  {call call' : Call (Session × ω)}
  (places : Place.Alike related used (place ω slot.buffer) (place ω slot.buffer))
  (notes : ∀ noted s t, related s t → related (note id noted s) (note id noted t))

include places notes

theorem slot_stores : Store.Alike related used (slot.store id) (slot.store id) :=
  (places.store.replying slot.fixed).noting notes

/-- A call goes alike in two states if the work on its buffer does, and what its peer does. -/
theorem slot_calls (peers : Call.PeersAlike related call call')
    (uses : ∀ use, slot.channel.use? call = some use → used use) {s t : Session × ω}
    (before : related s t) :
    (slot.channel.perform (slot.store id) s call).Alike related
      (slot.channel.perform (slot.store id) t call') :=
  Channel.perform_alike (slot_stores places notes) before
    (((places.calls peers).replying slot.fixed).noting notes) uses

end

structure View where
  counted : Prop
  buffers : Nat → Prop
  channels : Nat → Prop

namespace View

abbrev SeesSink (view : View) (sink : SinkPeer) : Prop :=
  ∀ id ∈ sink.channel?, view.channels id

abbrev SeesSource (view : View) (source : SourcePeer) : Prop :=
  ∀ id ∈ source.channel?, view.channels id

structure Same (view : View) (s t : Session) : Prop where
  handles : s.handles = t.handles
  buffers_length : s.buffers.length = t.buffers.length
  slots_length : s.slots.length = t.slots.length
  buffer : ∀ index, view.buffers index →
    (s.bufferAt index).Alike view.counted (t.bufferAt index)
  bareSlot : ∀ id, view.channels id → s.bareSlot? id = t.bareSlot? id

/-- Two sessions that look the same, in one world of which something is known. -/
structure Beside (view : View) (known : ω → Prop) (s t : Session × ω) : Prop where
  session : view.Same s.1 t.1
  world : s.2 = t.2
  known : known s.2

variable {view : View}

namespace Same

theorem refl (view : View) (session : Session) : view.Same session session :=
  ⟨rfl, rfl, rfl, fun _ _ => .refl _, fun _ _ => rfl⟩

variable (same : view.Same s t)

include same

theorem modifyBuffer (index : Nat) {change change' : Buffer → Buffer}
    (alike : view.buffers index → (change (s.bufferAt index)).Alike view.counted
      (change' (t.bufferAt index))) :
    view.Same (s.modifyBuffer index change) (t.modifyBuffer index change') where
  handles := same.handles
  buffers_length := by
    simp only [Session.modifyBuffer, List.length_modify, same.buffers_length]
  slots_length := same.slots_length
  buffer other seen := by
    rw [bufferAt_modifyBuffer, bufferAt_modifyBuffer, same.buffers_length]
    by_cases here : other = index ∧ other < t.buffers.length
    · rw [if_pos here, if_pos here, here.1]
      exact alike (here.1 ▸ seen)
    · rw [if_neg here, if_neg here]
      exact same.buffer other seen
  bareSlot := same.bareSlot

theorem modifySlot (id : Nat) (change change' : Slot → Slot)
    (bare : view.channels id →
      (s.modifySlot id change).bareSlot? id = (t.modifySlot id change').bareSlot? id) :
    view.Same (s.modifySlot id change) (t.modifySlot id change') where
  handles := same.handles
  buffers_length := same.buffers_length
  slots_length := by
    simp only [Session.modifySlot, List.length_modify, same.slots_length]
  buffer := same.buffer
  bareSlot other seen := by
    by_cases own : other = id
    · subst own
      exact bare seen
    · simp only [bareSlot?, slot_modifySlot, if_neg own]
      exact same.bareSlot other seen

/-- A channel that is looked at is there in both sessions, with what was noted aside. -/
theorem slot {slot : Slot} (seen : view.channels id) (found : s.slot? id = some slot) :
    ∃ calls, t.slot? id = some { slot with calls } := by
  have bare := same.bareSlot id seen
  unfold bareSlot? at bare
  rw [found] at bare
  cases there : t.slot? id with
  | none =>
    rw [there] at bare
    cases bare
  | some slot' =>
    rw [there] at bare
    refine ⟨slot'.calls, ?_⟩
    obtain ⟨channel, handle, buffer, fixed, traced, calls⟩ := slot
    obtain ⟨channel', handle', buffer', fixed', traced', calls'⟩ := slot'
    cases bare
    rfl

theorem noSlot (seen : view.channels id) (absent : s.slot? id = none) : t.slot? id = none := by
  have bare := same.bareSlot id seen
  unfold bareSlot? at bare
  rw [absent] at bare
  cases there : t.slot? id with
  | none => rfl
  | some slot =>
    rw [there] at bare
    cases bare

theorem symm : view.Same t s where
  handles := same.handles.symm
  buffers_length := same.buffers_length.symm
  slots_length := same.slots_length.symm
  buffer index seen := (same.buffer index seen).symm
  bareSlot id seen := (same.bareSlot id seen).symm

theorem trans {u : Session} (next : view.Same t u) : view.Same s u where
  handles := same.handles.trans next.handles
  buffers_length := same.buffers_length.trans next.buffers_length
  slots_length := same.slots_length.trans next.slots_length
  buffer index seen := (same.buffer index seen).trans (next.buffer index seen)
  bareSlot id seen := (same.bareSlot id seen).trans (next.bareSlot id seen)

theorem aside (locks locks' : List (Option HeldLock)) (log log' : List Event) :
    view.Same { s with locks, log } { t with locks := locks', log := log' } :=
  ⟨same.handles, same.buffers_length, same.slots_length, same.buffer, same.bareSlot⟩

end Same

theorem modifyBuffer_same (session : Session) (index : Nat) (change : Buffer → Buffer)
    (alike : view.buffers index →
      (session.bufferAt index).Alike view.counted (change (session.bufferAt index))) :
    view.Same session (session.modifyBuffer index change) where
  handles := rfl
  buffers_length := by simp only [modifyBuffer, List.length_modify]
  slots_length := rfl
  buffer other seen := by
    rw [bufferAt_modifyBuffer]
    by_cases here : other = index ∧ other < session.buffers.length
    · rw [if_pos here, here.1]
      exact alike (here.1 ▸ seen)
    · rw [if_neg here]
      exact .refl _
  bareSlot _ _ := rfl

theorem modifySlot_same (hidden : ¬ view.channels id) (session : Session)
    (change : Slot → Slot) : view.Same session (session.modifySlot id change) where
  handles := rfl
  buffers_length := rfl
  slots_length := by simp only [modifySlot, List.length_modify]
  buffer _ _ := .refl _
  bareSlot other seen := by
    have distinct : other ≠ id := fun own => hidden (own ▸ seen)
    simp only [bareSlot?, slot_modifySlot, if_neg distinct]

section

variable [Memory] {known : ω → Prop}

omit [Memory] in
theorem note_beside (id : Nat) (call : StoreCall) (s t : Session × ω)
    (before : view.Beside known s t) : view.Beside known (note id call s) (note id call t) where
  session := by
    refine before.session.modifySlot id _ _ ?_
    intro seen
    have noted (s : Session × ω) :
        (s.1.modifySlot id fun slot => { slot with calls := slot.calls ++ [call] }).bareSlot? id =
          s.1.bareSlot? id := bareSlot_note call s
    rw [noted, noted, before.session.bareSlot id seen]
  world := before.world
  known := before.known

theorem place_alike (seen : view.buffers index) :
    Place.Alike (view.Beside known) (fun _ => True) (place ω index) (place ω index) where
  content _ _ before := (before.session.buffer index seen).bytes
  write _ position payload s t before := by
    obtain ⟨answer, alike⟩ := (before.session.buffer index seen).write position payload
    exact ⟨answer, before.session.modifyBuffer index fun _ => alike, before.world, before.known⟩
  append _ payload s t before := by
    obtain ⟨answer, alike⟩ := (before.session.buffer index seen).append payload
    exact ⟨answer, before.session.modifyBuffer index fun _ => alike, before.world, before.known⟩
  truncate _ size s t before :=
    ⟨before.session.modifyBuffer index fun _ => (before.session.buffer index seen).truncate size,
      before.world, before.known⟩
  release s t before :=
    ⟨before.session.modifyBuffer index fun _ => (before.session.buffer index seen).release,
      before.world, before.known⟩

omit [Memory] in
theorem settle_beside {α : Type} {reply reply' : Reply (Session × ω) α}
    (alike : reply.Alike (view.Beside known) reply') (id : Nat) :
    view.Beside known (settle id reply) (settle id reply') where
  session := by
    have turned := alike.state.session.modifySlot id
      (fun slot => { slot with channel := reply.channel })
      (fun slot => { slot with channel := reply'.channel }) fun seen => by
        have turns := bareSlot_settle id id reply
        have turns' := bareSlot_settle id id reply'
        rw [if_pos rfl] at turns turns'
        rw [alike.state.session.bareSlot id seen, alike.channel, ← turns'] at turns
        exact turns
    exact turned.aside _ _ _ _
  world := alike.state.world
  known := alike.state.known

section

variable (same : view.Same s t)

include same

omit [Memory] in
theorem Same.handle (id : Nat) : s.handle? id = t.handle? id := by
  rw [handle?, handle?, same.handles]

theorem apply_same (edit : Edit) : view.Same (s.apply edit) (t.apply edit) := by
  cases found : t.handle? edit.handle with
  | none =>
    simp only [apply, same.handle, found]
    exact same
  | some index =>
    simp only [apply, same.handle, found]
    refine same.modifyBuffer index fun seen => ?_
    have alike := same.buffer index seen
    cases edit.truncate with
    | none => exact (alike.append [edit.append]).2
    | some size => exact ((alike.truncate size).append [edit.append]).2

theorem takeTurn_same (turn : Turn) : view.Same (s.takeTurn turn) (t.takeTurn turn) := by
  obtain ⟨edit, _, _, _⟩ := turn
  cases edit with
  | none => exact same
  | some edit => exact apply_same same edit

variable (whole : ∀ index, view.buffers index)

include whole

theorem writeStream_same (seen : view.channels id) (bytes : Bytes) :
    (s.writeStream id bytes).1 = (t.writeStream id bytes).1 ∧
      view.Same (s.writeStream id bytes).2 (t.writeStream id bytes).2 := by
  cases found : s.slot? id with
  | none =>
    simp only [writeStream, found, same.noSlot seen found]
    exact ⟨trivial, same⟩
  | some slot =>
    obtain ⟨calls, there⟩ := same.slot seen found
    have before : view.Beside (fun _ => True) (s, ()) (t, ()) := ⟨same, rfl, trivial⟩
    have alike : Reply.Alike _ (slot.channel.streamWrite _ bytes _) _ := Channel.streamWrite_alike
      (slot_stores (place_alike (whole slot.buffer)) (note_beside id)) before
      (fun _ _ => trivial) bytes
    simp only [writeStream, found, there]
    exact ⟨congrArg (·.mapError ChannelFailure.kind) alike.result, (settle_beside alike id).session⟩

theorem readStream_same (seen : view.channels id) (slice : Bytes) :
    (s.readStream id slice).1 = (t.readStream id slice).1 ∧
      view.Same (s.readStream id slice).2 (t.readStream id slice).2 := by
  cases found : s.slot? id with
  | none =>
    simp only [readStream, found, same.noSlot seen found]
    exact ⟨trivial, same⟩
  | some slot =>
    obtain ⟨calls, there⟩ := same.slot seen found
    have before : view.Beside (fun _ => True) (s, ()) (t, ()) := ⟨same, rfl, trivial⟩
    have alike : Reply.Alike _ (slot.channel.streamRead _ slice _) _ := Channel.streamRead_alike
      (slot_stores (place_alike (whole slot.buffer)) (note_beside id)) before
      (fun _ _ => trivial) slice
    simp only [readStream, found, there]
    refine ⟨?_, (settle_beside alike id).session⟩
    rw [alike.result, alike.slices]
    rfl

end

section

variable (whole : ∀ index, view.buffers index)

include whole

/-- A sink of the session goes alike if the channel it may be is looked at. -/
theorem sink_alike (offered : Bytes) :
    Action.Alike (view.Beside view.SeesSink) (SinkPeer.sink offered) (SinkPeer.sink offered) := by
  rintro ⟨s, peer⟩ ⟨t, _⟩ ⟨same, rfl, seen⟩
  cases peer with
  | collector taken => exact ⟨rfl, same, rfl, nofun⟩
  | region room taken =>
    simp only [SinkPeer.sink]
    by_cases full : offered ≠ [] ∧ room = 0
    · rw [if_pos full, if_pos full]
      exact ⟨rfl, same, rfl, nofun⟩
    · rw [if_neg full, if_neg full]
      exact ⟨rfl, same, rfl, nofun⟩
  | channel id =>
    obtain ⟨answer, after⟩ := writeStream_same same whole (seen id rfl) offered
    exact ⟨answer, after, rfl, seen⟩
  | scripted script taken =>
    have after := takeTurn_same same script.turn
    simp only [SinkPeer.sink]
    cases script.turn.failure with
    | some kind => exact ⟨rfl, after, rfl, nofun⟩
    | none => exact ⟨rfl, after, rfl, nofun⟩

theorem source_alike (slice : Bytes) :
    Action.Alike (view.Beside view.SeesSource) (SourcePeer.source slice)
      (SourcePeer.source slice) := by
  rintro ⟨s, peer⟩ ⟨t, _⟩ ⟨same, rfl, seen⟩
  cases peer with
  | slice left => exact ⟨rfl, same, rfl, nofun⟩
  | channel id =>
    obtain ⟨supply, after⟩ := readStream_same same whole (seen id rfl) slice
    exact ⟨supply, after, rfl, seen⟩
  | scripted script left =>
    have after := takeTurn_same same script.turn
    simp only [SourcePeer.source]
    cases script.turn.failure with
    | some kind => exact ⟨rfl, after, rfl, nofun⟩
    | none => exact ⟨rfl, after, rfl, nofun⟩

end

end

end View

def besides (id : Nat) : View where
  counted := False
  buffers _ := True
  channels other := other ≠ id

end Session

end SharedBytes
