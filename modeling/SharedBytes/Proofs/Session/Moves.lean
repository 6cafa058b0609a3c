import SharedBytes.Proofs.Channel.Dialogue
import SharedBytes.Proofs.Session.Slices

/-!
# Moves of appending channels

A move asks an appending channel of a session to do something, in one step of the session. It comes
to one of three things: the payload is added to the end of the buffer and the cursor stands after
it, or the call fails and leaves everything as it was, or nothing was to be stored.
-/

namespace SharedBytes

inductive Deed where
  | write (payload : List Bytes)
  | writeAt (payload : Bytes) (position : Nat)
  | copyIn (slice : Bytes) (position count : Nat)
  | setPosition (position : Nat)
  | seek (target : SeekTarget)
  | read (slices : List Bytes)
  | readAt (slice : Bytes) (position : Nat)
deriving DecidableEq, Repr

namespace Deed

def op : Deed → ChannelOp
  | write payload => .request (.write payload)
  | writeAt payload position => .request (.writeAt payload position)
  | copyIn slice position count => .copyIn (.slice slice) position count
  | setPosition position => .request (.setPosition position)
  | seek target => .request (.seek target)
  | read slices => .request (.read slices)
  | readAt slice position => .request (.readAt slice position)

def payload? : Deed → Option Bytes
  | write payload => some payload.flatten
  | writeAt payload _ => some payload
  | copyIn slice _ count => some (slice.take count)
  | _ => none

def isTransfer : Deed → Bool
  | copyIn .. => true
  | _ => false

end Deed

structure Move where
  memory : Memory
  id : Nat
  deed : Deed

namespace Session

def play (session : Session) (move : Move) : Report × Session :=
  @step move.memory session (.channel move.id move.deed.op)

def Appends (session : Session) (id index : Nat) : Prop :=
  ∃ channel, session.Bears id channel index ∧ channel.capabilities.isAppending = true

variable {session : Session} {id index : Nat} {channel : Channel}

inductive Effect (session : Session) (id index : Nat) (channel : Channel) (payload? : Option Bytes)
    (outcome : Outcome StepFailure Value) (next : Session) : Prop
  | stored {bytes : Bytes} (payload : payload? = some bytes)
      (answered : outcome = .ok (.number bytes.length))
      (turned : session.Turned id
        (channel.moveTo ((session.bufferAt index).size + bytes.length))
        (session.grown index bytes) next)
  | failed (payload : payload? ≠ none) (failed : ∀ value, outcome ≠ .ok value)
      (turned : session.Turned id channel session.buffers next)
  | idle (payload : payload? = none) (cursor : Nat)
      (turned : session.Turned id (channel.moveTo cursor) session.buffers next)

/-- The reply to a request, which is still to be put back into the session. -/
def replyTo [Memory] (session : Session) (id : Nat) (slot : Slot) (request : Request) :
    Reply (Session × Unit) (Outcome CallFailure Answer) :=
  slot.channel.perform (slot.store id) ({ session with log := [] }, ()) (.request request)

/-- A step with a request leaves of a session what the request leaves. -/
theorem step_request [Memory] {slot : Slot} (found : session.slot? id = some slot)
    (request : Request) {later : Channel} {buffers : List Buffer} :
    let reply := session.replyTo id slot request
    let stepped := session.step (.channel id (.request request))
    stepped.1.outcome = (reply.result.map (Answer.value session.locks.length)).mapError .call ∧
      (reply.channel = later → reply.state.1.buffers = buffers →
        (∀ other, reply.state.1.bareSlot? other = session.bareSlot? other) →
        session.Turned id later buffers stepped.2) := by
  have here : ({ session with log := [] } : Session).slot? id = some slot := found
  simp only [step, perform, here, runChannel]
  refine ⟨rfl, ?_⟩
  intro same stored bare
  have turned : session.Turned id later buffers (settle id _).1 := settle_turns same stored bare
  constructor
  · exact (keepLock_buffers _).trans turned.buffers_eq
  · intro other
    rw [bareSlot_forget, bareSlot_keepLock]
    exact turned.bareSlot_eq other

/-- A step with a transfer from a slice leaves of a session what the transfer leaves. -/
theorem step_slice [Memory] {slot : Slot} (found : session.slot? id = some slot)
    (slice : Bytes) (position count : Nat) {later : Channel} {buffers : List Buffer} :
    let reply := slot.channel.perform (slot.store id) ({ session with log := [] }, .slice slice)
      (.copyIn SourcePeer.source position count)
    let stepped := session.step (.channel id (.copyIn (.slice slice) position count))
    stepped.1.outcome = (reply.result.map (Answer.value 0)).mapError .call ∧
      (reply.channel = later → reply.state.1.buffers = buffers →
        (∀ other, reply.state.1.bareSlot? other = session.bareSlot? other) →
        session.Turned id later buffers stepped.2) := by
  have here : ({ session with log := [] } : Session).slot? id = some slot := found
  simp only [step, perform, here, runChannel, SourcePeer.isAtHand, if_true]
  refine ⟨rfl, ?_⟩
  intro same stored bare
  have turned : session.Turned id later buffers (settle id _).1 := settle_turns same stored bare
  constructor
  · exact turned.buffers_eq
  · intro other
    rw [bareSlot_forget]
    exact turned.bareSlot_eq other

/-- An append either adds its payload to the buffer or changes nothing. -/
theorem noted_append [Memory] (session : Session) (id index : Nat) (payload : List Bytes) :
    let answer := ((place Unit index).store.noting (note id)).append payload
      ({ session with log := [] }, ())
    (∀ other, answer.2.1.bareSlot? other = session.bareSlot? other) ∧
      ((answer.1 = .ok ⟨payload.flatten.length,
          (session.bufferAt index).size + payload.flatten.length⟩ ∧
          answer.2.1.buffers = session.grown index payload.flatten) ∨
        ∃ error, answer.1 = .error error ∧ answer.2.1.buffers = session.buffers) := by
  intro answer
  constructor
  · intro other
    exact bareSlot_note (.append (payload.map List.length)) ({ session with log := [] }, ())
  · have answered : answer.1 = ((session.bufferAt index).append payload).1 := rfl
    have buffers : answer.2.1.buffers =
        session.buffers.modify index fun _ => ((session.bufferAt index).append payload).2 := rfl
    rw [answered, buffers]
    rcases (session.bufferAt index).append_cases payload with ⟨_, appended⟩ | ⟨error, _, refused⟩
    · rw [appended]
      exact .inl ⟨rfl, rfl⟩
    · rw [refused]
      refine .inr ⟨error, rfl, ?_⟩
      simpa [grown] using session.grown_nil index

theorem append_effect [Memory] {slot : Slot} (found : session.slot? id = some slot)
    (unprobed : slot.fixed = {}) (request : Request) {payload : List Bytes}
    {reply : Reply (Session × Unit) (Except ChannelFailure Nat)}
    (served : session.replyTo id slot request = reply.answering .number)
    (passed : let answer := (slot.store id).append payload ({ session with log := [] }, ())
      reply.result = (answer.1.map (·.written)).mapError .store ∧
        reply.channel = slot.channel.answered answer.1 (·.size) ∧ reply.state = answer.2) :
    let stepped := session.step (.channel id (.request request))
    session.Effect id slot.buffer slot.channel (some payload.flatten) stepped.1.outcome
      stepped.2 := by
  intro stepped
  rw [store_eq unprobed] at passed
  obtain ⟨result, same, state⟩ := passed
  obtain ⟨bare, answered⟩ := noted_append session id slot.buffer payload
  rcases answered with ⟨accepted, buffers⟩ | ⟨error, refused, buffers⟩
  · rw [accepted] at result same
    obtain ⟨outcome, turned⟩ := step_request found request
    rw [served] at outcome turned
    apply Effect.stored rfl
    · rw [outcome, Reply.answering, result]
      rfl
    · exact turned same (state ▸ buffers) (state ▸ bare)
  · rw [refused] at result same
    obtain ⟨outcome, turned⟩ := step_request found request
    rw [served] at outcome turned
    apply Effect.failed (Option.some_ne_none _)
    · intro value succeeded
      rw [outcome, Reply.answering, result] at succeeded
      cases succeeded
    · exact turned same (state ▸ buffers) (state ▸ bare)

section

variable [Memory] {slot : Slot} (found : session.slot? id = some slot)

include found

theorem refused_effect (request : Request) {requirement : Requirement} {arguments : List Argument}
    {failure : ChannelFailure}
    (terms : (Call.request request : Call (Session × Unit)).terms? = some (requirement, arguments))
    (refused : slot.channel.refusal? requirement arguments = some failure)
    (payload? : Option Bytes) :
    let stepped := session.step (.channel id (.request request))
    session.Effect id slot.buffer slot.channel payload? stepped.1.outcome stepped.2 := by
  have unmoved := Channel.perform_refused (slot.store id) ({ session with log := [] }, ()) terms
    refused
  obtain ⟨outcome, turned⟩ := step_request found request
  rw [replyTo, unmoved] at outcome turned
  -- Nothing moves either way, but only a call that should store something counts as failed.
  cases payload? with
  | none => exact .idle rfl slot.channel.position (turned rfl rfl fun _ => rfl)
  | some bytes =>
    apply Effect.failed (Option.some_ne_none bytes) _ (turned rfl rfl fun _ => rfl)
    intro value succeeded
    rw [outcome] at succeeded
    cases succeeded

theorem write_effect (unprobed : slot.fixed = {})
    (appending : slot.channel.capabilities.isAppending = true) (payload : List Bytes) :
    let stepped := session.step (.channel id (.request (.write payload)))
    session.Effect id slot.buffer slot.channel (some payload.flatten) stepped.1.outcome
      stepped.2 := by
  cases refused : slot.channel.refusal? .writable [] with
  | none =>
    exact append_effect found unprobed (.write payload) rfl
      (Channel.write_appending (slot.store id) refused appending payload _)
  | some failure => exact refused_effect found (.write payload) rfl refused _

theorem writeAt_effect (unprobed : slot.fixed = {})
    (appending : slot.channel.capabilities.isAppending = true) (payload : Bytes) (position : Nat) :
    let stepped := session.step (.channel id (.request (.writeAt payload position)))
    session.Effect id slot.buffer slot.channel (some payload) stepped.1.outcome stepped.2 := by
  cases refused : slot.channel.refusal? .writable [("position", position)] with
  | none =>
    have effect := append_effect found unprobed (.writeAt payload position) rfl
      (Channel.writeAt_appending (slot.store id) refused appending payload _)
    rwa [List.flatten_singleton] at effect
  | some failure => exact refused_effect found (.writeAt payload position) rfl refused _

/-- A request that leaves the buffers alone: nothing stays of its call to the store but a note. -/
theorem idle_effect (request : Request) (cursor : Nat)
    (moved : (session.replyTo id slot request).channel = slot.channel.moveTo cursor)
    (kept : (session.replyTo id slot request).state = ({ session with log := [] }, ()) ∨
      ∃ call, (session.replyTo id slot request).state =
        note id call ({ session with log := [] }, ())) :
    let stepped := session.step (.channel id (.request request))
    session.Effect id slot.buffer slot.channel none stepped.1.outcome stepped.2 := by
  apply Effect.idle rfl cursor
  rcases kept with same | ⟨call, noted⟩
  · apply (step_request found request).2 moved
    · rw [same]
    · intro other
      rw [same]
      rfl
  · apply (step_request found request).2 moved
    · rw [noted]
      rfl
    · intro other
      rw [noted]
      exact bareSlot_note call ({ session with log := [] }, ())

theorem read_effect (unprobed : slot.fixed = {}) (slices : List Bytes) :
    let stepped := session.step (.channel id (.request (.read slices)))
    session.Effect id slot.buffer slot.channel none stepped.1.outcome stepped.2 := by
  cases refused : slot.channel.refusal? .readable [] with
  | none =>
    obtain ⟨_, _, moved, state⟩ := Channel.read_allowed (slot.store id) refused slices
      (({ session with log := [] } : Session), ())
    obtain ⟨cursor, moves⟩ := answered_moves slot.channel _ _
    refine idle_effect found (.read slices) cursor (moved.trans moves)
      (.inr ⟨.read slot.channel.position (slices.map List.length), state.trans ?_⟩)
    rw [store_eq unprobed]
    rfl
  | some failure => exact refused_effect found (.read slices) rfl refused none

theorem readAt_effect (unprobed : slot.fixed = {}) (slice : Bytes) (position : Nat) :
    let stepped := session.step (.channel id (.request (.readAt slice position)))
    session.Effect id slot.buffer slot.channel none stepped.1.outcome stepped.2 := by
  cases refused : slot.channel.refusal? .readable [("position", position)] with
  | none =>
    obtain ⟨_, _, same, state⟩ := Channel.readAt_allowed (slot.store id) refused slice
      (({ session with log := [] } : Session), ())
    refine idle_effect found (.readAt slice position) slot.channel.position same
      (.inr ⟨.read position [slice.length], state.trans ?_⟩)
    rw [store_eq unprobed]
    rfl
  | some failure => exact refused_effect found (.readAt slice position) rfl refused none

theorem setPosition_effect (position : Nat) :
    let stepped := session.step (.channel id (.request (.setPosition position)))
    session.Effect id slot.buffer slot.channel none stepped.1.outcome stepped.2 := by
  cases refused : slot.channel.refusal? .justOpen [("new_position", position)] with
  | none =>
    apply idle_effect found (.setPosition position) position
    · simp only [replyTo, Channel.perform, Channel.serve, Channel.setPosition, Channel.attempt,
        refused]
      rfl
    · exact .inl (Channel.setPosition_state slot.channel position _)
  | some failure => exact refused_effect found (.setPosition position) rfl refused none

omit found [Memory] in
theorem sought_moves (channel : Channel) (target : Int) :
    ∃ cursor, channel.sought target = channel.moveTo cursor := by
  rw [Channel.sought]
  by_cases inRange : 0 ≤ target ∧ target ≤ maxPosition
  · exact ⟨target.toNat, if_pos inRange⟩
  · exact ⟨channel.position, if_neg inRange⟩

theorem seek_effect (unprobed : slot.fixed = {}) (target : SeekTarget) :
    let stepped := session.step (.channel id (.request (.seek target)))
    session.Effect id slot.buffer slot.channel none stepped.1.outcome stepped.2 := by
  have same := @Channel.seek_channel _ (slot.store id) slot.channel
    (({ session with log := [] } : Session), ()) target
  have state := @Channel.seek_state _ (slot.store id) slot.channel
    (({ session with log := [] } : Session), ()) target
  cases isOpen : slot.channel.isOpen with
  | true =>
    rw [if_pos isOpen] at same state
    obtain ⟨cursor, moves⟩ := sought_moves slot.channel _
    apply idle_effect found (.seek target) cursor (same.trans moves)
    cases target with
    | start offset => exact .inl state
    | current delta => exact .inl state
    | ending delta =>
      refine .inr ⟨.size, state.trans ?_⟩
      rw [Channel.resolve, store_eq unprobed]
      rfl
  | false =>
    rw [if_neg (Bool.not_eq_true _ ▸ isOpen)] at same state
    exact idle_effect found (.seek target) slot.channel.position same (.inl state)

theorem slice_effect (unprobed : slot.fixed = {})
    (appending : slot.channel.capabilities.isAppending = true)
    (there : slot.buffer < session.buffers.length) (slice : Bytes) (position count : Nat)
    (done : ∃ value,
      (session.step (.channel id (.copyIn (.slice slice) position count))).1.outcome = .ok value) :
    let stepped := session.step (.channel id (.copyIn (.slice slice) position count))
    session.Effect id slot.buffer slot.channel (some (slice.take count)) stepped.1.outcome
      stepped.2 := by
  -- A transfer that fails may have stored some chunks already, so there is no case for it here.
  obtain ⟨value, done⟩ := done
  have step {later buffers} :=
    @step_slice session id _ slot found slice position count later buffers
  have outcome := (@step slot.channel []).1
  rw [outcome] at done
  cases result : (slot.channel.copyIn (slot.store id) SourcePeer.source position count
    ({ session with log := [] }, .slice slice)).result with
  | error _ | aborted =>
    rw [Channel.perform, result] at done
    cases done
  | ok written =>
    obtain ⟨whole, moved, buffers, bare⟩ := copyIn_slice unprobed appending there result
    apply Effect.stored rfl
    · rw [outcome, Channel.perform, result, whole]
      rfl
    · exact step.2 moved buffers bare

end

theorem play_effect {move : Move} (bears : session.Bears move.id channel index)
    (appending : channel.capabilities.isAppending = true) (there : index < session.buffers.length)
    (succeeds : move.deed.isTransfer = true → ∃ value, (session.play move).1.outcome = .ok value) :
    session.Effect move.id index channel move.deed.payload? (session.play move).1.outcome
      (session.play move).2 := by
  obtain ⟨memory, id, deed⟩ := move
  obtain ⟨slot, found, rfl, rfl, unprobed⟩ := bears
  cases deed with
  | write payload => exact write_effect found unprobed appending payload
  | writeAt payload position => exact writeAt_effect found unprobed appending payload position
  | copyIn slice position count =>
    exact slice_effect found unprobed appending there slice position count (succeeds rfl)
  | setPosition position => exact setPosition_effect found position
  | seek target => exact seek_effect found unprobed target
  | read slices => exact read_effect found unprobed slices
  | readAt slice position => exact readAt_effect found unprobed slice position

namespace Effect

variable {payload? : Option Bytes} {outcome : Outcome StepFailure Value} {next : Session}

theorem turns (effect : session.Effect id index channel payload? outcome next) :
    ∃ cursor buffers, session.Turned id (channel.moveTo cursor) buffers next ∧
      buffers.length = session.buffers.length := by
  cases effect with
  | stored _ _ turned => exact ⟨_, _, turned, List.length_modify _ _ _⟩
  | failed _ _ turned => exact ⟨channel.position, _, turned, rfl⟩
  | idle _ cursor turned => exact ⟨cursor, _, turned, rfl⟩

theorem appends (effect : session.Effect id index channel payload? outcome next)
    (bears : session.Bears id channel index) (appending : channel.capabilities.isAppending = true)
    {other : Nat} (before : session.Appends other index) : next.Appends other index := by
  obtain ⟨cursor, buffers, turned, _⟩ := effect.turns
  by_cases own : other = id
  · rw [own]
    exact ⟨channel.moveTo cursor, turned.bears bears, appending⟩
  · obtain ⟨same, held, appendingToo⟩ := before
    exact ⟨same, turned.bears_other own held, appendingToo⟩

theorem there (effect : session.Effect id index channel payload? outcome next)
    (before : index < session.buffers.length) : index < next.buffers.length := by
  obtain ⟨_, _, turned, same⟩ := effect.turns
  rwa [turned.buffers_eq, same]

end Effect

end Session

end SharedBytes
