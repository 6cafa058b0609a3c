import SharedBytes.Proofs.Session.Channels
import SharedBytes.Proofs.Transfer.Relay

/-!
# Copies from channel to channel

One channel of a session copies into another, as its sink, or out of another, as its source. Either
way the buffers end as after one and the same relay, which knows neither cursors nor sessions. The
two channels may work on one buffer.
-/

namespace SharedBytes.Session

open Transfer

variable [Memory] {session : Session} {a b i j p q count : Nat} {reader writer : Channel}

def copy (appending : Bool) (i j p q count : Nat) (buffers : List Buffer) :
    Except StoreFailure Nat × List Buffer :=
  relay (fun buffers => (buffers.getD i {}).bytes)
    (fun moved bytes => deposit appending j (q + moved) bytes) p count 0 buffers

theorem refusal_capacity {buffer : Buffer} {stop : Nat} {error : StoreFailure}
    (refused : buffer.refusal? stop = some error) :
    ∃ limit requested, error = .capacityExceeded limit requested := by
  unfold Buffer.refusal? at refused
  split at refused
  · exact ⟨_, _, (Option.some.inj refused).symm⟩
  · cases refused

/-- What is stored is stored whole, and what is refused does not fit. -/
theorem deposit_cases (appending : Bool) (index position : Nat) {bytes : Bytes}
    (nonempty : bytes ≠ []) (buffers : List Buffer) :
    (deposit appending index position bytes buffers).1 = .ok bytes.length ∨
      ∃ limit requested, (deposit appending index position bytes buffers).1 =
        .error (.capacityExceeded limit requested) := by
  cases appending with
  | true =>
    simp only [deposit, if_true]
    rcases (buffers.getD index {}).append_cases [bytes] with ⟨_, stored⟩ | ⟨error, refused, failed⟩
    · rw [stored, List.flatten_singleton]
      exact .inl rfl
    · obtain ⟨limit, requested, rfl⟩ := refusal_capacity refused
      rw [failed]
      exact .inr ⟨limit, requested, rfl⟩
  | false =>
    simp only [deposit, Bool.false_eq_true, if_false]
    rcases (buffers.getD index {}).write_cases position [bytes] with
      ⟨empty, _⟩ | ⟨_, _, stored⟩ | ⟨_, _, error, refused, failed⟩
    · rw [List.flatten_singleton] at empty
      exact absurd empty nonempty
    · rw [stored, List.flatten_singleton]
      exact .inl rfl
    · obtain ⟨limit, requested, rfl⟩ := refusal_capacity refused
      rw [failed]
      exact .inr ⟨limit, requested, rfl⟩

theorem copy_cases (appending : Bool) (i j p q count : Nat) (buffers : List Buffer) :
    (∃ n, (copy appending i j p q count buffers).1 = .ok n) ∨
      ∃ limit requested, (copy appending i j p q count buffers).1 =
        .error (.capacityExceeded limit requested) := by
  cases ended : (copy appending i j p q count buffers).1 with
  | ok n => exact .inl ⟨n, rfl⟩
  | error failure =>
    obtain ⟨offset, chunk, before, nonempty, failed⟩ := relay_error _ _ _ _ _ _ ended
    rcases deposit_cases appending j (q + offset) nonempty before with
      stored | ⟨limit, requested, refused⟩
    · rw [failed] at stored
      cases stored
    · rw [failed] at refused
      cases refused
      exact .inr ⟨limit, requested, rfl⟩

/-- How far a copy into the channel `b` has come: it has changed buffers and that channel alone. -/
def Writing (session : Session) (b q : Nat) (writer : Channel) (moved : Nat)
    (s : Session × SinkPeer) (buffers : List Buffer) : Prop :=
  s.2 = .channel b ∧ ∃ cursor, session.Turned b (writer.moveTo cursor) buffers s.1 ∧
    (writer.capabilities.isAppending = false → cursor = q + moved)

def Reading (session : Session) (a p : Nat) (reader : Channel) (given : Nat)
    (s : Session × SourcePeer) (buffers : List Buffer) : Prop :=
  s.2 = .channel a ∧ session.Turned a (reader.moveTo (p + given)) buffers s.1

theorem Writing.write {moved : Nat} {s : Session × SinkPeer} {buffers : List Buffer}
    (writing : session.Writing b q writer moved s buffers) (bears : session.Bears b writer j)
    (allowed : writer.refusal? .writable [] = none) (chunk : Bytes) :
    let answer := deposit writer.capabilities.isAppending j (q + moved) chunk buffers
    ∃ next, SinkPeer.sink chunk s = (answer.1.mapError StoreFailure.kind, next) ∧
      session.Writing b q writer (moved + answer.1.toOption.getD 0) next answer.2 := by
  obtain ⟨present, peer⟩ := s
  obtain ⟨rfl, cursor, turned, positional⟩ := writing
  obtain ⟨answered, turns⟩ := writeStream_turns (turned.bears bears) allowed chunk
  have same : deposit writer.capabilities.isAppending j cursor chunk present.buffers =
      deposit writer.capabilities.isAppending j (q + moved) chunk buffers := by
    rw [turned.buffers_eq]
    cases mode : writer.capabilities.isAppending with
    | true => rfl
    | false => rw [positional mode]
  simp only [Channel.moveTo_capabilities, Channel.moveTo_position, Channel.moveTo_moveTo]
    at answered turns
  rw [same] at answered turns
  refine ⟨(_, .channel b), Prod.ext answered rfl, rfl, _, turned.trans turns, ?_⟩
  intro mode
  have lands := (writer.moveTo cursor).landing_positional mode
  rw [lands, Channel.moveTo_position, positional mode, Nat.add_assoc]

/-- A channel that answers each chunk as the deposit does is a sink for the relay. -/
theorem pushes_of_writes {appending : Bool}
    {related : Nat → Session × SinkPeer → List Buffer → Prop}
    (looks : ∀ {moved s buffers}, related moved s buffers → s.1.buffers = buffers)
    (write : ∀ {moved s buffers chunk}, related moved s buffers → chunk ≠ [] →
      let answer := deposit appending j (q + moved) chunk buffers
      ∃ next, SinkPeer.sink chunk s = (answer.1.mapError StoreFailure.kind, next) ∧
        related (moved + answer.1.toOption.getD 0) next answer.2) :
    Pushes (place SinkPeer i) SinkPeer.sink (fun buffers => (buffers.getD i {}).bytes)
      (fun moved bytes => deposit appending j (q + moved) bytes) related where
  looks := by
    intro moved s buffers before
    rw [← looks before]
    rfl
  taken := by
    intro moved s buffers chunk answer after before nonempty stored
    obtain ⟨next, answered, kept⟩ := write before nonempty
    rcases deposit_cases appending j (q + moved) nonempty buffers with
      whole | ⟨limit, requested, refused⟩
    · rw [whole] at answered kept
      rw [stored] at whole kept
      cases whole
      exact ⟨next, answered, kept⟩
    · rw [stored] at refused
      cases refused
  refused := by
    intro moved s buffers chunk error after before nonempty refused
    obtain ⟨next, answered, kept⟩ := write before nonempty
    rw [refused] at answered kept
    exact ⟨next, answered, kept⟩

theorem channel_sink_pushes (bears : session.Bears b writer j)
    (allowed : writer.refusal? .writable [] = none) :
    Pushes (place SinkPeer i) SinkPeer.sink (fun buffers => (buffers.getD i {}).bytes)
      (fun moved bytes => deposit writer.capabilities.isAppending j (q + moved) bytes)
      (session.Writing b q writer) := by
  apply pushes_of_writes
  · intro moved s buffers writing
    obtain ⟨_, _, turned, _⟩ := writing
    exact turned.buffers_eq
  · intro moved s buffers chunk writing _
    exact writing.write bears allowed chunk

def Deposits {ν : Type} (appending : Bool) (j q : Nat) (written : ν → Nat)
    (store : Nat → Bytes → Action (Session × SourcePeer) (Except StoreFailure ν)) : Prop :=
  ∀ moved bytes s, (store moved bytes s).1.map written =
      (deposit appending j (q + moved) bytes s.1.buffers).1 ∧
    (store moved bytes s).2 =
      ({ s.1 with buffers := (deposit appending j (q + moved) bytes s.1.buffers).2 }, s.2)

theorem write_deposits (j q : Nat) :
    Deposits false j q id
      (fun moved bytes => (place SourcePeer j).write (q + moved) [bytes]) := by
  intro moved bytes s
  refine ⟨?_, rfl⟩
  change (((s.1.bufferAt j).write (q + moved) [bytes]).1).map id = _
  cases answered : ((s.1.bufferAt j).write (q + moved) [bytes]).1 <;> exact answered.symm

theorem append_deposits (j q : Nat) :
    Deposits true j q Receipt.written (fun _ bytes => (place SourcePeer j).append [bytes]) := by
  intro moved bytes s
  exact ⟨rfl, rfl⟩

omit [Memory] in
theorem Reading.grown {given : Nat} {s : Session × SourcePeer} {buffers : List Buffer}
    (reading : session.Reading a p reader given s buffers) (after : List Buffer) :
    session.Reading a p reader given ({ s.1 with buffers := after }, s.2) after :=
  ⟨reading.1, rfl, reading.2.bareSlot_eq⟩

theorem channel_source_pulls {ν : Type} {appending : Bool} {written : ν → Nat}
    {store : Nat → Bytes → Action (Session × SourcePeer) (Except StoreFailure ν)}
    (deposits : Deposits appending j q written store) (bears : session.Bears a reader i)
    (allowed : reader.refusal? .readable [] = none) :
    Pulls SourcePeer.source store (fun buffers => (buffers.getD i {}).bytes)
      (fun moved bytes => deposit appending j (q + moved) bytes) p
      (session.Reading a p reader) where
  given := by
    intro moved s buffers slice reading
    obtain ⟨present, peer⟩ := s
    obtain ⟨rfl, turned⟩ := reading
    obtain ⟨report, front, turns⟩ := readStream_turns (turned.bears bears) allowed slice
    rw [bufferAt, turned.buffers_eq] at report front turns
    have moving := turned.trans turns
    refine ⟨_, ((present.readStream a slice).2, .channel a), ?_, front, rfl, ?_⟩
    · exact congrArg (fun report => (Supply.mk report _, _)) report
    · rw [← Nat.add_assoc]
      exact moving
  stored := by
    intro moved given s buffers chunk answer after reading _ stored
    obtain ⟨agrees, leaves⟩ := deposits moved chunk s
    rw [reading.2.buffers_eq, stored] at agrees leaves
    have related : session.Reading a p reader given (store moved chunk s).2 after := by
      rw [leaves]
      exact reading.grown after
    rcases answered : store moved chunk s with ⟨error | receipt, next⟩
    · rw [answered] at agrees
      cases agrees
    · rw [answered] at related
      exact ⟨receipt, next, rfl, related⟩
  refused := by
    intro moved given s buffers chunk error after reading _ refused
    obtain ⟨agrees, leaves⟩ := deposits moved chunk s
    rw [reading.2.buffers_eq, refused] at agrees leaves
    have related : session.Reading a p reader given (store moved chunk s).2 after := by
      rw [leaves]
      exact reading.grown after
    rcases answered : store moved chunk s with ⟨error | receipt, next⟩
    · rw [answered] at agrees related
      cases agrees
      exact ⟨next, rfl, related⟩
    · rw [answered] at agrees
      cases agrees

theorem copyOut_performs (distinct : a ≠ b) (bearsSource : session.Bears a reader i)
    (bearsTarget : session.Bears b writer j)
    (allowed : reader.refusal? .readable [("position", p), ("count", count)] = none) :
    let out := session.perform (.channel a (.copyOut p count (.channel b)))
    let run := (place SinkPeer i).copyOut p count SinkPeer.sink
      (note a (.copyOut p count) (session, .channel b))
    out.1.outcome = ((Outcome.ofExcept (run.1.mapError ChannelFailure.store)).map
        Value.number).mapError (fun failure => .call (.channel failure)) ∧
      ∀ later buffers, session.Turned b later buffers run.2.1 →
        session.Turned b later buffers out.2 := by
  have held := bearsSource
  obtain ⟨slot, found, rfl, rfl, unprobed⟩ := held
  have atHand : (SinkPeer.channel b).isAtHand session (some a) = true := by
    simp [SinkPeer.isAtHand, bearsTarget.present, distinct]
  simp only [perform, found, runChannel, atHand, if_true, Channel.perform, store_eq unprobed]
  obtain ⟨result, same, state⟩ := Channel.copyOut_allowed
    ((place SinkPeer slot.buffer).store.noting (note a)) allowed SinkPeer.sink
    (session, .channel b)
  constructor
  · simp only [StepResult.transfer, Reply.answering, result]
    exact number_reported _ 0
  · intro later buffers turned
    refine Turned.settled ?_ distinct bearsSource same
    rw [Reply.answering, state]
    exact turned

/-- A copy into a channel, followed in any relation in which that channel does what the deposits of
the relay do. -/
theorem copyOut_relays {appending : Bool} {related : Nat → Session × SinkPeer → List Buffer → Prop}
    (distinct : a ≠ b) (bearsSource : session.Bears a reader i)
    (bearsTarget : session.Bears b writer j)
    (allowed : reader.refusal? .readable [("position", p), ("count", count)] = none)
    (pushes : Pushes (place SinkPeer i) SinkPeer.sink (fun buffers => (buffers.getD i {}).bytes)
      (fun moved bytes => deposit appending j (q + moved) bytes) related)
    (before : related 0 (note a (.copyOut p count) (session, .channel b)) session.buffers) :
    let out := session.perform (.channel a (.copyOut p count (.channel b)))
    let copied := copy appending i j p q count session.buffers
    out.1.outcome = ((Outcome.ofExcept
      (copied.1.mapError fun error => StoreFailure.sink error.kind)).map Value.number).mapError
        (fun error => .call (.channel (.store error))) ∧
      ∃ moved s, related moved s copied.2 ∧ (∀ n, copied.1 = .ok n → moved = n) ∧
        ∀ later, session.Turned b later copied.2 s.1 → session.Turned b later copied.2 out.2 := by
  obtain ⟨outcome, turns⟩ := copyOut_performs distinct bearsSource bearsTarget allowed
  obtain ⟨ended, moved, kept, whole⟩ := drain_relay pushes p count 0 _ session.buffers before
  constructor
  · have passed : ((place SinkPeer i).copyOut p count SinkPeer.sink _).1 = _ := ended
    rw [outcome, passed, copy]
    cases (relay _ _ p count 0 session.buffers).1 <;> rfl
  · exact ⟨moved, _, kept, whole, fun later => turns later _⟩

theorem copyOut_copies (distinct : a ≠ b) (bearsSource : session.Bears a reader i)
    (bearsTarget : session.Bears b writer j)
    (allowed : reader.refusal? .readable [("position", p), ("count", count)] = none)
    (writable : writer.refusal? .writable [] = none)
    (placed : writer.capabilities.isAppending = false → writer.position = q) :
    let out := session.perform (.channel a (.copyOut p count (.channel b)))
    let copied := copy writer.capabilities.isAppending i j p q count session.buffers
    out.1.outcome = ((Outcome.ofExcept
      (copied.1.mapError fun error => StoreFailure.sink error.kind)).map Value.number).mapError
        (fun error => .call (.channel (.store error))) ∧
      ∃ cursor, session.Turned b (writer.moveTo cursor) copied.2 out.2 ∧
        (writer.capabilities.isAppending = false → ∀ n, copied.1 = .ok n → cursor = q + n) := by
  have before : session.Writing b q writer 0
      (note a (.copyOut p count) (session, .channel b)) session.buffers :=
    ⟨rfl, writer.position, .of_bare bearsTarget rfl (fun _ => bareSlot_note _ _), placed⟩
  obtain ⟨ended, moved, s, ⟨_, cursor, turned, positional⟩, whole, turns⟩ := copyOut_relays distinct
    bearsSource bearsTarget allowed (channel_sink_pushes bearsTarget writable) before
  refine ⟨ended, cursor, turns _ turned, ?_⟩
  intro mode n reached
  rw [positional mode, whole n reached]

theorem copyIn_relays (q count : Nat) {s : Session × SourcePeer}
    (bears : session.Bears a reader i)
    (readable : reader.refusal? .readable [] = none)
    (within : q ≤ (s.1.bufferAt j).size)
    (before : session.Reading a p reader 0 s session.buffers) :
    let run := (place SourcePeer j).copyIn SourcePeer.source q count s
    let copied := copy false i j p q count session.buffers
    run.1 = Outcome.ofExcept copied.1 ∧ Reached (session.Reading a p reader) copied run.2 := by
  rw [Place.copyIn_within (place SourcePeer j) SourcePeer.source count within]
  exact pump_relay (channel_source_pulls (write_deposits j q) bears readable) count s _ before

theorem copyInAtEnd_relays (q count : Nat) {s : Session × SourcePeer}
    (bears : session.Bears a reader i)
    (readable : reader.refusal? .readable [] = none)
    (before : session.Reading a p reader 0 s session.buffers) :
    let run := (place SourcePeer j).copyInAtEnd SourcePeer.source count s
    let copied := copy true i j p q count session.buffers
    run.1.map (·.written) = Outcome.ofExcept copied.1 ∧
      Reached (session.Reading a p reader) copied run.2 := by
  obtain ⟨written, state⟩ := (place SourcePeer j).copyInAtEnd_pumps SourcePeer.source count s
  simp only [written, state]
  exact pump_relay (channel_source_pulls (append_deposits j q) bears readable) count s _ before

theorem copyIn_copies (distinct : a ≠ b) (bearsSource : session.Bears a reader i)
    (bearsTarget : session.Bears b writer j)
    (readable : reader.refusal? .readable [] = none)
    (allowed : writer.refusal? .writable [("position", q), ("count", count)] = none)
    (within : writer.capabilities.isAppending = false → q ≤ (session.bufferAt j).size)
    (placed : reader.position = p) :
    let into := session.perform (.channel b (.copyIn (.channel a) q count))
    let copied := copy writer.capabilities.isAppending i j p q count session.buffers
    into.1.outcome = ((Outcome.ofExcept copied.1).map Value.number).mapError
        (fun error => .call (.channel (.store error))) ∧
      into.2.buffers = copied.2 ∧
      (writer.capabilities.isAppending = false → ∀ n, copied.1 = .ok n →
        session.Turned a (reader.moveTo (p + n)) copied.2 into.2) := by
  have held := bearsTarget
  obtain ⟨slot, found, rfl, rfl, unprobed⟩ := held
  have atHand : (SourcePeer.channel a).isAtHand session (some b) = true := by
    simp [SourcePeer.isAtHand, bearsSource.present, Ne.symm distinct]
  have before (call : StoreCall) : session.Reading a p reader 0
      (note b call (session, .channel a)) session.buffers := by
    rw [← placed]
    exact ⟨rfl, .of_bare bearsSource rfl fun _ => bareSlot_note _ _⟩
  simp only [perform, found, runChannel, atHand, if_true, Channel.perform, store_eq unprobed]
  cases mode : slot.channel.capabilities.isAppending with
  | true =>
    obtain ⟨result, _, state⟩ := Channel.copyIn_appending
      ((place SourcePeer slot.buffer).store.noting (note b)) allowed mode SourcePeer.source
      (session, .channel a)
    obtain ⟨ended, given, ⟨_, turned⟩, _⟩ := copyInAtEnd_relays q count bearsSource readable
      (before (.copyInAtEnd count))
    refine ⟨?_, (congrArg (·.1.buffers) state).trans turned.buffers_eq, nofun⟩
    have answered := result.trans (congrArg (Outcome.mapError ChannelFailure.store) ended)
    simp only [StepResult.transfer, answered]
    cases (copy true i slot.buffer p q count session.buffers).1 <;> rfl
  | false =>
    obtain ⟨result, same, state⟩ := Channel.copyIn_positional
      ((place SourcePeer slot.buffer).store.noting (note b)) allowed mode SourcePeer.source
      (session, .channel a)
    obtain ⟨ended, given, ⟨_, turned⟩, whole⟩ := copyIn_relays q count bearsSource readable
      (within mode) (before (.copyIn q count))
    refine ⟨?_, (congrArg (·.1.buffers) state).trans turned.buffers_eq, ?_⟩
    · have answered := result.trans (congrArg (Outcome.mapError ChannelFailure.store) ended)
      simp only [StepResult.transfer, answered]
      cases (copy false i slot.buffer p q count session.buffers).1 <;> rfl
    · intro _ n reached
      rw [← whole n reached]
      refine Turned.settled ?_ (Ne.symm distinct) bearsTarget same
      rw [state]
      exact turned

end SharedBytes.Session
