import Mathlib.Data.List.Basic
import SharedBytes.Proofs.Channel.Kept
import SharedBytes.Proofs.Session.Locks

/-!
# Who records a release

That a lock was released is recorded by the lock alone. No call of a channel records it, whatever
its store and its peer do, and no operation on a buffer. When a lock is released or done away with,
one record is made if it was valid until then, and none if it was not.
-/

namespace SharedBytes

def Event.released? : Event → Option RangeLock
  | .released lock => some lock
  | _ => none

/-- What goes on record when a lock is released or done away with: nothing, if it was released
before. -/
def HeldLock.record? (held : HeldLock) : Option RangeLock :=
  if held.lock.valid then some held.lock.release else none

def releasesIn (log : List Event) : List RangeLock :=
  log.filterMap Event.released?

theorem releasesIn_append (log more : List Event) :
    releasesIn (log ++ more) = releasesIn log ++ releasesIn more :=
  List.filterMap_append

namespace Channel

variable {σ α : Type} {channel : Channel} (store : Store σ) (s : σ)

theorem attempt_silent {requirement : Requirement} {arguments : List Argument}
    {slices : List Bytes} {refused : ChannelFailure → α} {call : σ → Reply σ α}
    (silent : releasesIn (call s).events = []) :
    releasesIn (channel.attempt requirement arguments slices s refused call).events = [] := by
  unfold attempt
  cases channel.refusal? requirement arguments with
  | some failure => rfl
  | none => exact silent

theorem read_silent (slices : List Bytes) :
    releasesIn (channel.read store slices s).events = [] := by
  apply attempt_silent
  rcases store.read channel.position slices s with ⟨⟨error | count, slices⟩, next⟩ <;> rfl

theorem readAt_silent (slice : Bytes) (position : Nat) :
    releasesIn (channel.readAt store slice position s).events = [] := by
  apply attempt_silent
  rcases store.read position [slice] s with ⟨⟨error | count, slices⟩, next⟩ <;> rfl

theorem write_silent (payload : List Bytes) :
    releasesIn (channel.write store payload s).events = [] := by
  apply attempt_silent
  cases channel.capabilities.isAppending with
  | true => rcases store.append payload s with ⟨error | appended, next⟩ <;> rfl
  | false => rcases store.write channel.position payload s with ⟨error | written, next⟩ <;> rfl

theorem writeAt_silent (payload : Bytes) (position : Nat) :
    releasesIn (channel.writeAt store payload position s).events = [] := by
  apply attempt_silent
  cases channel.capabilities.isAppending with
  | true => rcases store.append [payload] s with ⟨error | appended, next⟩ <;> rfl
  | false => rcases store.write position [payload] s with ⟨error | written, next⟩ <;> rfl

theorem seek_silent (target : SeekTarget) :
    releasesIn (channel.seek store target s).events = [] := by
  apply attempt_silent
  by_cases inRange : 0 ≤ (channel.resolve store target s).1 ∧
      (channel.resolve store target s).1 ≤ maxPosition
  · simp only [if_pos inRange]
    rfl
  · simp only [if_neg inRange]
    rfl

theorem truncate_silent (size : Nat) :
    releasesIn (channel.truncate store size s).events = [] := by
  apply attempt_silent
  rcases store.truncate size s with ⟨error | done, next⟩ <;> rfl

theorem copyOut_silent (position count : Nat) (sink : Sink σ) :
    releasesIn (channel.copyOut store position count sink s).events = [] := by
  apply attempt_silent
  rcases store.copyOut position count sink s with ⟨error | moved, next⟩ <;> rfl

theorem copyIn_silent (source : Source σ) (position count : Nat) :
    releasesIn (channel.copyIn store source position count s).events = [] := by
  apply attempt_silent
  cases channel.capabilities.isAppending with
  | true => rcases store.copyInAtEnd source count s with ⟨appended | error | _, next⟩ <;> rfl
  | false => rfl

theorem cursor_silent : releasesIn (channel.cursor s).events = [] := by
  apply attempt_silent
  rfl

theorem size_silent : releasesIn (channel.size store s).events = [] := by
  apply attempt_silent
  rfl

theorem setPosition_silent (position : Nat) :
    releasesIn (channel.setPosition position s).events = [] := by
  apply attempt_silent
  rfl

theorem flush_silent (metadata : Bool) : releasesIn (channel.flush metadata s).events = [] := by
  apply attempt_silent
  rfl

theorem lock_silent (position size : Nat) (shared : Bool) :
    releasesIn (channel.lock position size shared s).events = [] := by
  apply attempt_silent
  rfl

theorem close_silent : releasesIn (channel.close store s).events = [] := by
  unfold close
  cases channel.isOpen <;> rfl

theorem drop_silent : releasesIn (channel.drop store s).events = [] := by
  unfold drop
  cases channel.isOpen <;> rfl

theorem fill_silent (channel : Channel) (filled rest : Bytes) (events : List Event) (s : σ)
    (before : releasesIn events = []) :
    releasesIn (channel.fill store filled rest events s).events = [] := by
  have reads (channel : Channel) (rest : Bytes) (s : σ) (events : List Event)
      (before : releasesIn events = []) :
      releasesIn (events ++ (channel.streamRead store rest s).events) = [] := by
    rw [releasesIn_append, before]
    exact read_silent store s [rest]
  induction channel, filled, rest, events, s using fill.induct store with
  | case1 channel filled events s =>
    rw [fill]
    exact before
  | case2 channel filled rest events s unfilled reply error failed =>
    rw [fill]
    simpa [unfilled, reply, failed] using reads channel rest s events before
  | case3 channel filled rest events s unfilled reply ended =>
    rw [fill]
    simpa [unfilled, reply, ended] using reads channel rest s events before
  | case4 channel filled rest events s unfilled reply n reported tooMany =>
    rw [fill]
    simpa [unfilled, reply, reported, tooMany] using reads channel rest s events before
  | case5 channel filled rest events s unfilled reply slice n reported fits induction =>
    have after := induction (reads channel rest s events before)
    rw [fill]
    simpa [unfilled, reply, slice, reported, fits] using after

theorem spill_silent (channel : Channel) (bytes : Bytes) (events : List Event) (s : σ)
    (before : releasesIn events = []) :
    releasesIn (channel.spill store bytes events s).events = [] := by
  have writes (channel : Channel) (bytes : Bytes) (s : σ) (events : List Event)
      (before : releasesIn events = []) :
      releasesIn (events ++ (channel.streamWrite store bytes s).events) = [] := by
    rw [releasesIn_append, before]
    exact write_silent store s [bytes]
  induction channel, bytes, events, s using spill.induct store with
  | case1 channel events s =>
    rw [spill]
    exact before
  | case2 channel bytes events s nonempty reply error failed =>
    rw [spill]
    simpa [nonempty, reply, failed] using writes channel bytes s events before
  | case3 channel bytes events s nonempty reply none =>
    rw [spill]
    simpa [nonempty, reply, none] using writes channel bytes s events before
  | case4 channel bytes events s nonempty reply n reported tooMany =>
    rw [spill]
    simpa [nonempty, reply, reported, tooMany] using writes channel bytes s events before
  | case5 channel bytes events s nonempty reply n reported fits induction =>
    have after := induction (writes channel bytes s events before)
    rw [spill]
    simpa [nonempty, reply, reported, fits] using after

theorem serve_silent (channel : Channel) (request : Request) :
    releasesIn (channel.serve store s request).events = [] := by
  cases request with
  | read slices => exact read_silent store s slices
  | readAt slice position => exact readAt_silent store s slice position
  | write payload => exact write_silent store s payload
  | writeAt payload position => exact writeAt_silent store s payload position
  | cursor => exact cursor_silent s
  | size => exact size_silent store s
  | setPosition position => exact setPosition_silent s position
  | seek target => exact seek_silent store s target
  | truncate size => exact truncate_silent store s size
  | flush metadata => exact flush_silent s metadata
  | map mode position size => rfl
  | lock position size shared => exact lock_silent s position size shared
  | tryLock position size shared => exact lock_silent s position size shared
  | close => exact close_silent store s
  | streamRead slice => exact read_silent store s [slice]
  | readExact slice => exact fill_silent store channel [] slice [] s rfl
  | streamWrite bytes => exact write_silent store s [bytes]
  | writeAll bytes => exact spill_silent store channel bytes [] s rfl
  | streamFlush => exact flush_silent s false
  | streamSeek target => exact seek_silent store s target
  | rewind => exact seek_silent store s (.start 0)
  | streamPosition => exact seek_silent store s (.current 0)

/-- No call of a channel records a release. -/
theorem perform_silent (channel : Channel) (call : Call σ) :
    releasesIn (channel.perform store s call).events = [] := by
  cases call with
  | request request => exact serve_silent store s channel request
  | copyOut position count sink => exact copyOut_silent store s position count sink
  | copyIn source position count => exact copyIn_silent store s source position count

end Channel

namespace Session

variable {ω : Type} {s : Session} {id index : Nat} {slot : Slot} {released : List RangeLock}

def OnRecord (released : List RangeLock) (s : Session × ω) : Prop :=
  releasesIn s.1.log = released

theorem settle_silent {α : Type} {reply : Reply (Session × ω) α}
    (silent : releasesIn reply.events = []) (before : OnRecord released reply.state) :
    OnRecord released (settle id reply) := by
  change releasesIn (reply.state.1.log ++ reply.events) = released
  rw [releasesIn_append, silent, List.append_nil]
  exact before

section

variable [Memory]

theorem place_silent (index : Nat) :
    (place ω index).KeepsIn (fun _ => True) (OnRecord released) where
  write _ _ _ _ before := before
  append _ _ _ before := before
  truncate _ _ _ before := before
  release _ before := before

/-- A call is as silent as its peer. -/
theorem call_silent {call : Call (Session × ω)} (peer : call.Keeps (OnRecord released))
    (world : ω) (before : releasesIn s.log = released) :
    OnRecord released
      (settle id (slot.channel.perform (slot.store id) (s, world) call)) := by
  have notes (noted : StoreCall) (s : Session × ω) (before : OnRecord released s) :
      OnRecord released (note id noted s) := before
  apply settle_silent (Channel.perform_silent (slot.store id) (s, world) slot.channel call)
  exact slot.channel.probed_keeps (Place.store_keepsIn (place_silent slot.buffer)) notes
    slot.fixed peer (fun _ _ => trivial) (s, world) before

theorem writeStream_silent (bytes : Bytes) (before : releasesIn s.log = released) :
    releasesIn (s.writeStream id bytes).2.log = released := by
  cases found : s.slot? id with
  | none =>
    simp only [writeStream, found]
    exact before
  | some slot =>
    have peer : (.request (.streamWrite bytes) : Call (Session × Unit)).Keeps
        (OnRecord released) := trivial
    simp only [writeStream, found]
    exact call_silent peer () before

theorem readStream_silent (slice : Bytes) (before : releasesIn s.log = released) :
    releasesIn (s.readStream id slice).2.log = released := by
  cases found : s.slot? id with
  | none =>
    simp only [readStream, found]
    exact before
  | some slot =>
    have peer : (.request (.streamRead slice) : Call (Session × Unit)).Keeps
        (OnRecord released) := trivial
    simp only [readStream, found]
    exact call_silent peer () before

theorem takeTurn_log (s : Session) (turn : Turn) : (s.takeTurn turn).log = s.log := by
  obtain ⟨edit, _, _, _⟩ := turn
  cases edit with
  | none => rfl
  | some edit =>
    change (s.apply edit).log = s.log
    unfold apply
    cases s.handle? edit.handle <;> rfl

theorem sink_silent : Sink.Keeps (OnRecord released) SinkPeer.sink := by
  rintro offered ⟨session, peer⟩ before
  cases peer with
  | collector taken => exact before
  | region room taken =>
    simp only [SinkPeer.sink]
    by_cases full : offered ≠ [] ∧ room = 0
    · rw [if_pos full]
      exact before
    · rw [if_neg full]
      exact before
  | channel id => exact writeStream_silent offered before
  | scripted script taken =>
    have after : releasesIn (session.takeTurn script.turn).log = released := by
      rw [takeTurn_log]
      exact before
    simp only [SinkPeer.sink]
    cases script.turn.failure with
    | some kind => exact after
    | none => exact after

theorem source_silent : Source.Keeps (OnRecord released) SourcePeer.source := by
  rintro slice ⟨session, peer⟩ before
  cases peer with
  | slice left => exact before
  | channel id => exact readStream_silent slice before
  | scripted script left =>
    have after : releasesIn (session.takeTurn script.turn).log = released := by
      rw [takeTurn_log]
      exact before
    simp only [SourcePeer.source]
    cases script.turn.failure with
    | some kind => exact after
    | none => exact after

theorem runBuffer_silent (s : Session) (handle index : Nat) (op : BufferOp) :
    releasesIn (s.runBuffer handle index op).2.log = releasesIn s.log := by
  cases op with
  | copyOut position count sink =>
    have after := (Place.store_keepsIn (place_silent index)).copyOut trivial position count
      SinkPeer.sink sink_silent (s, sink) rfl
    simp only [runBuffer]
    cases sink.isAtHand s none with
    | false => rfl
    | true => exact after
  | copyIn source position count =>
    have after := (Place.store_keepsIn (place_silent index)).copyIn trivial SourcePeer.source
      position count source_silent (s, source) rfl
    simp only [runBuffer]
    cases source.isAtHand s none with
    | false => rfl
    | true => exact after
  | copyInAtEnd source count =>
    have after := (Place.store_keepsIn (place_silent index)).copyInAtEnd trivial SourcePeer.source
      count source_silent (s, source) rfl
    simp only [runBuffer]
    cases source.isAtHand s none with
    | false => rfl
    | true => exact after
  | _ => rfl

/-- Unless a channel is done away with, nothing that is done to it records a release. -/
theorem runChannel_silent (s : Session) (id : Nat) (slot : Slot) {op : ChannelOp}
    (stays : op ≠ .drop) :
    releasesIn (s.runChannel id slot op).2.log = releasesIn s.log := by
  cases op with
  | drop => exact absurd rfl stays
  | request request =>
    have peer : (.request request : Call (Session × Unit)).Keeps
        (OnRecord (releasesIn s.log)) := trivial
    simp only [runChannel]
    rw [keepLock_eq]
    exact @call_silent _ s id slot _ _ _ peer () rfl
  | copyOut position count sink =>
    have after := @call_silent _ s id slot _ _ (.copyOut position count SinkPeer.sink) sink_silent
      sink rfl
    simp only [runChannel]
    cases sink.isAtHand s (some id) with
    | false => rfl
    | true => exact after
  | copyIn source position count =>
    have after := @call_silent _ s id slot _ _ (.copyIn SourcePeer.source position count)
      source_silent source rfl
    simp only [runChannel]
    cases source.isAtHand s (some id) with
    | false => rfl
    | true => exact after
  | _ => rfl

end

theorem releaseLock_records (s : Session) (id : Nat) :
    releasesIn (s.releaseLock id).log =
      releasesIn s.log ++ ((s.lock? id).bind HeldLock.record?).toList := by
  cases found : s.lock? id with
  | none =>
    simp only [releaseLock, found]
    exact (List.append_nil _).symm
  | some held =>
    simp only [releaseLock, found, Option.bind_some, HeldLock.record?]
    cases held.lock.valid with
    | true => exact releasesIn_append ..
    | false => exact (List.append_nil _).symm

theorem dropLock_records (s : Session) (id : Nat) :
    releasesIn (s.dropLock id).log =
      releasesIn s.log ++ ((s.lock? id).bind HeldLock.record?).toList :=
  releaseLock_records s id

/-- What is done to one lock at a time: what becomes of the lock, and what that puts on record. -/
structure Settles (work : Session → Nat → Session)
    (change : Option HeldLock → Option HeldLock)
    (told : Option HeldLock → Option RangeLock) : Prop where
  locks : ∀ s id, (work s id).locks = s.locks.modify id change
  records : ∀ s id,
    releasesIn (work s id).log = releasesIn s.log ++ (told (s.lock? id)).toList

theorem dropLock_settles :
    Settles dropLock LockOp.drop.effect (·.bind HeldLock.record?) where
  locks := dropLock_locks
  records := dropLock_records

theorem sweep_settles (channel : Nat) :
    Settles (sweep channel) (Option.filter (·.channel != channel))
      (fun held => (held.filter (·.channel == channel)).bind HeldLock.record?) where
  locks s id := sweep_locks s channel id
  records s id := by
    by_cases granted : (s.lock? id).any (·.channel == channel) = true
    · rw [sweep, if_pos granted, dropLock_records]
      cases found : s.lock? id with
      | none => rfl
      | some held =>
        have own : held.channel = channel := by simpa [found] using granted
        simp [Option.filter, own]
    · rw [sweep, if_neg granted]
      cases found : s.lock? id with
      | none => exact (List.append_nil _).symm
      | some held =>
        have other : held.channel ≠ channel := by simpa [found] using granted
        simp [Option.filter, other]

namespace Settles

variable {work : Session → Nat → Session} {change : Option HeldLock → Option HeldLock}
  {told : Option HeldLock → Option RangeLock} (settles : Settles work change told)

include settles

theorem lock_other (s : Session) {id other : Nat} (distinct : id ≠ other) :
    (work s id).lock? other = s.lock? other := by
  simp only [lock?, settles.locks, List.getElem?_modify, if_neg distinct, id_map']

/-- One lock after the other, each of them once. -/
theorem fold (s : Session) {ids : List Nat} (once : ids.Nodup) :
    releasesIn (ids.foldl work s).log =
      releasesIn s.log ++ ids.filterMap fun id => told (s.lock? id) := by
  induction ids generalizing s with
  | nil => exact (List.append_nil _).symm
  | cons id ids induction =>
    obtain ⟨fresh, once⟩ := List.nodup_cons.mp once
    have others : ids.filterMap (fun other => told ((work s id).lock? other)) =
        ids.filterMap fun other => told (s.lock? other) := by
      apply List.filterMap_congr
      intro other inside
      rw [settles.lock_other s (ne_of_mem_of_not_mem inside fresh).symm]
    rw [List.foldl_cons, induction (work s id) once, settles.records, others, List.append_assoc,
      List.filterMap_cons]
    cases told (s.lock? id) <;> rfl

end Settles

/-- When all locks are done away with, those are put on record that are valid. -/
theorem dropLocks_records (s : Session) :
    releasesIn ((List.range s.locks.length).foldl dropLock s).log =
      releasesIn s.log ++
        (List.range s.locks.length).filterMap fun id => (s.lock? id).bind HeldLock.record? :=
  dropLock_settles.fold s List.nodup_range

theorem dropLocks_gone (s : Session) (ids : List Nat) (id : Nat)
    (gone : id ∈ ids ∨ s.lock? id = none) : (ids.foldl dropLock s).lock? id = none := by
  induction ids generalizing s with
  | nil => exact gone.resolve_left List.not_mem_nil
  | cons first ids induction =>
    apply induction
    by_cases own : first = id
    · subst own
      right
      rw [lock?, dropLock_locks, lock_modify rfl]
      rfl
    · rw [dropLock_settles.lock_other s own]
      exact gone.imp_left fun inside => (List.mem_cons.mp inside).resolve_left (Ne.symm own)

theorem lock_beyond {number : Nat} (beyond : s.locks.length ≤ number) : s.lock? number = none := by
  rw [lock?, List.getElem?_eq_none beyond]
  rfl

theorem lock_inside {number : Nat} {held : HeldLock} (found : s.lock? number = some held) :
    number < s.locks.length := by
  apply Nat.lt_of_not_le
  intro beyond
  rw [lock_beyond beyond] at found
  cases found

section

variable [Memory]

/-- A channel that is done away with takes its locks along. -/
theorem dropChannel_records (found : s.slot? id = some slot) :
    releasesIn (s.dropChannel id).log =
      releasesIn s.log ++ (List.range s.locks.length).filterMap fun number =>
        ((s.lock? number).filter (·.channel == id)).bind HeldLock.record? := by
  have swept := (sweep_settles id).fold s ((List.nodup_range : (List.range s.locks.length).Nodup))
  rw [← swept]
  have kept : OnRecord (releasesIn (s.dropLocksOf id).log)
      (slot.channel.drop (slot.store id) (s.dropLocksOf id, ())).state := by
    rw [Channel.drop]
    cases slot.channel.isOpen <;> rfl
  simp only [dropChannel, found]
  exact settle_silent (Channel.drop_silent (slot.store id) (s.dropLocksOf id, ())) kept

theorem dropChannel_lockless (bare : ∀ number, s.lock? number = none) (id : Nat) :
    releasesIn (s.dropChannel id).log = releasesIn s.log ∧
      ∀ number, (s.dropChannel id).lock? number = none := by
  cases found : s.slot? id with
  | none =>
    simp only [dropChannel, found]
    exact ⟨trivial, bare⟩
  | some slot =>
    constructor
    · rw [dropChannel_records found]
      simp [bare]
    · intro number
      have lost := bare number
      rw [lock?] at lost ⊢
      rw [dropChannel_locks found, List.getElem?_map]
      cases there : s.locks[number]? with
      | none => rfl
      | some held =>
        rw [there] at lost
        cases lost
        rfl

/-- At the end of a session, the locks are put on record that are valid still. -/
theorem finish_records (s : Session) :
    releasesIn s.finish =
      (List.range s.locks.length).filterMap fun id => (s.lock? id).bind HeldLock.record? := by
  have channels (ids : List Nat) (s : Session) (bare : ∀ number, s.lock? number = none) :
      releasesIn (ids.foldl dropChannel s).log = releasesIn s.log := by
    induction ids generalizing s with
    | nil => rfl
    | cons id ids induction =>
      obtain ⟨silent, bare⟩ := dropChannel_lockless bare id
      rw [List.foldl_cons, induction _ bare, silent]
  have dropped := dropLocks_records { s with log := [] }
  -- By the time the channels go, no lock is left that would go along with one.
  rw [finish, channels]
  · exact dropped
  · intro number
    apply dropLocks_gone
    by_cases inside : number < s.locks.length
    · exact .inl (List.mem_range.mpr inside)
    · exact .inr (lock_beyond (s := { s with log := [] }) (Nat.le_of_not_lt inside))

end

end Session

end SharedBytes
