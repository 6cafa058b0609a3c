import SharedBytes.Proofs.Session.Views

/-!
# Steps of sessions that look the same

An operation names a channel to do something with, and perhaps another one as a peer. If a view has
all the buffers, and the channels that the operation names, then two sessions that look the same
answer it alike and look the same afterwards. What it tells of the number of holders, and the number
that a lock gets, are no part of the answer that is compared.
-/

namespace SharedBytes

def BufferOp.peer? : BufferOp → Option Nat
  | .copyOut _ _ sink => sink.channel?
  | .copyIn source _ _ => source.channel?
  | .copyInAtEnd source _ => source.channel?
  | _ => none

def BufferOp.tellsHolders : BufferOp → Bool
  | .holders | .inspect => true
  | _ => false

def ChannelOp.peer? : ChannelOp → Option Nat
  | .copyOut _ _ sink => sink.channel?
  | .copyIn source _ _ => source.channel?
  | _ => none

def Request.asksForLock : Request → Bool
  | .lock .. | .tryLock .. => true
  | _ => false

namespace Op

def channels : Op → List Nat
  | .buffer _ op => op.peer?.toList
  | .channel id op => id :: op.peer?.toList
  | _ => []

def tellsHolders : Op → Bool
  | .buffer _ op => op.tellsHolders
  | _ => false

def asksForLock : Op → Bool
  | .channel _ (.request request) => request.asksForLock
  | _ => false

def lock? : Op → Option Nat
  | .lock id _ => some id
  | _ => none

/-- The answer to an operation. A lock that is granted has no number in it. -/
def answer (op : Op) (result : StepResult) : StepResult :=
  if op.asksForLock then { result with outcome := result.outcome.map fun _ => .done } else result

end Op

def Outcome.granted? : Outcome CallFailure Answer → Option RangeLock
  | .ok (.granted lock) => some lock
  | _ => none

theorem Outcome.value_ungranted {outcome : Outcome CallFailure Answer}
    (ungranted : outcome.granted? = none) (next next' : Nat) :
    outcome.map (Answer.value next) = outcome.map (Answer.value next') := by
  rcases outcome with answer | failure | _
  · cases answer with
    | granted lock => cases ungranted
    | _ => rfl
  · rfl
  · rfl

theorem Outcome.done_ungranted (outcome : Outcome CallFailure Unit) :
    (outcome.map fun _ => Answer.done).granted? = none := by
  cases outcome <;> rfl

theorem Op.answer_request (id : Nat) {request : Request} {outcome : Outcome CallFailure Answer}
    (slices : Option (List Bytes)) (granting : request.asksForLock = false →
      outcome.granted? = none) {next next' : Nat} :
    (Op.channel id (.request request)).answer
        { outcome := (outcome.map (Answer.value next)).mapError .call, slices } =
      (Op.channel id (.request request)).answer
        { outcome := (outcome.map (Answer.value next')).mapError .call, slices } := by
  by_cases asks : (Op.channel id (.request request)).asksForLock = true
  · rw [answer, answer, if_pos asks, if_pos asks]
    cases outcome <;> rfl
  · rw [Outcome.value_ungranted (granting (Bool.not_eq_true _ ▸ asks)) next next']

section

variable {σ α : Type}

theorem Reply.answering_granted {reply : Reply σ (Except ChannelFailure α)} {answer : α → Answer}
    (other : ∀ value, Outcome.granted? (.ok (answer value)) = none) :
    (reply.answering answer).result.granted? = none := by
  unfold answering
  cases reply.result with
  | ok value => exact other value
  | error failure => rfl

theorem Channel.serve_ungranted (store : Store σ) (channel : Channel) (s : σ) {request : Request}
    (plain : request.asksForLock = false) :
    (channel.serve store s request).result.granted? = none := by
  cases request with
  | lock position size shared => cases plain
  | tryLock position size shared => cases plain
  | map mode position size => rfl
  | readExact slice => exact Outcome.done_ungranted _
  | writeAll bytes => exact Outcome.done_ungranted _
  | _ => exact Reply.answering_granted fun _ => rfl

end

namespace Session

variable {s t : Session} {id index : Nat}

theorem bufferAt_create (session : Session) (origin : Origin) (other : Nat) :
    (session.create origin).2.bufferAt other =
      if other = session.buffers.length then origin.buffer else session.bufferAt other := by
  simp only [create, bufferAt, List.getD_eq_getElem?_getD, List.getElem?_append]
  rcases Nat.lt_trichotomy other session.buffers.length with old | new | beyond
  · rw [if_pos old, if_neg (Nat.ne_of_lt old)]
  · simp [new]
  · have absent : session.buffers.length ≤ other := Nat.le_of_lt beyond
    rw [if_neg (Nat.not_lt_of_le absent), if_neg (Nat.ne_of_gt beyond),
      List.getElem?_eq_none absent, List.getElem?_eq_none]
    simp only [List.length_singleton]
    omega

theorem slot_push (session : Session) (slot : Slot) (other : Nat) :
    ({ session with slots := session.slots ++ [some slot] } : Session).slot? other =
      if other = session.slots.length then some slot else session.slot? other := by
  simp only [slot?, List.getElem?_append]
  rcases Nat.lt_trichotomy other session.slots.length with old | new | beyond
  · rw [if_pos old, if_neg (Nat.ne_of_lt old)]
  · simp [new]
  · have absent : session.slots.length ≤ other := Nat.le_of_lt beyond
    rw [if_neg (Nat.not_lt_of_le absent), if_neg (Nat.ne_of_gt beyond),
      List.getElem?_eq_none absent, List.getElem?_eq_none]
    simp only [List.length_singleton]
    omega

theorem slot_remove (session : Session) (id other : Nat) :
    ({ session with slots := session.slots.set id none } : Session).slot? other =
      if other = id then none else session.slot? other := by
  simp only [slot?, List.getElem?_set]
  by_cases own : id = other
  · subst own
    by_cases there : id < session.slots.length <;> simp [there]
  · rw [if_neg own, if_neg (Ne.symm own)]

theorem releaseLock_aside (session : Session) (id : Nat) :
    ∃ locks log, session.releaseLock id = { session with locks, log } := by
  unfold releaseLock
  split
  · exact ⟨session.locks, session.log, rfl⟩
  · split
    · exact ⟨_, _, rfl⟩
    · exact ⟨session.locks, session.log, rfl⟩

theorem dropLock_aside (session : Session) (id : Nat) :
    ∃ locks log, session.dropLock id = { session with locks, log } := by
  obtain ⟨locks, log, released⟩ := session.releaseLock_aside id
  unfold dropLock
  rw [released]
  exact ⟨_, _, rfl⟩

theorem dropLocksOf_aside (session : Session) (channel : Nat) :
    ∃ locks log, session.dropLocksOf channel = { session with locks, log } := by
  unfold dropLocksOf
  generalize List.range session.locks.length = ids
  induction ids generalizing session with
  | nil => exact ⟨session.locks, session.log, rfl⟩
  | cons id ids induction =>
    rw [List.foldl_cons]
    by_cases granted : (session.lock? id).any (·.channel == channel) = true
    · rw [if_pos granted]
      obtain ⟨locks, log, dropped⟩ := session.dropLock_aside id
      rw [dropped]
      obtain ⟨locks', log', same⟩ := induction { session with locks, log }
      exact ⟨locks', log', same⟩
    · rw [if_neg granted]
      exact induction session

theorem runLock_aside (session : Session) (id : Nat) (op : LockOp) :
    ∃ locks log, (session.runLock id op).2 = { session with locks, log } := by
  cases found : session.lock? id with
  | none =>
    simp only [runLock, found]
    exact ⟨session.locks, session.log, rfl⟩
  | some held =>
    cases op <;> simp only [runLock, found]
    case release => exact session.releaseLock_aside id
    case drop => exact session.dropLock_aside id
    all_goals exact ⟨session.locks, session.log, rfl⟩

theorem keepLock_eq (session : Session) (id : Nat) (outcome : Outcome CallFailure Answer) :
    session.keepLock id outcome =
      { session with
        locks := session.locks ++ outcome.granted?.toList.map fun lock => some ⟨id, lock⟩ } := by
  unfold keepLock Outcome.granted?
  split
  · rfl
  · simp only [Option.toList_none, List.map_nil, List.append_nil]

theorem keepLock_ungranted (session : Session) (id : Nat) {outcome : Outcome CallFailure Answer}
    (ungranted : outcome.granted? = none) : session.keepLock id outcome = session := by
  rw [keepLock_eq, ungranted, Option.toList_none, List.map_nil, List.append_nil]

namespace View

variable {view : View}

theorem forget_same (view : View) (s : Session) (id : Nat) :
    view.Same s (s.modifySlot id fun slot => { slot with calls := [] }) where
  handles := rfl
  buffers_length := rfl
  slots_length := by
    simp only [modifySlot, List.length_modify]
  buffer _ _ := .refl _
  bareSlot other _ := (bareSlot_forget other).symm

namespace Same

variable (same : view.Same s t)

include same

theorem isSome_slot (seen : view.channels id) : (s.slot? id).isSome = (t.slot? id).isSome := by
  have bare := congrArg Option.isSome (same.bareSlot id seen)
  simpa only [bareSlot?, Option.isSome_map] using bare

theorem push (slot : Slot) :
    view.Same { s with slots := s.slots ++ [some slot] }
      { t with slots := t.slots ++ [some slot] } where
  handles := same.handles
  buffers_length := same.buffers_length
  slots_length := by
    simp only [List.length_append, same.slots_length]
  buffer := same.buffer
  bareSlot id seen := by
    simp only [bareSlot?, slot_push, same.slots_length]
    by_cases new : id = t.slots.length
    · rw [if_pos new, if_pos new]
    · rw [if_neg new, if_neg new]
      exact same.bareSlot id seen

theorem remove (id : Nat) :
    view.Same { s with slots := s.slots.set id none } { t with slots := t.slots.set id none } where
  handles := same.handles
  buffers_length := same.buffers_length
  slots_length := by
    simp only [List.length_set, same.slots_length]
  buffer := same.buffer
  bareSlot other seen := by
    simp only [bareSlot?, slot_remove]
    by_cases own : other = id
    · rw [if_pos own, if_pos own]
    · rw [if_neg own, if_neg own]
      exact same.bareSlot other seen

theorem rehandle {handles handles' : List (Option Nat)} (equal : handles = handles') :
    view.Same { s with handles } { t with handles := handles' } :=
  ⟨equal, same.buffers_length, same.slots_length, same.buffer, same.bareSlot⟩

theorem report (seen : view.channels id) : s.channelReport id = t.channelReport id := by
  have bare := congrArg (Option.map (·.channel.inspect)) (same.bareSlot id seen)
  simp only [bareSlot?, Option.map_map] at bare
  exact congrArg (fun text => PeerReport.channel (text.getD "")) bare

section

variable {sink : SinkPeer} (named : view.SeesSink sink)

include named

theorem sink_atHand (self : Option Nat) : sink.isAtHand s self = sink.isAtHand t self := by
  cases sink with
  | channel id => exact congrArg (· && self != some id) (same.isSome_slot (named id rfl))
  | _ => rfl

theorem sink_report : sink.report s = sink.report t := by
  cases sink with
  | channel id => exact same.report (named id rfl)
  | _ => rfl

end

section

variable {source : SourcePeer} (named : view.SeesSource source)

include named

theorem source_atHand (self : Option Nat) : source.isAtHand s self = source.isAtHand t self := by
  cases source with
  | channel id => exact congrArg (· && self != some id) (same.isSome_slot (named id rfl))
  | _ => rfl

theorem source_report : source.report s = source.report t := by
  cases source with
  | channel id => exact same.report (named id rfl)
  | _ => rfl

end

theorem create (origin : Origin) :
    (s.create origin).1 = (t.create origin).1 ∧
      view.Same (s.create origin).2 (t.create origin).2 := by
  refine ⟨by simp only [Session.create, same.handles], ?_, ?_, same.slots_length, ?_,
    same.bareSlot⟩
  · simp only [Session.create, same.handles, same.buffers_length]
  · simp only [Session.create, List.length_append, same.buffers_length]
  · intro index seen
    rw [bufferAt_create, bufferAt_create, same.buffers_length]
    by_cases new : index = t.buffers.length
    · rw [if_pos new, if_pos new]
      exact .refl _
    · rw [if_neg new, if_neg new]
      exact same.buffer index seen

theorem hold (index : Nat) :
    view.Same (s.modifyBuffer index Buffer.hold) (t.modifyBuffer index Buffer.hold) :=
  same.modifyBuffer index fun seen => (same.buffer index seen).hold

theorem openChannel (handle : Nat) (capabilities : Capabilities) (fixed : FixedReplies)
    (traced : Bool) :
    (s.openChannel handle capabilities fixed traced).1 =
        (t.openChannel handle capabilities fixed traced).1 ∧
      view.Same (s.openChannel handle capabilities fixed traced).2
        (t.openChannel handle capabilities fixed traced).2 := by
  simp only [Session.openChannel, same.handle, same.slots_length]
  cases t.handle? handle with
  | none => exact ⟨rfl, same⟩
  | some index => exact ⟨rfl, (same.hold index).push _⟩

section

variable [Memory] (whole : ∀ index, view.buffers index)

include whole

theorem runBuffer (handle index : Nat) {op : BufferOp}
    (named : ∀ id ∈ op.peer?, view.channels id) :
    view.Same (s.runBuffer handle index op).2 (t.runBuffer handle index op).2 ∧
      (view.counted ∨ op.tellsHolders = false →
        (s.runBuffer handle index op).1 = (t.runBuffer handle index op).1) := by
  have alike := same.buffer index (whole index)
  cases op with
  | clone =>
    refine ⟨(same.hold index).rehandle ?_, fun _ => ?_⟩
    · simp only [same.handles]
    · simp only [Session.runBuffer, same.handles]
  | drop =>
    refine ⟨(same.modifyBuffer index fun _ => alike.release).rehandle ?_, fun _ => rfl⟩
    simp only [same.handles]
  | limit =>
    refine ⟨same, fun _ => ?_⟩
    simp only [Session.runBuffer, alike.limit]
  | size =>
    refine ⟨same, fun _ => ?_⟩
    simp only [Session.runBuffer, alike.size]
  | isEmpty =>
    refine ⟨same, fun _ => ?_⟩
    simp only [Session.runBuffer, Buffer.isEmpty, alike.bytes]
  | content =>
    refine ⟨same, fun _ => ?_⟩
    simp only [Session.runBuffer, alike.bytes]
  | view =>
    refine ⟨same, fun _ => ?_⟩
    simp only [Session.runBuffer, alike.bytes]
  | holders =>
    refine ⟨same, fun told => ?_⟩
    simp only [Session.runBuffer, alike.holders (told.resolve_right nofun)]
  | inspect =>
    refine ⟨same, fun told => ?_⟩
    have equal := alike.eq (told.resolve_right nofun)
    simp only [Session.runBuffer, equal]
  | read position slices =>
    refine ⟨same, fun _ => ?_⟩
    simp only [Session.runBuffer, Buffer.read_congr alike.bytes]
  | write position payload =>
    obtain ⟨answer, after⟩ := alike.write position payload
    refine ⟨same.modifyBuffer index fun _ => after, fun _ => ?_⟩
    simp only [Session.runBuffer, answer]
  | append payload =>
    obtain ⟨answer, after⟩ := alike.append payload
    refine ⟨same.modifyBuffer index fun _ => after, fun _ => ?_⟩
    simp only [Session.runBuffer, answer]
  | truncate size => exact ⟨same.modifyBuffer index fun _ => alike.truncate size, fun _ => rfl⟩
  | copyOut position count sink =>
    have before : view.Beside view.SeesSink (s, sink) (t, sink) := ⟨same, rfl, named⟩
    obtain ⟨answer, after⟩ := Place.copyOut_alike (place_alike (whole index)).content
      (sink_alike whole) position count _ _ before
    simp only [Session.runBuffer, same.sink_atHand named none]
    cases sink.isAtHand t none with
    | false => exact ⟨same, fun _ => rfl⟩
    | true =>
      refine ⟨after.session, fun _ => ?_⟩
      simp only [if_true, answer, after.world,
        after.session.sink_report (after.world ▸ after.known)]
  | copyIn source position count =>
    have before : view.Beside view.SeesSource (s, source) (t, source) := ⟨same, rfl, named⟩
    have places : Place.Alike (view.Beside view.SeesSource) (fun _ => True)
      (place SourcePeer index) (place SourcePeer index) := place_alike (whole index)
    obtain ⟨outcome, after⟩ := Place.copyIn_alike places.sizes (places.write trivial)
      (source_alike whole) position count _ _ before
    simp only [Session.runBuffer, same.source_atHand named none]
    cases source.isAtHand t none with
    | false => exact ⟨same, fun _ => rfl⟩
    | true =>
      refine ⟨after.session, fun _ => ?_⟩
      simp only [if_true, outcome, after.world,
        after.session.source_report (after.world ▸ after.known)]
  | copyInAtEnd source count =>
    have before : view.Beside view.SeesSource (s, source) (t, source) := ⟨same, rfl, named⟩
    have places : Place.Alike (view.Beside view.SeesSource) (fun _ => True)
      (place SourcePeer index) (place SourcePeer index) := place_alike (whole index)
    obtain ⟨outcome, after⟩ := Place.copyInAtEnd_alike places.sizes (places.append trivial)
      (source_alike whole) count _ _ before
    simp only [Session.runBuffer, same.source_atHand named none]
    cases source.isAtHand t none with
    | false => exact ⟨same, fun _ => rfl⟩
    | true =>
      refine ⟨after.session, fun _ => ?_⟩
      simp only [if_true, outcome, after.world,
        after.session.source_report (after.world ▸ after.known)]

theorem dropChannel (seen : view.channels id) :
    view.Same (s.dropChannel id) (t.dropChannel id) := by
  cases found : s.slot? id with
  | none =>
    simp only [Session.dropChannel, found, same.noSlot seen found]
    exact same
  | some slot =>
    obtain ⟨calls, there⟩ := same.slot seen found
    obtain ⟨locks, log, dropped⟩ := s.dropLocksOf_aside id
    obtain ⟨locks', log', dropped'⟩ := t.dropLocksOf_aside id
    have before : view.Beside (fun _ => True) (s.dropLocksOf id, ()) (t.dropLocksOf id, ()) := by
      rw [dropped, dropped']
      exact ⟨same.aside _ _ _ _, rfl, trivial⟩
    have alike : Reply.Alike _ (slot.channel.drop _ _) _ := Channel.drop_alike
      (slot_stores (place_alike (whole slot.buffer)) (note_beside id)) before
    simp only [Session.dropChannel, found, there]
    exact (settle_beside alike id).session.remove id

/-- A channel that is looked at answers alike, but for the number of a lock that it grants. -/
theorem runChannel (slot : Slot) (calls : List StoreCall) {op : ChannelOp}
    (seen : view.channels id) (named : ∀ id ∈ op.peer?, view.channels id) :
    view.Same (s.runChannel id slot op).2 (t.runChannel id { slot with calls } op).2 ∧
      (Op.channel id op).answer (s.runChannel id slot op).1 =
        (Op.channel id op).answer (t.runChannel id { slot with calls } op).1 := by
  cases op with
  | isOpen => exact ⟨same, rfl⟩
  | capabilities => exact ⟨same, rfl⟩
  | inspect => exact ⟨same, rfl⟩
  | drop => exact ⟨same.dropChannel whole seen, rfl⟩
  | request request =>
    have before : view.Beside (fun _ => True) (s, ()) (t, ()) := ⟨same, rfl, trivial⟩
    have alike := slot_calls (place_alike (whole slot.buffer)) (note_beside id)
      (.request request) (fun _ _ => trivial) before
    have after := (settle_beside alike id).session
    simp only [Session.runChannel, alike.result, alike.slices]
    refine ⟨?_, Op.answer_request id _ fun plain => slot.channel.serve_ungranted _ _ plain⟩
    rw [keepLock_eq, keepLock_eq]
    exact after.aside _ _ _ _
  | copyOut position count sink =>
    have before : view.Beside view.SeesSink (s, sink) (t, sink) := ⟨same, rfl, named⟩
    have alike := slot_calls (place_alike (whole slot.buffer)) (note_beside id)
      (.copyOut position count (sink_alike whole)) (fun _ _ => trivial) before
    have after := settle_beside alike id
    simp only [Session.runChannel, same.sink_atHand named (some id)]
    cases sink.isAtHand t (some id) with
    | false => exact ⟨same, rfl⟩
    | true =>
      refine ⟨after.session, ?_⟩
      simp only [if_true, alike.result, after.world,
        after.session.sink_report (after.world ▸ after.known)]
      rfl
  | copyIn source position count =>
    have before : view.Beside view.SeesSource (s, source) (t, source) := ⟨same, rfl, named⟩
    have alike := slot_calls (place_alike (whole slot.buffer)) (note_beside id)
      (.copyIn position count (source_alike whole)) (fun _ _ => trivial) before
    have after := settle_beside alike id
    simp only [Session.runChannel, same.source_atHand named (some id)]
    cases source.isAtHand t (some id) with
    | false => exact ⟨same, rfl⟩
    | true =>
      refine ⟨after.session, ?_⟩
      simp only [if_true, alike.result, after.world,
        after.session.source_report (after.world ▸ after.known)]
      rfl

/-- An operation is answered alike in two sessions that look the same, and they look the same
afterwards. -/
theorem perform {op : Op} (unlocking : op.lock? = none)
    (named : ∀ id ∈ op.channels, view.channels id) :
    view.Same (s.perform op).2 (t.perform op).2 ∧
      (view.counted ∨ op.tellsHolders = false →
        op.answer (s.perform op).1 = op.answer (t.perform op).1) := by
  cases op with
  | create origin =>
    obtain ⟨answer, after⟩ := same.create origin
    exact ⟨after, fun _ => answer⟩
  | openChannel handle capabilities fixed traced =>
    obtain ⟨answer, after⟩ := same.openChannel handle capabilities fixed traced
    exact ⟨after, fun _ => answer⟩
  | lock id op => cases unlocking
  | buffer handle op =>
    simp only [Session.perform, same.handle]
    cases t.handle? handle with
    | none => exact ⟨same, fun _ => rfl⟩
    | some index =>
      have peers : ∀ id ∈ op.peer?, view.channels id :=
        fun id peer => named id (Option.mem_toList.mpr peer)
      exact same.runBuffer whole handle index peers
  | channel id op =>
    have seen : view.channels id := named id List.mem_cons_self
    have peers : ∀ id ∈ op.peer?, view.channels id :=
      fun id peer => named id (List.mem_cons_of_mem _ (Option.mem_toList.mpr peer))
    cases found : s.slot? id with
    | none =>
      simp only [Session.perform, found, same.noSlot seen found]
      exact ⟨same, fun _ => trivial⟩
    | some slot =>
      obtain ⟨calls, there⟩ := same.slot seen found
      obtain ⟨after, answer⟩ := same.runChannel whole slot calls seen peers
      simp only [Session.perform, found, there]
      exact ⟨after, fun _ => answer⟩

theorem step {op : Op} (unlocking : op.lock? = none)
    (named : ∀ id ∈ op.channels, view.channels id) :
    view.Same (s.step op).2 (t.step op).2 ∧
      (view.counted ∨ op.tellsHolders = false →
        op.answer (s.step op).1.toStepResult = op.answer (t.step op).1.toStepResult) := by
  obtain ⟨after, answer⟩ := (same.aside s.locks t.locks [] []).perform whole unlocking named
  cases op with
  | channel id op =>
    exact ⟨(view.forget_same _ id).symm.trans (after.trans (view.forget_same _ id)), answer⟩
  | _ => exact ⟨after, answer⟩

end

end Same

theorem lock_step_same [Memory] (view : View) (s : Session) (id : Nat) (op : LockOp) :
    view.Same s (s.step (.lock id op)).2 := by
  obtain ⟨locks, log, aside⟩ := ({ s with log := [] } : Session).runLock_aside id op
  change view.Same s (({ s with log := [] } : Session).runLock id op).2
  rw [aside]
  exact (Same.refl view s).aside s.locks locks s.log log

end View

end Session

end SharedBytes
