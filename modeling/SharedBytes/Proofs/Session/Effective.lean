import Mathlib.Data.List.Forall2
import SharedBytes.Proofs.Channel.Effective
import SharedBytes.Proofs.Session.Views

/-!
# What of the capabilities counts in a session

Two sessions are alongside each other if they are one as soon as every channel is taken to have
asked for all that it may do. The same steps keep them so, with the same reports: only where a
channel shows its capabilities or itself do the two reports differ, and there they show two channels
that may do the same. A channel counts as the peer of a transfer too.
-/

namespace SharedBytes

def Slot.effective (slot : Slot) : Slot :=
  { slot with channel := slot.channel.effective }

namespace Session

variable {ω : Type} {session s t : Session} {id : Nat} {slot slot' : Slot}

def effective (session : Session) : Session :=
  { session with slots := session.slots.map (·.map Slot.effective) }

theorem slot_effective (session : Session) (id : Nat) :
    session.effective.slot? id = (session.slot? id).map Slot.effective := by
  unfold slot? effective
  rw [List.getElem?_map]
  cases session.slots[id]? <;> rfl

theorem effective_modifySlot {change change' : Slot → Slot}
    (turns : ∀ slot, (change slot).effective = change' slot.effective) :
    (session.modifySlot id change).effective = session.effective.modifySlot id change' := by
  have slots : (session.slots.modify id (·.map change)).map (·.map Slot.effective) =
      (session.slots.map (·.map Slot.effective)).modify id (·.map change') := by
    apply List.ext_getElem?
    intro other
    simp only [List.getElem?_map, List.getElem?_modify]
    cases session.slots[other]? with
    | none => rfl
    | some slot? =>
      by_cases own : id = other
      · cases slot? with
        | none => simp [own]
        | some slot => simp [own, turns]
      · simp [own]
  simp only [effective, modifySlot, slots]

theorem effective_remove (session : Session) (id : Nat) :
    ({ session with slots := session.slots.set id none } : Session).effective =
      { session.effective with slots := session.effective.slots.set id none } := by
  simp only [effective, List.map_set, Option.map_none]

theorem effective_releaseLock (session : Session) (id : Nat) :
    (session.releaseLock id).effective = session.effective.releaseLock id := by
  have lock : session.effective.lock? id = session.lock? id := rfl
  unfold releaseLock
  rw [lock]
  cases session.lock? id with
  | none => rfl
  | some held =>
    cases valid : held.lock.valid with
    | false => simp only [valid, Bool.false_eq_true, if_false]
    | true =>
      simp only [valid, if_true]
      rfl

theorem effective_dropLock (session : Session) (id : Nat) :
    (session.dropLock id).effective = session.effective.dropLock id := by
  unfold dropLock
  rw [← effective_releaseLock]
  rfl

theorem effective_dropLocksOf (session : Session) (channel : Nat) :
    (session.dropLocksOf channel).effective = session.effective.dropLocksOf channel := by
  unfold dropLocksOf
  apply Eq.symm
  apply List.foldl_hom effective
  intro session id
  have lock : session.effective.lock? id = session.lock? id := rfl
  rw [lock]
  cases (session.lock? id).any (·.channel == channel) with
  | false => rfl
  | true => exact (effective_dropLock session id).symm

theorem effective_keepLock (session : Session) (id : Nat) (outcome : Outcome CallFailure Answer) :
    (session.keepLock id outcome).effective = session.effective.keepLock id outcome := by
  unfold keepLock
  split <;> rfl

theorem effective_standing (session : Session) (id : Nat) :
    session.effective.standing? id = session.standing? id := by
  unfold standing?
  rw [slot_effective, Option.map_map]
  rfl

theorem effective_settle {α : Type} (id : Nat) (reply : Reply (Session × ω) α) :
    (settle id reply).1.effective =
      (reply.state.1.effective.modifySlot id fun slot =>
        { slot with channel := reply.channel.effective }).record reply.events := by
  have turned : (reply.state.1.modifySlot id fun slot =>
      { slot with channel := reply.channel }).effective =
      reply.state.1.effective.modifySlot id fun slot =>
        { slot with channel := reply.channel.effective } := effective_modifySlot fun _ => rfl
  rw [← turned]
  rfl

/-- Two sessions whose channels differ in no more than how they have asked to be writable, in one
and the same world. -/
structure Alongside (s t : Session × ω) : Prop where
  session : s.1.effective = t.1.effective
  world : s.2 = t.2

section

variable (same : s.effective = t.effective)

include same

theorem slot_alongside (found : s.slot? id = some slot) :
    ∃ slot', t.slot? id = some slot' ∧ slot.effective = slot'.effective := by
  have slots : (s.slot? id).map Slot.effective = (t.slot? id).map Slot.effective := by
    rw [← slot_effective, same, slot_effective]
  rw [found, Option.map_some] at slots
  obtain ⟨slot', there, equal⟩ := Option.map_eq_some_iff.mp slots.symm
  exact ⟨slot', there, equal.symm⟩

theorem noSlot_alongside (absent : s.slot? id = none) : t.slot? id = none := by
  have slots : (s.slot? id).map Slot.effective = (t.slot? id).map Slot.effective := by
    rw [← slot_effective, same, slot_effective]
  rw [absent, Option.map_none] at slots
  exact Option.map_eq_none_iff.mp slots.symm

theorem handle_alongside (handle : Nat) : s.handle? handle = t.handle? handle :=
  congrArg (·.handle? handle) same

theorem modifyBuffer_alongside (index : Nat) (change : Buffer → Buffer) :
    (s.modifyBuffer index change).effective = (t.modifyBuffer index change).effective :=
  congrArg (·.modifyBuffer index change) same

theorem modifySlot_alongside {change : Slot → Slot}
    (turns : ∀ slot, (change slot).effective = change slot.effective) :
    (s.modifySlot id change).effective = (t.modifySlot id change).effective := by
  rw [effective_modifySlot turns, effective_modifySlot turns, same]

end

section

variable [Memory]

omit [Memory] in
theorem note_alongside (id : Nat) (call : StoreCall) (s t : Session × ω) (before : Alongside s t) :
    Alongside (note id call s) (note id call t) where
  session := modifySlot_alongside before.session fun _ => rfl
  world := before.world

theorem place_alongside (index : Nat) :
    Place.Alike Alongside (fun _ => True) (place ω index) (place ω index) where
  content _ _ before := congrArg (fun session => (session.bufferAt index).bytes) before.session
  write _ position payload s t before := by
    have buffer : s.1.bufferAt index = t.1.bufferAt index :=
      congrArg (·.bufferAt index) before.session
    simp only [place, Place.ofPart, buffer]
    exact ⟨trivial, modifyBuffer_alongside before.session index _, before.world⟩
  append _ payload s t before := by
    have buffer : s.1.bufferAt index = t.1.bufferAt index :=
      congrArg (·.bufferAt index) before.session
    simp only [place, Place.ofPart, buffer]
    exact ⟨trivial, modifyBuffer_alongside before.session index _, before.world⟩
  truncate _ size s t before := by
    have buffer : s.1.bufferAt index = t.1.bufferAt index :=
      congrArg (·.bufferAt index) before.session
    simp only [place, Place.ofPart, buffer]
    exact ⟨modifyBuffer_alongside before.session index _, before.world⟩
  release s t before := by
    have buffer : s.1.bufferAt index = t.1.bufferAt index :=
      congrArg (·.bufferAt index) before.session
    simp only [place, Place.ofPart, buffer]
    exact ⟨modifyBuffer_alongside before.session index _, before.world⟩

omit [Memory] in
theorem settle_alongside {α : Type} {reply reply' : Reply (Session × ω) α}
    (alike : reply.effective.Alike Alongside reply'.effective) (id : Nat) :
    Alongside (settle id reply) (settle id reply') where
  session := by
    have channel : reply.channel.effective = reply'.channel.effective := alike.channel
    have events : reply.events = reply'.events := alike.events
    rw [effective_settle, effective_settle, channel, events]
    exact congrArg (fun session : Session => (session.modifySlot id _).record _) alike.state.session
  world := alike.state.world

/-- What a channel does in the one session it does in the other, if it cannot tell whether writing
was asked for or is implied. -/
theorem reply_alongside {α : Type}
    (answer : Channel → Store (Session × ω) → Session × ω → Reply (Session × ω) α)
    (blind : ∀ channel store s,
      answer (Channel.effective channel) store s = (answer channel store s).effective)
    (same : slot.effective = slot'.effective) (id : Nat) {s t : Session × ω}
    (alike : (answer slot.effective.channel (slot.effective.store id) s).Alike Alongside
      (answer slot.effective.channel (slot.effective.store id) t)) :
    (answer slot.channel (slot.store id) s).effective.Alike Alongside
      (answer slot'.channel (slot'.store id) t).effective := by
  have own : answer slot.effective.channel (slot.effective.store id) s =
      (answer slot.channel (slot.store id) s).effective := blind slot.channel (slot.store id) s
  have others : answer slot.effective.channel (slot.effective.store id) t =
      (answer slot'.channel (slot'.store id) t).effective := by
    rw [same]
    exact blind slot'.channel (slot'.store id) t
  rw [← own, ← others]
  exact alike

theorem slot_stores_alongside (slot : Slot) (id : Nat) :
    Store.Alike Alongside (fun _ => True) (@Slot.store ω _ slot id)
      (slot.store id) :=
  slot_stores (place_alongside slot.buffer) (note_alongside id)

theorem perform_alongside {call : Call (Session × ω)} (same : slot.effective = slot'.effective)
    (id : Nat) (peers : Call.PeersAlike Alongside call call) {s t : Session × ω}
    (before : Alongside s t) :
    (slot.channel.perform (slot.store id) s call).effective.Alike Alongside
      (slot'.channel.perform (slot'.store id) t call).effective := by
  apply reply_alongside (fun channel store s => channel.perform store s call)
    (fun _ store s => Channel.perform_effective store s call) same
  exact slot_calls (place_alongside slot.effective.buffer) (note_alongside id) peers
    (fun _ _ => trivial) before

section

variable (same : s.effective = t.effective)

include same

theorem writeStream_alongside (id : Nat) (bytes : Bytes) :
    (s.writeStream id bytes).1 = (t.writeStream id bytes).1 ∧
      (s.writeStream id bytes).2.effective = (t.writeStream id bytes).2.effective := by
  cases found : s.slot? id with
  | none =>
    simp only [writeStream, found, noSlot_alongside same found]
    exact ⟨trivial, same⟩
  | some slot =>
    obtain ⟨slot', there, equal⟩ := slot_alongside same found
    have before : Alongside (s, ()) (t, ()) := ⟨same, rfl⟩
    have alike := reply_alongside (fun channel store s => channel.streamWrite store bytes s)
      (fun _ store s => Channel.write_effective store s [bytes]) equal id
      (Channel.streamWrite_alike (slot_stores_alongside slot.effective id) before
        (fun _ _ => trivial) bytes)
    simp only [writeStream, found, there]
    exact ⟨congrArg (·.mapError ChannelFailure.kind) alike.result,
      (settle_alongside alike id).session⟩

theorem readStream_alongside (id : Nat) (slice : Bytes) :
    (s.readStream id slice).1 = (t.readStream id slice).1 ∧
      (s.readStream id slice).2.effective = (t.readStream id slice).2.effective := by
  cases found : s.slot? id with
  | none =>
    simp only [readStream, found, noSlot_alongside same found]
    exact ⟨trivial, same⟩
  | some slot =>
    obtain ⟨slot', there, equal⟩ := slot_alongside same found
    have before : Alongside (s, ()) (t, ()) := ⟨same, rfl⟩
    have alike := reply_alongside (fun channel store s => channel.streamRead store slice s)
      (fun _ store s => Channel.streamRead_effective store s slice) equal id
      (Channel.streamRead_alike (slot_stores_alongside slot.effective id) before
        (fun _ _ => trivial) slice)
    have result : (slot.channel.streamRead (slot.store id) slice (s, ())).result =
        (slot'.channel.streamRead (slot'.store id) slice (t, ())).result := alike.result
    have slices : (slot.channel.streamRead (slot.store id) slice (s, ())).slices =
        (slot'.channel.streamRead (slot'.store id) slice (t, ())).slices := alike.slices
    simp only [readStream, found, there, result, slices]
    exact ⟨trivial, (settle_alongside alike id).session⟩

theorem apply_alongside (edit : Edit) : (s.apply edit).effective = (t.apply edit).effective := by
  unfold apply
  rw [handle_alongside same]
  cases t.handle? edit.handle with
  | none => exact same
  | some index => exact modifyBuffer_alongside same index _

theorem takeTurn_alongside (turn : Turn) :
    (s.takeTurn turn).effective = (t.takeTurn turn).effective := by
  unfold takeTurn
  cases turn.edit with
  | none => exact same
  | some edit => exact apply_alongside same edit

end

/-- A sink of the session takes alike, also if it is a channel. -/
theorem sink_alongside (offered : Bytes) :
    Action.Alike Alongside (SinkPeer.sink offered) (SinkPeer.sink offered) := by
  rintro ⟨s, peer⟩ ⟨t, _⟩ ⟨same, rfl⟩
  cases peer with
  | collector taken => exact ⟨rfl, same, rfl⟩
  | region room taken =>
    simp only [SinkPeer.sink]
    by_cases full : offered ≠ [] ∧ room = 0
    · rw [if_pos full, if_pos full]
      exact ⟨rfl, same, rfl⟩
    · rw [if_neg full, if_neg full]
      exact ⟨rfl, same, rfl⟩
  | channel id =>
    obtain ⟨answer, after⟩ := writeStream_alongside same id offered
    exact ⟨answer, after, rfl⟩
  | scripted script taken =>
    have after := takeTurn_alongside same script.turn
    simp only [SinkPeer.sink]
    cases script.turn.failure with
    | some kind => exact ⟨rfl, after, rfl⟩
    | none => exact ⟨rfl, after, rfl⟩

theorem source_alongside (slice : Bytes) :
    Action.Alike Alongside (SourcePeer.source slice) (SourcePeer.source slice) := by
  rintro ⟨s, peer⟩ ⟨t, _⟩ ⟨same, rfl⟩
  cases peer with
  | slice left => exact ⟨rfl, same, rfl⟩
  | channel id =>
    obtain ⟨supply, after⟩ := readStream_alongside same id slice
    exact ⟨supply, after, rfl⟩
  | scripted script left =>
    have after := takeTurn_alongside same script.turn
    simp only [SourcePeer.source]
    cases script.turn.failure with
    | some kind => exact ⟨rfl, after, rfl⟩
    | none => exact ⟨rfl, after, rfl⟩

end

end Session

inductive Value.Alike : Value → Value → Prop
  | same (value : Value) : Alike value value
  | capabilities {channel other : Channel} (same : channel.effective = other.effective) :
      Alike (.capabilities channel.capabilities) (.capabilities other.capabilities)
  | inspect {channel other : Channel} (same : channel.effective = other.effective) :
      Alike (.text channel.inspect) (.text other.inspect)

inductive PeerReport.Alike : PeerReport → PeerReport → Prop
  | same (report : PeerReport) : Alike report report
  | inspect {channel other : Channel} (same : channel.effective = other.effective) :
      Alike (.channel channel.inspect) (.channel other.inspect)

/-- Two results that are told apart only where they show a channel. -/
inductive StepResult.Alike : StepResult → StepResult → Prop
  | same (result : StepResult) : Alike result result
  | value {value value' : Value} (alike : value.Alike value') : Alike (.ok value) (.ok value')
  | transfer (outcome : Outcome StepFailure Value) {peer peer' : PeerReport}
      (alike : peer.Alike peer') : Alike (.transfer outcome peer) (.transfer outcome peer')

structure Report.Alike (report report' : Report) : Prop where
  result : report.toStepResult.Alike report'.toStepResult
  log : report.log = report'.log
  standing : report.standing = report'.standing

inductive Op.Alike : Op → Op → Prop
  | same (op : Op) : Alike op op
  | openChannel (handle : Nat) (fixed : FixedReplies) (traced : Bool)
      {wanted other : List Capability} (agree : Capabilities.Agree wanted other) :
      Alike (.openChannel handle (.ofList wanted) fixed traced)
        (.openChannel handle (.ofList other) fixed traced)

def BufferOp.isTransfer : BufferOp → Bool
  | .copyOut .. | .copyIn .. | .copyInAtEnd .. => true
  | _ => false

namespace Session

variable {s t : Session}

theorem effective_openChannel (session : Session) (handle : Nat) (capabilities : Capabilities)
    (fixed : FixedReplies) (traced : Bool) :
    session.effective.openChannel handle capabilities.effective fixed traced =
      ((session.openChannel handle capabilities fixed traced).1,
        (session.openChannel handle capabilities fixed traced).2.effective) := by
  have found : session.effective.handle? handle = session.handle? handle := rfl
  unfold openChannel
  rw [found]
  cases session.handle? handle with
  | none => rfl
  | some index =>
    simp only [effective, List.map_append, List.length_map]
    rfl

theorem effective_runLock (session : Session) (id : Nat) (op : LockOp) :
    session.effective.runLock id op =
      ((session.runLock id op).1, (session.runLock id op).2.effective) := by
  have found : session.effective.lock? id = session.lock? id := rfl
  unfold runLock
  rw [found]
  cases session.lock? id with
  | none => rfl
  | some held =>
    cases op with
    | release =>
      simp only [← effective_releaseLock]
      rfl
    | drop => simp only [effective_dropLock]
    | _ => rfl

/-- An operation without a peer turns to no channel. -/
theorem effective_runBuffer [Memory] (session : Session) (handle index : Nat) {op : BufferOp}
    (plain : op.isTransfer = false) :
    session.effective.runBuffer handle index op =
      ((session.runBuffer handle index op).1,
        (session.runBuffer handle index op).2.effective) := by
  cases op with
  | copyOut position count sink => cases plain
  | copyIn source position count => cases plain
  | copyInAtEnd source count => cases plain
  | _ => rfl

section

variable (same : s.effective = t.effective)

include same

theorem report_alongside (id : Nat) : (s.channelReport id).Alike (t.channelReport id) := by
  unfold channelReport
  cases found : s.slot? id with
  | none =>
    rw [noSlot_alongside same found]
    exact .same _
  | some slot =>
    obtain ⟨slot', there, equal⟩ := slot_alongside same found
    rw [there]
    exact .inspect (congrArg Slot.channel equal)

theorem atHand_alongside (self : Option Nat) (id : Nat) :
    ((s.slot? id).isSome && self != some id) = ((t.slot? id).isSome && self != some id) := by
  have slots : ((s.slot? id).map Slot.effective).isSome =
      ((t.slot? id).map Slot.effective).isSome := by
    rw [← slot_effective, same, slot_effective]
  rw [Option.isSome_map, Option.isSome_map] at slots
  rw [slots]

theorem sink_atHand_alongside (self : Option Nat) (sink : SinkPeer) :
    sink.isAtHand s self = sink.isAtHand t self := by
  cases sink with
  | channel id => exact atHand_alongside same self id
  | _ => rfl

theorem source_atHand_alongside (self : Option Nat) (source : SourcePeer) :
    source.isAtHand s self = source.isAtHand t self := by
  cases source with
  | channel id => exact atHand_alongside same self id
  | _ => rfl

theorem sink_report_alongside (sink : SinkPeer) : (sink.report s).Alike (sink.report t) := by
  cases sink with
  | channel id => exact report_alongside same id
  | _ => exact .same _

theorem source_report_alongside (source : SourcePeer) :
    (source.report s).Alike (source.report t) := by
  cases source with
  | channel id => exact report_alongside same id
  | _ => exact .same _

theorem standing_alongside (id : Nat) : s.standing? id = t.standing? id := by
  rw [← effective_standing, same, effective_standing]

theorem openChannel_alongside (handle : Nat) {capabilities other : Capabilities}
    (equal : capabilities.effective = other.effective) (fixed : FixedReplies) (traced : Bool) :
    (s.openChannel handle capabilities fixed traced).1 =
        (t.openChannel handle other fixed traced).1 ∧
      (s.openChannel handle capabilities fixed traced).2.effective =
        (t.openChannel handle other fixed traced).2.effective := by
  have own := effective_openChannel s handle capabilities fixed traced
  have others := effective_openChannel t handle other fixed traced
  rw [same, equal] at own
  exact Prod.mk.inj (own.symm.trans others)

theorem runLock_alongside (id : Nat) (op : LockOp) :
    (s.runLock id op).1 = (t.runLock id op).1 ∧
      (s.runLock id op).2.effective = (t.runLock id op).2.effective := by
  have own := effective_runLock s id op
  have others := effective_runLock t id op
  rw [same] at own
  exact Prod.mk.inj (own.symm.trans others)

end

variable [Memory]

section

variable (same : s.effective = t.effective)

include same

theorem runBuffer_alongside (handle index : Nat) (op : BufferOp) :
    (s.runBuffer handle index op).1.Alike (t.runBuffer handle index op).1 ∧
      (s.runBuffer handle index op).2.effective = (t.runBuffer handle index op).2.effective := by
  have plain (others : op.isTransfer = false) :
      (s.runBuffer handle index op).1.Alike (t.runBuffer handle index op).1 ∧
        (s.runBuffer handle index op).2.effective = (t.runBuffer handle index op).2.effective := by
    have left := effective_runBuffer s handle index others
    have right := effective_runBuffer t handle index others
    rw [same] at left
    obtain ⟨result, after⟩ := Prod.mk.inj (left.symm.trans right)
    rw [result]
    exact ⟨.same _, after⟩
  cases op with
  | copyOut position count sink =>
    have before : Alongside (s, sink) (t, sink) := ⟨same, rfl⟩
    obtain ⟨answer, after⟩ := Place.copyOut_alike (place_alongside index).content sink_alongside
      position count (s, sink) (t, sink) before
    simp only [runBuffer, sink_atHand_alongside same none sink]
    cases sink.isAtHand t none with
    | false => exact ⟨.same _, same⟩
    | true =>
      simp only [if_true, answer, after.world]
      exact ⟨.transfer _ (sink_report_alongside after.session _), after.session⟩
  | copyIn source position count =>
    have before : Alongside (s, source) (t, source) := ⟨same, rfl⟩
    obtain ⟨outcome, after⟩ := Place.copyIn_alike (place_alongside index).sizes
      ((place_alongside index).write trivial) source_alongside position count
      (s, source) (t, source) before
    simp only [runBuffer, source_atHand_alongside same none source]
    cases source.isAtHand t none with
    | false => exact ⟨.same _, same⟩
    | true =>
      simp only [if_true, outcome, after.world]
      exact ⟨.transfer _ (source_report_alongside after.session _), after.session⟩
  | copyInAtEnd source count =>
    have before : Alongside (s, source) (t, source) := ⟨same, rfl⟩
    obtain ⟨outcome, after⟩ := Place.copyInAtEnd_alike (place_alongside index).sizes
      ((place_alongside index).append trivial) source_alongside count
      (s, source) (t, source) before
    simp only [runBuffer, source_atHand_alongside same none source]
    cases source.isAtHand t none with
    | false => exact ⟨.same _, same⟩
    | true =>
      simp only [if_true, outcome, after.world]
      exact ⟨.transfer _ (source_report_alongside after.session _), after.session⟩
  | _ =>
    apply plain
    rfl

theorem dropChannel_alongside (id : Nat) :
    (s.dropChannel id).effective = (t.dropChannel id).effective := by
  cases found : s.slot? id with
  | none =>
    simp only [dropChannel, found, noSlot_alongside same found]
    exact same
  | some slot =>
    obtain ⟨slot', there, equal⟩ := slot_alongside same found
    have before : Alongside (s.dropLocksOf id, ()) (t.dropLocksOf id, ()) := by
      constructor
      · rw [effective_dropLocksOf, effective_dropLocksOf, same]
      · rfl
    have alike := reply_alongside (fun channel store s => channel.drop store s)
      (fun _ store s => Channel.drop_effective store s) equal id
      (Channel.drop_alike (slot_stores_alongside slot.effective id) before)
    have after := (settle_alongside alike id).session
    simp only [dropChannel, found, there, effective_remove]
    rw [after]

theorem runChannel_alongside {slot slot' : Slot} (equal : slot.effective = slot'.effective)
    (id : Nat) (op : ChannelOp) :
    (s.runChannel id slot op).1.Alike (t.runChannel id slot' op).1 ∧
      (s.runChannel id slot op).2.effective = (t.runChannel id slot' op).2.effective := by
  have channel : slot.channel.effective = slot'.channel.effective := congrArg Slot.channel equal
  cases op with
  | request request =>
    have before : Alongside (s, ()) (t, ()) := ⟨same, rfl⟩
    have alike := perform_alongside equal id (.request request) before
    have after := (settle_alongside alike id).session
    have result : (slot.channel.perform (slot.store id) (s, ()) (.request request)).result =
        (slot'.channel.perform (slot'.store id) (t, ()) (.request request)).result := alike.result
    have slices : (slot.channel.perform (slot.store id) (s, ()) (.request request)).slices =
        (slot'.channel.perform (slot'.store id) (t, ()) (.request request)).slices := alike.slices
    have locks : s.locks = t.locks := (congrArg Session.locks same :)
    simp only [runChannel, result, slices, locks, effective_keepLock]
    rw [after]
    exact ⟨.same _, rfl⟩
  | copyOut position count sink =>
    have before : Alongside (s, sink) (t, sink) := ⟨same, rfl⟩
    have alike := perform_alongside equal id (.copyOut position count sink_alongside) before
    have after := settle_alongside alike id
    have result : (slot.channel.perform (slot.store id) (s, sink) _).result =
        (slot'.channel.perform (slot'.store id) (t, sink) _).result := alike.result
    simp only [runChannel, sink_atHand_alongside same (some id) sink]
    cases sink.isAtHand t (some id) with
    | false => exact ⟨.same _, same⟩
    | true =>
      simp only [if_true, result, after.world]
      exact ⟨.transfer _ (sink_report_alongside after.session _), after.session⟩
  | copyIn source position count =>
    have before : Alongside (s, source) (t, source) := ⟨same, rfl⟩
    have alike := perform_alongside equal id (.copyIn position count source_alongside) before
    have after := settle_alongside alike id
    have result : (slot.channel.perform (slot.store id) (s, source) _).result =
        (slot'.channel.perform (slot'.store id) (t, source) _).result := alike.result
    simp only [runChannel, source_atHand_alongside same (some id) source]
    cases source.isAtHand t (some id) with
    | false => exact ⟨.same _, same⟩
    | true =>
      simp only [if_true, result, after.world]
      exact ⟨.transfer _ (source_report_alongside after.session _), after.session⟩
  | isOpen =>
    have isOpen : slot.channel.isOpen = slot'.channel.isOpen :=
      (congrArg Channel.isOpen channel :)
    simp only [runChannel, isOpen]
    exact ⟨.same _, same⟩
  | capabilities => exact ⟨.value (.capabilities channel), same⟩
  | inspect => exact ⟨.value (.inspect channel), same⟩
  | drop => exact ⟨.same _, dropChannel_alongside same id⟩

end

theorem operation_alongside (same : s.effective = t.effective) {op other : Op}
    (ops : op.Alike other) :
    (s.perform op).1.Alike (t.perform other).1 ∧
      (s.perform op).2.effective = (t.perform other).2.effective := by
  cases ops with
  | openChannel handle fixed traced agree =>
    obtain ⟨result, after⟩ := openChannel_alongside same handle agree.effective fixed traced
    simp only [perform, result]
    exact ⟨.same _, after⟩
  | same =>
    cases op with
    | create origin =>
      have handles : s.handles = t.handles := (congrArg Session.handles same :)
      constructor
      · simp only [perform, create, handles]
        exact .same _
      · exact congrArg (fun session => (session.create origin).2) same
    | buffer handle op =>
      simp only [perform, handle_alongside same]
      cases t.handle? handle with
      | none => exact ⟨.same _, same⟩
      | some index => exact runBuffer_alongside same handle index op
    | openChannel handle capabilities fixed traced =>
      obtain ⟨result, after⟩ := openChannel_alongside same handle
        (rfl : capabilities.effective = capabilities.effective) fixed traced
      simp only [perform, result]
      exact ⟨.same _, after⟩
    | channel id op =>
      cases found : s.slot? id with
      | none =>
        simp only [perform, found, noSlot_alongside same found]
        exact ⟨.same _, same⟩
      | some slot =>
        obtain ⟨slot', there, equal⟩ := slot_alongside same found
        simp only [perform, found, there]
        exact runChannel_alongside same equal id op
    | lock id op =>
      obtain ⟨result, after⟩ := runLock_alongside same id op
      simp only [perform, result]
      exact ⟨.same _, after⟩

theorem step_alongside (same : s.effective = t.effective) {op other : Op} (ops : op.Alike other) :
    (s.step op).1.Alike (t.step other).1 ∧
      (s.step op).2.effective = (t.step other).2.effective := by
  have cleared : ({ s with log := [] } : Session).effective =
      ({ t with log := [] } : Session).effective :=
    congrArg (fun session : Session => { session with log := [] }) same
  obtain ⟨result, after⟩ := operation_alongside cleared ops
  have log : (({ s with log := [] } : Session).perform op).2.log =
      (({ t with log := [] } : Session).perform other).2.log := (congrArg Session.log after :)
  cases ops with
  | openChannel handle fixed traced agree => exact ⟨⟨result, log, rfl⟩, after⟩
  | same =>
    cases op with
    | channel id op =>
      constructor
      · exact ⟨result, log, standing_alongside after id⟩
      · exact modifySlot_alongside after fun _ => rfl
    | _ => exact ⟨⟨result, log, rfl⟩, after⟩

/-- By induction over the operations: the sessions stay alongside each other. -/
theorem run_alongside (same : s.effective = t.effective) {ops others : List Op}
    (alike : List.Forall₂ Op.Alike ops others) :
    List.Forall₂ Report.Alike (s.run ops).1 (t.run others).1 ∧
      (s.run ops).2.effective = (t.run others).2.effective := by
  induction alike generalizing s t with
  | nil => exact ⟨.nil, same⟩
  | cons first _ induction =>
    obtain ⟨report, after⟩ := step_alongside same first
    obtain ⟨reports, final⟩ := induction after
    exact ⟨.cons report reports, final⟩

omit [Memory] in
/-- Two lists make the same capabilities just if they name the same ones. If they agree on what a
channel may do, then over any store the channels that are opened with them give the same replies to
the same calls, with their cursors and the states left alike. In a session, where a channel may also
be the peer of a transfer, all channels may be opened with other lists that agree with theirs: the
reports stay alike, and the sessions alongside each other. -/
theorem capabilities_count_by_effect :
    (∀ wanted other : List Capability, Capabilities.ofList wanted = .ofList other ↔
      ∀ capability, capability ∈ wanted ↔ capability ∈ other) ∧
    (∀ wanted other : List Capability, Capabilities.Agree wanted other →
      ∀ {σ : Type} (store : Store σ) (s : σ) (calls : List (Call σ)),
        ((Channel.opened (.ofList wanted)).replies store s calls).map Reply.effective =
          ((Channel.opened (.ofList other)).replies store s calls).map Reply.effective) ∧
    ∀ [Memory] (session : Session) (ops others : List Op), List.Forall₂ Op.Alike ops others →
      List.Forall₂ Report.Alike (session.run ops).1 (session.run others).1 ∧
        (session.run ops).2.effective = (session.run others).2.effective := by
  constructor
  · exact Capabilities.ofList_eq_iff
  · constructor
    · intro wanted other agree σ store s calls
      have opened : (Channel.opened (.ofList wanted)).effective =
          (Channel.opened (.ofList other)).effective := congrArg Channel.opened agree.effective
      exact Channel.replies_congr store s opened calls
    · intro memory session ops others alike
      exact run_alongside rfl alike

def relaying (wanted : List Capability) : List Op :=
  [.create (.filled [1, 2]),
    .openChannel 0 (.ofList wanted) {} true,
    .openChannel 0 (.ofList [.read]) {} false,
    .channel 1 (.copyOut 0 2 (.channel 0)),
    .channel 0 (.request (.writeAt [3] 0)),
    .channel 0 .inspect]

omit [Memory] in
/-- A channel for appending may be asked for writing besides, in any order and more than once. -/
theorem relaying_alike :
    let out wanted := @run .standard {} (relaying wanted)
    let told wanted := (Channel.opened (.ofList wanted)).replies (@place .standard Unit 0).store
      ({ buffers := [{ bytes := [1, 2] }] }, ()) [.request (.write [[3]]), .request .cursor]
    Capabilities.ofList [.append] ≠ .ofList [.append, .write, .append] ∧
      (told [.append]).map Reply.effective = (told [.append, .write, .append]).map Reply.effective ∧
      (told [.append]).map (·.result) = [.ok (.number 1), .ok (.number 3)] ∧
      List.Forall₂ Report.Alike (out [.append]).1 (out [.append, .write, .append]).1 ∧
      (out [.append]).2.contents = [some [1, 2, 1, 2, 3]] := by
  intro out told
  have agree : Capabilities.Agree [.append] [.append, .write, .append] := by
    unfold Capabilities.Agree
    decide
  obtain ⟨lists, channels, sessions⟩ := capabilities_count_by_effect
  have alike : List.Forall₂ Op.Alike (relaying [.append]) (relaying [.append, .write, .append]) :=
    .cons (.same _) (.cons (.openChannel 0 {} true agree) (.cons (.same _) (.cons (.same _)
      (.cons (.same _) (.cons (.same _) .nil)))))
  constructor
  · apply mt (lists [.append] [.append, .write, .append]).mp
    intro same
    have asked := (same .write).mpr (by decide)
    cases asked with
    | tail _ none => cases none
  · refine ⟨channels _ _ agree _ _ _, by decide +kernel, ?_, by decide +kernel⟩
    exact (@sessions .standard {} _ _ alike).1

end Session

end SharedBytes
