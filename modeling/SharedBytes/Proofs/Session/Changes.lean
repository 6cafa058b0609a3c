import Mathlib.Logic.Relation
import SharedBytes.Proofs.Channel.Closed
import SharedBytes.Proofs.Session.Steps

/-!
# The changes of a session

All that a session goes through comes down to a few kinds of changes. A call that does not close its
channel touches it: bytes are stored in one buffer, one cursor is moved, something is noted. Every
other change makes or takes away a hold on a buffer, or concerns the locks. What all changes of a
kind preserve, a step preserves, and so does whatever is made up of steps.
-/

namespace SharedBytes

structure Slot.Turns (slot later : Slot) : Prop where
  buffer : later.buffer = slot.buffer
  isOpen : later.channel.isOpen = slot.channel.isOpen
  closed : slot.channel.isOpen = false → later.channel = slot.channel

/-- Whether a hold on a buffer is taken or given back through a handle. -/
def BufferOp.shares : BufferOp → Bool
  | .clone | .drop => true
  | _ => false

/-- Whether an open channel gives its hold on a buffer back. -/
def ChannelOp.givesBack : ChannelOp → Bool
  | .request .close | .drop => true
  | _ => false

theorem Buffer.write_holders [Memory] (buffer : Buffer) (position : Nat) (payload : List Bytes) :
    (buffer.write position payload).2.holders = buffer.holders := by
  simp only [write]
  split
  · rfl
  · split <;> rfl

theorem Buffer.append_holders [Memory] (buffer : Buffer) (payload : List Bytes) :
    (buffer.append payload).2.holders = buffer.holders := by
  simp only [append]
  split <;> rfl

namespace Session

/-- A change that a call of the channel `id` makes of itself, as long as the channel stays open. -/
inductive Touch (id : Nat) (s : Session) : Session → Prop
  | store (index : Nat) (buffer : Buffer)
      (holders : buffer.holders = (s.bufferAt index).holders) :
      Touch id s (s.modifyBuffer index fun _ => buffer)
  | turn (change : Slot → Slot)
      (turns : ∀ slot, s.slot? id = some slot → slot.Turns (change slot)) :
      Touch id s (s.modifySlot id change)
  | record (log : List Event) : Touch id s { s with log }

/-- A change that shows in no count of holders, in no lock and in no open flag. -/
def Quiet (s t : Session) : Prop :=
  ∃ id, Touch id s t

/-- A change that shows in no count of holders and opens or closes no channel. A closed one may be
done away with. -/
inductive Calm (s : Session) : Session → Prop
  | quiet {t : Session} (quiet : Quiet s t) : Calm s t
  | relock (locks : List (Option HeldLock)) : Calm s { s with locks }
  | remove {id : Nat} {slot : Slot} (found : s.slot? id = some slot)
      (closed : slot.channel.isOpen = false) :
      Calm s { s with slots := s.slots.set id none }

def closed (session : Session) (id : Nat) (slot : Slot) : Session :=
  (session.modifyBuffer slot.buffer Buffer.release).modifySlot id fun later =>
    { later with channel := { slot.channel with isOpen := false } }

inductive Change (s : Session) : Session → Prop
  | calm {t : Session} (calm : Calm s t) : Change s t
  | create (origin : Origin) : Change s (s.create origin).2
  | clone {handle index : Nat} (found : s.handle? handle = some index) :
      Change s { s.modifyBuffer index Buffer.hold with handles := s.handles ++ [some index] }
  | dropHandle {handle index : Nat} (found : s.handle? handle = some index) :
      Change s { s.modifyBuffer index Buffer.release with handles := s.handles.set handle none }
  | openChannel {handle : Nat} (slot : Slot) (found : s.handle? handle = some slot.buffer)
      (isOpen : slot.channel.isOpen = true) :
      Change s { s.modifyBuffer slot.buffer Buffer.hold with slots := s.slots ++ [some slot] }
  | close {id : Nat} {slot : Slot} (found : s.slot? id = some slot)
      (isOpen : slot.channel.isOpen = true) :
      Change s (s.closed id slot)

abbrev Quietly : Session → Session → Prop :=
  Relation.ReflTransGen Quiet

abbrev Calmly : Session → Session → Prop :=
  Relation.ReflTransGen Calm

abbrev Changes : Session → Session → Prop :=
  Relation.ReflTransGen Change

theorem Quietly.calmly {s t : Session} (quietly : Quietly s t) : Calmly s t :=
  Relation.ReflTransGen.mono (fun _ _ => .quiet) s t quietly

theorem Calmly.changes {s t : Session} (calmly : Calmly s t) : Changes s t :=
  Relation.ReflTransGen.mono (fun _ _ => .calm) s t calmly

section

variable {ω : Type} {s t u : Session} {id other index : Nat}

theorem Touch.bareSlot (touch : Touch id s t) (distinct : other ≠ id) :
    t.bareSlot? other = s.bareSlot? other := by
  cases touch with
  | store index buffer holders => rfl
  | record log => rfl
  | turn change turns => simp only [bareSlot?, slot_modifySlot, if_neg distinct]

def Extends (R : Session → Session → Prop) (id : Nat) : Prop :=
  ∀ s t u, R s t → Touch id t u → R s u

/-- Where a call of the channel `id` has got to: as far as `R` allows, with the channel itself as it
was at the origin. -/
structure During (R : Session → Session → Prop) (origin : Session) (id : Nat) (known : ω → Prop)
    (s : Session × ω) : Prop where
  course : R origin s.1
  bareSlot : s.1.bareSlot? id = origin.bareSlot? id
  known : known s.2

theorem turns_notes (slot : Slot) (call : StoreCall) :
    slot.Turns { slot with calls := slot.calls ++ [call] } :=
  ⟨rfl, rfl, fun _ => rfl⟩

variable [Memory] {R : Session → Session → Prop} {known : ω → Prop}

/-- The work on a buffer keeps what does not go by contents, if no hold is given back. -/
theorem place_work {kept : Session × ω → Prop} (index : Nat)
    (stores : ∀ buffer (s : Session × ω), buffer.holders = (s.1.bufferAt index).holders →
      kept s → kept (s.1.modifyBuffer index fun _ => buffer, s.2)) :
    (place ω index).store.withoutRelease.KeepsIn (fun _ => True) kept := by
  apply Place.work_keepsIn
  · exact fun _ position payload s => stores _ s (Buffer.write_holders ..)
  · exact fun _ payload s => stores _ s (Buffer.append_holders ..)
  · exact fun _ size s => stores _ s rfl

theorem place_during (onward : Extends R id) (origin : Session) (index : Nat) :
    (place ω index).store.withoutRelease.KeepsIn (fun _ => True) (During R origin id known) :=
  place_work index fun buffer _ holders before =>
    ⟨onward _ _ _ before.course (.store index buffer holders), before.bareSlot, before.known⟩

/-- A call that does not close its channel goes as far as its touches and its peer. -/
theorem call_during (onward : Extends R id) {slot : Slot} (found : s.slot? id = some slot)
    (call : Call (Session × ω)) (stays : call.closes = false)
    (peer : call.Keeps (During R s id known)) (world : ω) (knows : known world)
    (rest : R s s) :
    let settled := settle id (slot.channel.perform (slot.store id) (s, world) call)
    R s settled.1 ∧ known settled.2 := by
  have notes (noted : StoreCall) (t : Session × ω) (before : During R s id known t) :
      During R s id known (note id noted t) :=
    ⟨onward _ _ _ before.course (.turn _ fun slot _ => turns_notes slot noted),
      (bareSlot_note noted t).trans before.bareSlot, before.known⟩
  have during : During R s id known
      (slot.channel.perform (slot.store id) (s, world) call).state := by
    rw [← slot.channel.perform_withoutRelease _ _ stays]
    exact slot.channel.probed_keeps (place_during onward s slot.buffer) notes slot.fixed peer
      (fun _ _ => trivial) (s, world) ⟨rest, rfl, knows⟩
  refine ⟨onward _ _ _ (onward _ _ _ during.course (.turn _ ?_)) (.record _), during.known⟩
  intro later there
  -- The channel is put back into a slot that is still the one it was taken out of.
  have bare := during.bareSlot
  simp only [bareSlot?, there, found, Option.map_some, Option.some.injEq] at bare
  have same : later.channel = slot.channel := congrArg (·.channel) bare
  refine ⟨rfl, ?_, fun closed => ?_⟩
  · rw [same]
    exact Channel.perform_isOpen stays _ _
  · rw [same] at closed ⊢
    exact (Channel.perform_closed closed _ _ call).1

theorem request_during (onward : Extends R id) {slot : Slot} (found : s.slot? id = some slot)
    (request : Request) (stays : (.request request : Call (Session × ω)).closes = false) (world : ω)
    (rest : R s s) :
    R s (settle id (slot.channel.perform (slot.store id) (s, world) (.request request))).1 :=
  have peer : (.request request : Call (Session × ω)).Keeps (During R s id fun _ => True) := trivial
  (call_during onward found (.request request) stays peer world trivial rest).1

end

abbrev Touches (id : Nat) : Session → Session → Prop :=
  Relation.ReflTransGen (Touch id)

section

variable {s t u : Session} {id other : Nat}

theorem Touches.bareSlot (touches : Touches id s t) (distinct : other ≠ id) :
    t.bareSlot? other = s.bareSlot? other := by
  induction touches with
  | refl => rfl
  | tail _ touch induction => rw [touch.bareSlot distinct, induction]

theorem Extends.all {R : Session → Session → Prop} (onward : Extends R id) (reached : R s t)
    (touches : Touches id t u) : R s u := by
  induction touches with
  | refl => exact reached
  | tail _ touch induction => exact onward _ _ _ induction touch

theorem touches_extends (id : Nat) : Extends (Touches id) id :=
  fun _ _ _ reached touch => reached.tail touch

theorem quietly_extends (id : Nat) : Extends Quietly id :=
  fun _ _ _ reached touch => reached.tail ⟨id, touch⟩

theorem modifyBuffer_eq (session : Session) (index : Nat) (change : Buffer → Buffer) :
    session.modifyBuffer index change =
      session.modifyBuffer index fun _ => change (session.bufferAt index) := by
  have buffers : session.buffers.modify index change =
      session.buffers.modify index fun _ => change (session.bufferAt index) :=
    modify_congr fun buffer there => by
      rw [bufferAt, List.getD_eq_getElem?_getD, there, Option.getD_some]
  simp only [modifyBuffer, buffers]

variable [Memory]

theorem writeStream_touches (bytes : Bytes) : Touches id s (s.writeStream id bytes).2 := by
  cases found : s.slot? id with
  | none =>
    simp only [writeStream, found]
    exact .refl
  | some slot =>
    simp only [writeStream, found]
    exact request_during (touches_extends id) found (.streamWrite bytes) rfl () .refl

theorem readStream_touches (slice : Bytes) : Touches id s (s.readStream id slice).2 := by
  cases found : s.slot? id with
  | none =>
    simp only [readStream, found]
    exact .refl
  | some slot =>
    simp only [readStream, found]
    exact request_during (touches_extends id) found (.streamRead slice) rfl () .refl

theorem apply_touches (edit : Edit) : Touches id s (s.apply edit) := by
  cases found : s.handle? edit.handle with
  | none =>
    simp only [apply, found]
    exact .refl
  | some index =>
    simp only [apply, found]
    rw [modifyBuffer_eq]
    refine .single (.store index _ ?_)
    rw [Buffer.append_holders]
    cases edit.truncate <;> rfl

theorem takeTurn_touches (turn : Turn) : Touches id s (s.takeTurn turn) := by
  obtain ⟨edit, _, _, _⟩ := turn
  cases edit with
  | none => exact .refl
  | some edit => exact apply_touches edit

/-- A sink touches the session by way of a channel, which is not one that it is kept away from. -/
theorem sink_touches (id : Nat) (offered : Bytes) (s : Session × SinkPeer)
    (away : s.2.channel? ≠ some id) :
    let next := (SinkPeer.sink offered s).2
    ∃ other, other ≠ id ∧ Touches other s.1 next.1 ∧ next.2.channel? ≠ some id := by
  obtain ⟨session, peer⟩ := s
  have apart : id + 1 ≠ id := Nat.succ_ne_self id
  cases peer with
  | collector taken => exact ⟨id + 1, apart, .refl, (Option.some_ne_none id).symm⟩
  | region room taken =>
    refine ⟨id + 1, apart, ?_⟩
    simp only [SinkPeer.sink]
    split <;> exact ⟨.refl, (Option.some_ne_none id).symm⟩
  | channel other =>
    exact ⟨other, fun same => away (congrArg some same), writeStream_touches offered, away⟩
  | scripted script taken =>
    refine ⟨id + 1, apart, ?_⟩
    have touches : Touches (id + 1) session (session.takeTurn script.turn) :=
      takeTurn_touches script.turn
    simp only [SinkPeer.sink]
    cases script.turn.failure with
    | some kind => exact ⟨touches, (Option.some_ne_none id).symm⟩
    | none => exact ⟨touches, (Option.some_ne_none id).symm⟩

theorem source_touches (id : Nat) (slice : Bytes) (s : Session × SourcePeer)
    (away : s.2.channel? ≠ some id) :
    let next := (SourcePeer.source slice s).2
    ∃ other, other ≠ id ∧ Touches other s.1 next.1 ∧ next.2.channel? ≠ some id := by
  obtain ⟨session, peer⟩ := s
  have apart : id + 1 ≠ id := Nat.succ_ne_self id
  cases peer with
  | slice left => exact ⟨id + 1, apart, .refl, (Option.some_ne_none id).symm⟩
  | channel other =>
    exact ⟨other, fun same => away (congrArg some same), readStream_touches slice, away⟩
  | scripted script left =>
    refine ⟨id + 1, apart, ?_⟩
    have touches : Touches (id + 1) session (session.takeTurn script.turn) :=
      takeTurn_touches script.turn
    simp only [SourcePeer.source]
    cases script.turn.failure with
    | some kind => exact ⟨touches, (Option.some_ne_none id).symm⟩
    | none => exact ⟨touches, (Option.some_ne_none id).symm⟩

section

variable {R : Session → Session → Prop} (onward : ∀ id, Extends R id) (origin : Session)

include onward

theorem sink_during (id : Nat) :
    Sink.Keeps (During R origin id fun peer => peer.channel? ≠ some id) SinkPeer.sink := by
  intro offered s before
  obtain ⟨other, apart, touches, away⟩ := sink_touches id offered s before.known
  exact ⟨(onward other).all before.course touches,
    (touches.bareSlot (Ne.symm apart)).trans before.bareSlot, away⟩

theorem source_during (id : Nat) :
    Source.Keeps (During R origin id fun peer => peer.channel? ≠ some id) SourcePeer.source := by
  intro slice s before
  obtain ⟨other, apart, touches, away⟩ := source_touches id slice s before.known
  exact ⟨(onward other).all before.course touches,
    (touches.bareSlot (Ne.symm apart)).trans before.bareSlot, away⟩

end

omit [Memory] in
theorem exists_away (channel? : Option Nat) : ∃ id, channel? ≠ some id := by
  cases channel? with
  | none => exact ⟨0, nofun⟩
  | some id => exact ⟨id + 1, fun same => Nat.succ_ne_self id (Option.some.inj same).symm⟩

theorem runBuffer_quietly (handle index : Nat) {op : BufferOp} (plain : op.shares = false) :
    Quietly s (s.runBuffer handle index op).2 := by
  cases op with
  | clone => cases plain
  | drop => cases plain
  | write position payload =>
    exact .single ⟨0, .store index _ (Buffer.write_holders ..)⟩
  | append payload => exact .single ⟨0, .store index _ (Buffer.append_holders ..)⟩
  | truncate size =>
    simp only [runBuffer]
    rw [modifyBuffer_eq]
    exact .single ⟨0, .store index _ rfl⟩
  | copyOut position count sink =>
    obtain ⟨id, away⟩ := exists_away sink.channel?
    have during := (place_during (quietly_extends id) s index).copyOut trivial position count
      SinkPeer.sink (sink_during quietly_extends s id) (s, sink) ⟨.refl, rfl, away⟩
    simp only [runBuffer]
    split
    · exact during.course
    · exact .refl
  | copyIn source position count =>
    obtain ⟨id, away⟩ := exists_away source.channel?
    have during := (place_during (quietly_extends id) s index).copyIn trivial SourcePeer.source
      position count (source_during quietly_extends s id) (s, source) ⟨.refl, rfl, away⟩
    simp only [runBuffer]
    split
    · exact during.course
    · exact .refl
  | copyInAtEnd source count =>
    obtain ⟨id, away⟩ := exists_away source.channel?
    have during := (place_during (quietly_extends id) s index).copyInAtEnd trivial
      SourcePeer.source count (source_during quietly_extends s id) (s, source) ⟨.refl, rfl, away⟩
    simp only [runBuffer]
    split
    · exact during.course
    · exact .refl
  | _ => exact .refl

omit [Memory] in
theorem keepLock_calmly (outcome : Outcome CallFailure Answer) :
    Calmly s (s.keepLock id outcome) := by
  rw [keepLock_eq]
  exact .single (.relock _)

omit [Memory] in
theorem sink_away {sink : SinkPeer} (atHand : sink.isAtHand s (some id) = true) :
    sink.channel? ≠ some id := by
  cases sink with
  | channel other =>
    rintro ⟨⟩
    simp [SinkPeer.isAtHand] at atHand
  | _ => nofun

omit [Memory] in
theorem source_away {source : SourcePeer} (atHand : source.isAtHand s (some id) = true) :
    source.channel? ≠ some id := by
  cases source with
  | channel other =>
    rintro ⟨⟩
    simp [SourcePeer.isAtHand] at atHand
  | _ => nofun

section

variable {R : Session → Session → Prop} (onward : ∀ id, Extends R id) {slot : Slot}
  (found : s.slot? id = some slot)

include onward found

/-- A transfer to a sink that is at hand goes as far as its touches and those of the sink. -/
theorem copyOut_during (position count : Nat) (sink : SinkPeer) (rest : R s s) :
    R s (s.runChannel id slot (.copyOut position count sink)).2 := by
  cases atHand : sink.isAtHand s (some id) with
  | false =>
    simp only [runChannel, atHand]
    exact rest
  | true =>
    simp only [runChannel, atHand]
    exact (call_during (onward id) found (.copyOut position count SinkPeer.sink) rfl
      (sink_during onward s id) sink (sink_away atHand) rest).1

theorem copyIn_during (source : SourcePeer) (position count : Nat) (rest : R s s) :
    R s (s.runChannel id slot (.copyIn source position count)).2 := by
  cases atHand : source.isAtHand s (some id) with
  | false =>
    simp only [runChannel, atHand]
    exact rest
  | true =>
    simp only [runChannel, atHand]
    exact (call_during (onward id) found (.copyIn SourcePeer.source position count) rfl
      (source_during onward s id) source (source_away atHand) rest).1

end

section

variable {slot : Slot} (found : s.slot? id = some slot)

include found

omit [Memory] in
theorem settle_idle {π α : Type} {reply : Reply (Session × π) α} {world : π}
    (channel : reply.channel = slot.channel) (state : reply.state = (s, world)) :
    Quietly s (settle id reply).1 := by
  rw [settle_unmoved found channel state]
  exact .single ⟨id, .record _⟩

omit found in
theorem settle_closed {π α : Type} {reply : Reply (Session × π) α} {world : π}
    (channel : reply.channel = { slot.channel with isOpen := false })
    (state : reply.state = (slot.store id).release (s, world)) :
    (settle id reply).1 = (s.closed id slot).record reply.events := by
  rw [settle, state, channel, closed, modifyBuffer_eq]
  rfl

omit [Memory] found in
theorem aside_calmly (locks : List (Option HeldLock)) (log : List Event) :
    Calmly s { s with locks, log } :=
  (Relation.ReflTransGen.single (.relock locks)).tail (.quiet ⟨0, .record log⟩)

theorem settle_drop :
    let settled := (settle id (slot.channel.drop (slot.store id) (s, ()))).1
    Calmly (if slot.channel.isOpen then s.closed id slot else s) settled ∧
      ∃ later, settled.slot? id = some later ∧ later.channel.isOpen = false := by
  have put (reply : Reply (Session × Unit) Unit) (there : reply.state.1.slot? id = some slot) :
      (settle id reply).1.slot? id = some { slot with channel := reply.channel } := by
    change (reply.state.1.modifySlot id _).slot? id = _
    rw [slot_modifySlot, if_pos rfl, there]
    rfl
  rw [Channel.drop]
  cases isOpen : slot.channel.isOpen with
  | true =>
    refine ⟨?_, _, put _ found, rfl⟩
    rw [if_pos rfl, if_pos rfl, settle_closed rfl rfl]
    exact .single (.quiet ⟨id, .record _⟩)
  | false => exact ⟨(settle_idle found rfl rfl).calmly, _, put _ found, isOpen⟩

theorem dropChannel_calmly :
    Calmly (if slot.channel.isOpen then s.closed id slot else s) (s.dropChannel id) := by
  obtain ⟨locks, log, dropped⟩ := s.dropLocksOf_aside id
  have there : ({ s with locks, log } : Session).slot? id = some slot := found
  have aside : Calmly (if slot.channel.isOpen then s.closed id slot else s)
      (if slot.channel.isOpen then ({ s with locks, log } : Session).closed id slot
        else { s with locks, log }) := by
    cases slot.channel.isOpen <;> exact aside_calmly locks log
  obtain ⟨settled, later, last, closed⟩ := settle_drop there
  simp only [dropChannel, found, dropped]
  exact (aside.trans settled).tail (.remove last closed)

theorem runChannel_calmly (op : ChannelOp) :
    Calmly (if op.givesBack && slot.channel.isOpen then s.closed id slot else s)
      (s.runChannel id slot op).2 := by
  cases op with
  | isOpen => exact .refl
  | capabilities => exact .refl
  | inspect => exact .refl
  | drop => exact dropChannel_calmly found
  | copyOut position count sink =>
    change Calmly s _
    exact (copyOut_during quietly_extends found position count sink .refl).calmly
  | copyIn source position count =>
    change Calmly s _
    exact (copyIn_during quietly_extends found source position count .refl).calmly
  | request request =>
    cases stays : (Call.request request : Call (Session × Unit)).closes with
    | false =>
      have quietly := request_during (quietly_extends id) found request stays () .refl
      have plain : (ChannelOp.request request).givesBack = false := by
        cases request <;> first | rfl | cases stays
      simp only [plain, Bool.false_and]
      exact quietly.calmly.trans (keepLock_calmly _)
    | true =>
      obtain rfl := Call.eq_close stays
      simp only [runChannel, Channel.perform, Channel.serve, Channel.close]
      refine Relation.ReflTransGen.trans ?_ (keepLock_calmly _)
      cases isOpen : slot.channel.isOpen with
      | true =>
        simp only [if_true]
        rw [settle_closed rfl rfl]
        exact .single (.quiet ⟨id, .record _⟩)
      | false => exact (settle_idle found rfl rfl).calmly

end

theorem perform_changes (op : Op) : Changes s (s.perform op).2 := by
  cases op with
  | create origin => exact .single (.create origin)
  | lock id op =>
    obtain ⟨locks, log, aside⟩ := s.runLock_aside id op
    simp only [perform, aside]
    exact (aside_calmly locks log).changes
  | openChannel handle capabilities fixed traced =>
    cases found : s.handle? handle with
    | none =>
      simp only [perform, openChannel, found]
      exact .refl
    | some index =>
      simp only [perform, openChannel, found]
      let slot : Slot := { channel := .opened capabilities, handle, buffer := index, fixed, traced }
      exact .single (.openChannel slot found rfl)
  | buffer handle op =>
    cases found : s.handle? handle with
    | none =>
      simp only [perform, found]
      exact .refl
    | some index =>
      simp only [perform, found]
      cases shares : op.shares with
      | false => exact (runBuffer_quietly handle index shares).calmly.changes
      | true =>
        cases op with
        | clone => exact .single (.clone found)
        | drop => exact .single (.dropHandle found)
        | _ => cases shares
  | channel id op =>
    cases found : s.slot? id with
    | none =>
      simp only [perform, found]
      exact .refl
    | some slot =>
      simp only [perform, found]
      have calmly := (runChannel_calmly found op).changes
      cases closes : op.givesBack && slot.channel.isOpen with
      | false =>
        rw [closes] at calmly
        exact calmly
      | true =>
        rw [closes] at calmly
        exact calmly.head (.close found (Bool.and_eq_true_iff.mp closes).2)

omit [Memory] in
theorem forget_quiet (id : Nat) :
    Quiet s (s.modifySlot id fun slot => { slot with calls := [] }) :=
  ⟨id, .turn _ fun _ _ => ⟨rfl, rfl, fun _ => rfl⟩⟩

theorem step_changes (op : Op) : Changes s (s.step op).2 := by
  have cleared : Changes s { s with log := [] } := .single (.calm (.quiet ⟨0, .record []⟩))
  have performed := cleared.trans (perform_changes op)
  cases op with
  | channel id op => exact performed.tail (.calm (.quiet (forget_quiet id)))
  | _ => exact performed

end

end Session

end SharedBytes
