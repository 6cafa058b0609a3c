import SharedBytes.Proofs.Session.Course

/-!
# After a channel is closed

To close a channel is final: nothing opens it again, its calls fail and change nothing, and as a
peer it fails too. And it is local: apart from the count of holders, what is done through the other
channels comes out as if the channel had stayed open and nobody had used it.
-/

namespace SharedBytes

def Op.peer? : Op → Option Nat
  | .buffer _ op => op.peer?
  | .channel _ op => op.peer?
  | _ => none

def Op.isOn (id : Nat) : Op → Bool
  | .channel other _ => other == id
  | _ => false

/-- An operation that is not on a channel, nor has it as its peer, does not name it. -/
theorem Op.channels_besides {id : Nat} {op : Op} (other : op.isOn id = false)
    (alone : op.peer? ≠ some id) : ∀ named ∈ op.channels, named ≠ id := by
  rintro named mentioned rfl
  cases op with
  | buffer handle op => exact alone (Option.mem_toList.mp mentioned)
  | channel own op =>
    rcases List.mem_cons.mp mentioned with rfl | peer
    · simp [isOn] at other
    · exact alone (Option.mem_toList.mp peer)
  | _ => cases mentioned

theorem Channel.AnsweredShut.ungranted {σ : Type} {call : Call σ}
    {outcome : Outcome CallFailure Answer} (answered : AnsweredShut call outcome) :
    outcome.granted? = none := by
  cases answered with
  | away _ away => cases away <;> rfl
  | _ => rfl

namespace Session

variable {ω : Type} {s t : Session} {id : Nat} {slot : Slot}

section

variable (found : s.slot? id = some slot) (closed : slot.channel.isOpen = false)

include found closed

theorem attend_closed (memory : Memory) (call : Call (Session × ω)) (world : ω) :
    ∃ notice, attend (s, world) ⟨memory, id, call⟩ =
        (some notice, s.record notice.events, world) ∧
      Channel.AnsweredShut call notice.result ∧
      (call.needsOpen = true → notice.events = []) := by
  obtain ⟨same, state, answered, silent⟩ :=
    Channel.perform_closed closed (slot.store id) (s, world) call
  let reply := slot.channel.perform (slot.store id) (s, world) call
  refine ⟨⟨reply.result, reply.slices, reply.events⟩, ?_, answered, silent⟩
  simp only [attend, found]
  rw [settle_unmoved found same state, keepLock_ungranted _ _ answered.ungranted]

theorem runChannel_closed [Memory] {view : View} (hidden : ¬ view.channels id) (op : ChannelOp) :
    view.Same s (s.runChannel id slot op).2 := by
  have recorded (events : List Event) : view.Same s (s.record events) :=
    (View.Same.refl view s).aside s.locks s.locks s.log _
  cases op with
  | isOpen => exact .refl view s
  | capabilities => exact .refl view s
  | inspect => exact .refl view s
  | drop =>
    obtain ⟨locks, log, dropped⟩ := s.dropLocksOf_aside id
    have there : ({ s with locks, log } : Session).slot? id = some slot := found
    have idle : slot.channel.drop (slot.store id) (({ s with locks, log } : Session), ()) =
        { result := (), channel := slot.channel, state := ({ s with locks, log }, ()) } := by
      rw [Channel.drop, if_neg (Bool.eq_false_iff.mp closed)]
    have gone : view.Same s { s with slots := s.slots.set id none } := by
      refine ⟨rfl, rfl, (List.length_set ..).symm, fun _ _ => .refl _, fun other seen => ?_⟩
      have distinct : other ≠ id := fun own => hidden (own ▸ seen)
      simp only [bareSlot?, slot_remove, if_neg distinct]
    simp only [runChannel, dropChannel, found, dropped]
    rw [idle, settle_unmoved there rfl rfl]
    exact gone.aside s.locks locks s.log _
  | request request =>
    obtain ⟨same, state, answered, -⟩ :=
      Channel.perform_closed closed (slot.store id) (s, ()) (.request request)
    simp only [runChannel]
    rw [settle_unmoved found same state, keepLock_ungranted _ _ answered.ungranted]
    exact recorded _
  | copyOut position count sink =>
    obtain ⟨same, state, -⟩ := Channel.perform_closed closed (slot.store id) (s, sink)
      (.copyOut position count SinkPeer.sink)
    simp only [runChannel]
    split
    · rw [settle_unmoved found same state]
      exact recorded _
    · exact .refl view s
  | copyIn source position count =>
    obtain ⟨same, state, -⟩ := Channel.perform_closed closed (slot.store id) (s, source)
      (.copyIn SourcePeer.source position count)
    simp only [runChannel]
    split
    · rw [settle_unmoved found same state]
      exact recorded _
    · exact .refl view s

end

/-- What is heard of a run, but for the channel `id`, the counts of holders and the locks. -/
def heard (id : Nat) (ops : List Op) (reports : List Report) : List StepResult :=
  (ops.zip reports).filterMap fun (op, report) =>
    if op.isOn id || op.tellsHolders || op.lock?.isSome then none
    else some (op.answer report.toStepResult)

theorem heard_cons (id : Nat) (op : Op) (ops : List Op) (report : Report) (reports : List Report) :
    heard id (op :: ops) (report :: reports) =
      if op.isOn id || op.tellsHolders || op.lock?.isSome then heard id ops reports
      else op.answer report.toStepResult :: heard id ops reports := by
  simp only [heard, List.zip_cons_cons, List.filterMap_cons]
  split <;> split at * <;> simp_all

theorem closed_besides (s : Session) (id : Nat) (slot : Slot) :
    (besides id).Same s (s.closed id slot) := by
  have hidden : ¬ (besides id).channels id := fun distinct => distinct rfl
  have released : (besides id).Same s (s.modifyBuffer slot.buffer Buffer.release) :=
    View.modifyBuffer_same s slot.buffer _ fun _ => ⟨rfl, rfl, False.elim⟩
  exact released.trans (View.modifySlot_same hidden _ _)

section

variable [Memory]

theorem runChannel_besides (found : s.slot? id = some slot) {op : ChannelOp}
    (quits : slot.channel.isOpen = false ∨ op = .request .close) :
    (besides id).Same s (s.runChannel id slot op).2 := by
  have hidden : ¬ (besides id).channels id := fun distinct => distinct rfl
  cases isOpen : slot.channel.isOpen with
  | false => exact runChannel_closed found isOpen hidden op
  | true =>
    obtain rfl := quits.resolve_left (Bool.not_eq_false _ ▸ isOpen)
    have shut := (closed_besides s id slot).aside s.locks s.locks s.log
    simp only [runChannel, Channel.perform, Channel.serve, Channel.close, isOpen, if_true]
    rw [settle_closed rfl rfl, keepLock_ungranted _ _ rfl]
    exact shut _

/-- Whatever is done with the channel `id`, if it is closed, or to close it, shows nowhere else. -/
theorem step_besides {op : ChannelOp} (quits : ∀ slot, s.slot? id = some slot →
      slot.channel.isOpen = false ∨ op = .request .close) :
    (besides id).Same s (s.step (.channel id op)).2 := by
  have cleared : (besides id).Same s { s with log := [] } :=
    (View.Same.refl _ s).aside s.locks s.locks s.log []
  have performed : (besides id).Same s
      (({ s with log := [] } : Session).perform (.channel id op)).2 := by
    cases found : s.slot? id with
    | none =>
      have there : ({ s with log := [] } : Session).slot? id = none := found
      simp only [perform, there]
      exact cleared
    | some slot =>
      have there : ({ s with log := [] } : Session).slot? id = some slot := found
      simp only [perform, there]
      exact cleared.trans (runChannel_besides there (quits slot found))
  exact performed.trans (View.forget_same _ _ id)

theorem other_besides {op : Op} (same : (besides id).Same s t) (other : op.isOn id = false)
    (alone : op.peer? ≠ some id) :
    (besides id).Same (s.step op).2 (t.step op).2 ∧
      ((op.isOn id || op.tellsHolders || op.lock?.isSome) = false →
        op.answer (s.step op).1.toStepResult = op.answer (t.step op).1.toStepResult) := by
  cases locking : op.lock? with
  | none =>
    obtain ⟨after, answer⟩ := same.step (fun _ => trivial) locking
      (Op.channels_besides other alone)
    refine ⟨after, fun told => answer (.inr ?_)⟩
    simpa [other] using told
  | some number =>
    cases op with
    | lock number op =>
      have left := View.lock_step_same (besides id) s number op
      have right := View.lock_step_same (besides id) t number op
      exact ⟨left.symm.trans (same.trans right), fun told => by simp at told⟩
    | _ => cases locking

/-- By induction over the operations: in one session the channel `id` is closed, in the other one
nobody uses it. -/
theorem run_besides {channel : Channel} (closed : channel.isOpen = false) {ops : List Op}
    (away : ∀ op ∈ ops, op.peer? ≠ some id) (shut : s.Shut id channel)
    (same : (besides id).Same s t) :
    let others := ops.filter (!·.isOn id)
    heard id ops (s.run ops).1 = heard id others (t.run others).1 ∧
      (besides id).Same (s.run ops).2 (t.run others).2 := by
  induction ops generalizing s t with
  | nil => exact ⟨rfl, same⟩
  | cons op ops induction =>
    obtain ⟨alone, rest⟩ := List.forall_mem_cons.mp away
    have stays : (s.step op).2.Shut id channel := Changes.shut closed (step_changes op) shut
    cases own : op.isOn id with
    | true =>
      have quits : (besides id).Same s (s.step op).2 := by
        cases op with
        | channel other op =>
          obtain rfl : other = id := beq_iff_eq.mp own
          exact step_besides fun slot found => .inl (shut.isClosed closed found)
        | _ => cases own
      have onward := induction rest stays (quits.symm.trans same)
      simp only [List.filter_cons, own, run, heard_cons]
      exact onward
    | false =>
      obtain ⟨after, answer⟩ := other_besides same own alone
      obtain ⟨reports, last⟩ := induction rest stays after
      simp only [List.filter_cons, own, Bool.not_false, if_true, run, heard_cons, reports]
      refine ⟨?_, last⟩
      cases told : false || op.tellsHolders || op.lock?.isSome with
      | true => rfl
      | false => rw [answer (own ▸ told)]

structure Fails (s : Session) (failure : StoreFailure) (ended : StepResult × Session) : Prop where
  outcome : ended.1.outcome = .error (.call (.channel (.store failure)))
  buffers : ended.2.buffers = s.buffers
  bareSlot : ∀ id, ended.2.bareSlot? id = s.bareSlot? id

/-- No other channel gets anything out of the channel `id` or into it. -/
structure FailsAsPeer (s : Session) (id : Nat) : Prop where
  sink : ∀ {other index : Nat} {channel : Channel} (position count : Nat), other ≠ id →
    s.Bears other channel index →
    channel.refusal? .readable [("position", position), ("count", count)] = none →
    0 < count → position < (s.bufferAt index).size →
    s.Fails (.sink .notConnected)
      (s.perform (.channel other (.copyOut position count (.channel id))))
  source : ∀ {other index : Nat} {channel : Channel} (position count : Nat), other ≠ id →
    s.Bears other channel index →
    channel.refusal? .writable [("position", position), ("count", count)] = none →
    0 < count → (channel.capabilities.isAppending = false → position ≤ (s.bufferAt index).size) →
    s.Fails (.source .notConnected)
      (s.perform (.channel other (.copyIn (.channel id) position count)))

omit [Memory] in
theorem settle_fails {π α : Type} {other : Nat} {own : Slot} {noted : StoreCall} {peer : π}
    {failure : StoreFailure} {reply : Reply (Session × π) α} {report : PeerReport}
    {result : Outcome CallFailure Answer} (there : s.slot? other = some own)
    (failed : result = .error (.channel (.store failure)))
    (same : reply.channel = own.channel) (state : reply.state = note other noted (s, peer)) :
    s.Fails failure (.transfer ((result.map (Answer.value 0)).mapError .call) report,
      (settle other reply).1) where
  outcome := by
    rw [failed]
    rfl
  buffers := by
    change reply.state.1.buffers = s.buffers
    rw [state]
    rfl
  bareSlot third := by
    rw [bareSlot_settle, same, state, bareSlot_note, bareSlot_note]
    by_cases self : third = other
    · rw [if_pos self, self, bareSlot?, there]
      rfl
    · rw [if_neg self]

omit [Memory] in
theorem slot_note {π : Type} {other : Nat} {peer : π} {call : StoreCall}
    (found : s.slot? id = some slot) (distinct : other ≠ id) :
    (note other call (s, peer)).1.slot? id = some slot := by
  rw [note, slot_modifySlot, if_neg (Ne.symm distinct)]
  exact found

section

variable (found : s.slot? id = some slot) (closed : slot.channel.isOpen = false)

include found closed

theorem writeStream_closed (bytes : Bytes) :
    s.writeStream id bytes = (.error .notConnected, s) := by
  simp only [writeStream, found, Channel.streamWrite_closed closed]
  rw [settle_unmoved found rfl rfl]
  simp only [record, List.append_nil]
  rfl

theorem readStream_closed (slice : Bytes) :
    (s.readStream id slice).1.report = .error .notConnected ∧ (s.readStream id slice).2 = s := by
  simp only [readStream, found, Channel.streamRead_closed closed]
  rw [settle_unmoved found rfl rfl]
  simp only [record, List.append_nil]
  exact ⟨rfl, trivial⟩

theorem sink_closed (offered : Bytes) :
    SinkPeer.sink offered (s, .channel id) = (.error .notConnected, s, .channel id) := by
  simp only [SinkPeer.sink, writeStream_closed found closed]

theorem source_closed (slice : Bytes) :
    let supply := SourcePeer.source slice (s, .channel id)
    supply.1.report = .error .notConnected ∧ supply.2 = (s, .channel id) := by
  obtain ⟨reported, state⟩ := readStream_closed found closed slice
  exact ⟨reported, congrArg (·, SourcePeer.channel id) state⟩

theorem closed_failsAsPeer : s.FailsAsPeer id where
  sink {other index channel} position count distinct bears allowed some more := by
    obtain ⟨own, there, rfl, rfl, unprobed⟩ := bears
    have atHand : (SinkPeer.channel id).isAtHand s (Option.some other) = true := by
      simp [SinkPeer.isAtHand, found, distinct]
    have ended : ((place SinkPeer own.buffer).store.noting (note other)).copyOut position count
        SinkPeer.sink (s, .channel id) =
          (.error (.sink .notConnected), note other (.copyOut position count) (s, .channel id)) :=
      (place SinkPeer own.buffer).copyOut_failing some
        (sink_closed (slot_note found distinct) closed) more
    obtain ⟨result, same, state⟩ := Channel.copyOut_allowed
      ((place SinkPeer own.buffer).store.noting (note other)) allowed SinkPeer.sink
      (s, .channel id)
    rw [ended] at result state
    simp only [perform, there, runChannel, atHand, if_true, Channel.perform, store_eq unprobed]
    refine settle_fails there ?_ same state
    simp only [Reply.answering, result]
    rfl
  source {other index channel} position count distinct bears allowed some within := by
    obtain ⟨own, there, rfl, rfl, unprobed⟩ := bears
    have atHand : (SourcePeer.channel id).isAtHand s (Option.some other) = true := by
      simp [SourcePeer.isAtHand, found, distinct]
    have fails (call : StoreCall) (slice : Bytes) :
        let noted := note other call (s, SourcePeer.channel id)
        (SourcePeer.source slice noted).1.report = .error .notConnected ∧
          (SourcePeer.source slice noted).2 = noted :=
      source_closed (slot_note found distinct) closed slice
    simp only [perform, there, runChannel, atHand, if_true, Channel.perform, store_eq unprobed]
    cases mode : own.channel.capabilities.isAppending with
    | true =>
      have ended : ((place SourcePeer own.buffer).store.noting (note other)).copyInAtEnd
          SourcePeer.source count (s, .channel id) =
            (.error (.source .notConnected), note other (.copyInAtEnd count) (s, .channel id)) :=
        (place SourcePeer own.buffer).copyInAtEnd_failing some (fails _)
      obtain ⟨result, same, state⟩ := Channel.copyIn_appending
        ((place SourcePeer own.buffer).store.noting (note other)) allowed mode SourcePeer.source
        (s, .channel id)
      rw [ended] at result same state
      apply settle_fails there
      · simp only [result]
        rfl
      · exact same
      · exact state
    | false =>
      have ended : ((place SourcePeer own.buffer).store.noting (note other)).copyIn
          SourcePeer.source position count (s, .channel id) =
            (.error (.source .notConnected),
              note other (.copyIn position count) (s, .channel id)) :=
        (place SourcePeer own.buffer).copyIn_failing some (fails _) (within mode)
      obtain ⟨result, same, state⟩ := Channel.copyIn_positional
        ((place SourcePeer own.buffer).store.noting (note other)) allowed mode SourcePeer.source
        (s, .channel id)
      rw [ended] at result state
      apply settle_fails there
      · simp only [result]
        rfl
      · exact same
      · exact state

end

/-- Whatever happens after a channel was closed, it stays closed with its cursor where it was, its
calls leave no more than a record, and other channels get nothing out of it or into it. Through the
other channels a run is heard, and leaves behind, what it would if the channel were still open and
nobody used it. -/
theorem close_final_and_local (found : s.slot? id = some slot) :
    let shut := { slot.channel with isOpen := false }
    let later := (s.step (.channel id (.request .close))).2
    (∀ t, Course later t → ∀ own, t.slot? id = some own →
      own.channel = shut ∧
      (t.perform (.channel id .isOpen)).1 = .ok (.flag false) ∧
      (t.perform (.channel id .inspect)).1 = .ok (.text shut.inspect) ∧
      (∀ (ω : Type) (memory : Memory) (call : Call (Session × ω)) world,
        ∃ notice, attend (t, world) ⟨memory, id, call⟩ =
            (some notice, t.record notice.events, world) ∧
          Channel.AnsweredShut call notice.result ∧
          (call.needsOpen = true → notice.events = [])) ∧
      t.FailsAsPeer id) ∧
    ∀ ops, (∀ op ∈ ops, op.peer? ≠ some id) →
      let others := ops.filter (!·.isOn id)
      heard id ops (later.run ops).1 = heard id others (s.run others).1 ∧
        (besides id).Same (later.run ops).2 (s.run others).2 := by
  intro shut later
  have shuts : later.Shut id shut := close_shuts found
  constructor
  · intro t course own there
    have stays : t.Shut id shut := course.shut rfl shuts
    have same : own.channel = shut := stays.stays own.channel (channel_of_slot there)
    have closed : own.channel.isOpen = false := stays.isClosed rfl there
    refine ⟨same, ?_, ?_, ?_, closed_failsAsPeer there closed⟩
    · simp only [perform, there, runChannel, closed]
    · simp only [perform, there, runChannel, same]
    · exact fun ω memory call world => attend_closed there closed memory call world
  · intro ops away
    have quits : (besides id).Same s later := step_besides fun _ _ => .inr rfl
    exact run_besides rfl away shuts quits.symm

end

def berth : Session where
  buffers := [{ bytes := [1, 2, 3], holders := 3 }]
  handles := [some 0]
  slots :=
    [some { channel := { capabilities := { read := true, write := true }, position := 2 },
            handle := 0, buffer := 0 },
      some { channel := .opened { read := true, write := true }, handle := 0, buffer := 0 }]

def harbor : List Op :=
  [.channel 0 (.request (.write [[9]])), .channel 1 (.request (.read [[0, 0]])),
    .channel 0 (.request (.seek (.start 0))), .channel 0 .drop,
    .channel 1 (.copyIn (.slice [7]) 3 1)]

theorem berth_closed :
    let later := (@step .standard berth (.channel 0 (.request .close))).2
    let others := harbor.filter (!·.isOn 0)
    (@perform .standard later (.channel 0 .inspect)).1 = .ok (.text
      "Channel(open=false, position=2, options=OpenOptions \x7b read: true, write: true, append: false \x7d)") ∧
    (@perform .standard later (.channel 1 (.copyOut 2 1 (.channel 0)))).1.outcome =
      .error (.call (.channel (.store (.sink .notConnected)))) ∧
    heard 0 harbor (@run .standard later harbor).1 =
      heard 0 others (@run .standard berth others).1 ∧
      (heard 0 others (@run .standard berth others).1).length = 2 := by
  intro later others
  obtain ⟨final, beside⟩ := @close_final_and_local berth 0 _ .standard rfl
  obtain ⟨-, -, text, -, failing⟩ := final later (.rest later) _ rfl
  refine ⟨text.trans (by decide +kernel), ?_, (beside harbor (by decide)).1, by decide +kernel⟩
  have bears : later.Bears 1 (.opened { read := true, write := true }) 0 := ⟨_, rfl, rfl, rfl, rfl⟩
  exact (@FailsAsPeer.sink .standard _ _ failing _ _ _ 2 1 (by decide) bears (by decide) (by decide)
    (by decide +kernel)).outcome

end Session

end SharedBytes
