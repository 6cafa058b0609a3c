import SharedBytes.Proofs.Session.Course

/-!
# Counting holders

A buffer counts its holders. In every course of a session the count is the number of handles on the
buffer and of open channels on it. Of the calls of a channel only the one that closes it gives its
hold back, and so does its end, if it has not been closed before; nothing else changes any count.
-/

namespace SharedBytes

def Slot.holds (slot : Slot) (index : Nat) : Bool :=
  slot.channel.isOpen && slot.buffer == index

theorem Slot.Turns.holds {slot later : Slot} (turns : slot.Turns later) (index : Nat) :
    later.holds index = slot.holds index := by
  rw [Slot.holds, Slot.holds, turns.isOpen, turns.buffer]

theorem countP_set_add {α : Type} (p : α → Bool) {l : List α} {i : Nat} {old : α}
    (there : l[i]? = some old) (new : α) :
    (l.set i new).countP p + (p old).toNat = l.countP p + (p new).toNat := by
  obtain ⟨inRange, same⟩ := List.getElem?_eq_some_iff.mp there
  have counted : p old = true → 0 < l.countP p := fun counts =>
    List.countP_pos_iff.mpr ⟨old, List.mem_of_getElem? there, counts⟩
  rw [List.countP_set inRange, same]
  cases before : p old with
  | false => cases p new <;> simp
  | true =>
    have positive := counted before
    cases p new <;> simp <;> omega

namespace Session

def holdersOf (session : Session) (index : Nat) : Nat :=
  if index < session.buffers.length then (session.bufferAt index).holders else 0

def handlesOn (session : Session) (index : Nat) : Nat :=
  session.handles.countP (· == some index)

/-- The number of channels on a buffer that have neither been closed nor done away with. -/
def channelsOn (session : Session) (index : Nat) : Nat :=
  session.slots.countP (·.any (·.holds index))

def Accounted (session : Session) : Prop :=
  ∀ index, session.holdersOf index = session.handlesOn index + session.channelsOn index

section

variable {s t : Session} {id index other : Nat} {slot : Slot}

theorem holdersOf_modifyBuffer (session : Session) (index other : Nat) (change : Buffer → Buffer) :
    (session.modifyBuffer index change).holdersOf other =
      if other = index ∧ other < session.buffers.length then
        (change (session.bufferAt other)).holders
      else session.holdersOf other := by
  simp only [holdersOf, bufferAt_modifyBuffer]
  simp only [modifyBuffer, List.length_modify]
  by_cases here : other = index ∧ other < session.buffers.length
  · rw [if_pos here, if_pos here, if_pos here.2]
  · rw [if_neg here, if_neg here]

theorem holdersOf_pos (some : 0 < s.holdersOf index) :
    index < s.buffers.length ∧ s.holdersOf index = (s.bufferAt index).holders := by
  by_cases there : index < s.buffers.length
  · exact ⟨there, if_pos there⟩
  · rw [holdersOf, if_neg there] at some
    cases some

section

variable (counted : 0 < s.holdersOf index)

include counted

theorem holdersOf_hold (other : Nat) :
    (s.modifyBuffer index Buffer.hold).holdersOf other =
      s.holdersOf other + (index == other).toNat := by
  obtain ⟨there, holders⟩ := holdersOf_pos counted
  rw [holdersOf_modifyBuffer]
  by_cases same : other = index
  · subst same
    rw [if_pos ⟨rfl, there⟩, holders, beq_self_eq_true]
    rfl
  · rw [if_neg (fun here => same here.1), beq_eq_false_iff_ne.mpr (Ne.symm same)]
    rfl

theorem holdersOf_release (other : Nat) :
    (s.modifyBuffer index Buffer.release).holdersOf other + (index == other).toNat =
      s.holdersOf other := by
  obtain ⟨there, holders⟩ := holdersOf_pos counted
  rw [holdersOf_modifyBuffer]
  by_cases same : other = index
  · subst same
    rw [if_pos ⟨rfl, there⟩, beq_self_eq_true, holders]
    rw [holders] at counted
    exact Nat.sub_add_cancel counted
  · rw [if_neg (fun here => same here.1), beq_eq_false_iff_ne.mpr (Ne.symm same)]
    rfl

end

/-- A slot that is replaced takes its hold along, and the new one brings its own. -/
theorem channelsOn_set (found : s.slot? id = some slot) (new : Option Slot) (index : Nat) :
    ({ s with slots := s.slots.set id new } : Session).channelsOn index +
        (slot.holds index).toNat =
      s.channelsOn index + (new.any (·.holds index)).toNat :=
  countP_set_add _ (slot_getElem found) new

/-- What a session has to say about the holders of a buffer. -/
structure Unmoved (s t : Session) : Prop where
  holders : ∀ index, t.holdersOf index = s.holdersOf index
  handles : t.handles = s.handles
  channels : ∀ index, t.channelsOn index = s.channelsOn index

theorem Calm.unmoved (calm : Calm s t) : s.Unmoved t := by
  cases calm with
  | relock locks => exact ⟨fun _ => rfl, rfl, fun _ => rfl⟩
  | @remove id slot found closed =>
    refine ⟨fun _ => rfl, rfl, fun index => ?_⟩
    have taken := channelsOn_set found none index
    have idle : slot.holds index = false := by rw [Slot.holds, closed, Bool.false_and]
    rw [idle] at taken
    exact taken
  | quiet quiet =>
    obtain ⟨id, touch⟩ := quiet
    cases touch with
    | record log => exact ⟨fun _ => rfl, rfl, fun _ => rfl⟩
    | store index buffer holders =>
      refine ⟨fun other => ?_, rfl, fun _ => rfl⟩
      rw [holdersOf_modifyBuffer]
      by_cases here : other = index ∧ other < s.buffers.length
      · rw [if_pos here, holdersOf, if_pos here.2, here.1, holders]
      · rw [if_neg here]
    | turn change turns =>
      refine ⟨fun _ => rfl, rfl, fun index => ?_⟩
      cases found : s.slot? id with
      | none => rw [modifySlot_absent found]
      | some slot =>
        rw [modifySlot_found found]
        have turned := channelsOn_set found (some (change slot)) index
        rw [Option.any_some, (turns slot found).holds] at turned
        exact Nat.add_right_cancel turned

theorem Calmly.unmoved (calmly : Calmly s t) : s.Unmoved t := by
  induction calmly with
  | refl => exact ⟨fun _ => rfl, rfl, fun _ => rfl⟩
  | tail _ calm induction =>
    have last := Calm.unmoved calm
    exact ⟨fun index => (last.holders index).trans (induction.holders index),
      last.handles.trans induction.handles,
      fun index => (last.channels index).trans (induction.channels index)⟩

theorem holdersOf_create (origin : Origin) (index : Nat) :
    (s.create origin).2.holdersOf index =
      s.holdersOf index + (s.buffers.length == index).toNat := by
  have length : (s.create origin).2.buffers.length = s.buffers.length + 1 := by
    simp [create]
  have one : origin.buffer.holders = 1 := by
    cases origin <;> rfl
  rw [holdersOf, holdersOf, length, bufferAt_create]
  by_cases new : index = s.buffers.length
  · subst new
    rw [if_pos (Nat.lt_succ_self _), if_pos rfl, one, if_neg (Nat.lt_irrefl _),
      beq_self_eq_true]
    rfl
  · have older : index < s.buffers.length + 1 ↔ index < s.buffers.length := by
      omega
    simp only [older, if_neg new, beq_eq_false_iff_ne.mpr (Ne.symm new)]
    rfl

theorem handlesOn_push (s : Session) (index other : Nat) :
    ({ s with handles := s.handles ++ [some index] } : Session).handlesOn other =
      s.handlesOn other + (index == other).toNat := by
  by_cases same : index = other
  · simp [handlesOn, same]
  · simp [handlesOn, same]

theorem handlesOn_drop {handle : Nat} (found : s.handle? handle = some index) (other : Nat) :
    ({ s with handles := s.handles.set handle none } : Session).handlesOn other +
        (index == other).toNat =
      s.handlesOn other := by
  rw [handle?, Option.join_eq_some_iff] at found
  exact countP_set_add _ found none

theorem handlesOn_pos {handle : Nat} (found : s.handle? handle = some index) :
    0 < s.handlesOn index := by
  rw [handle?, Option.join_eq_some_iff] at found
  exact List.countP_pos_iff.mpr ⟨_, List.mem_of_getElem? found, beq_self_eq_true _⟩

theorem holds_open (isOpen : slot.channel.isOpen = true) (index : Nat) :
    slot.holds index = (slot.buffer == index) := by
  rw [Slot.holds, isOpen, Bool.true_and]

theorem channelsOn_pos (found : s.slot? id = some slot) (isOpen : slot.channel.isOpen = true) :
    0 < s.channelsOn slot.buffer := by
  refine List.countP_pos_iff.mpr ⟨_, List.mem_of_getElem? (slot_getElem found), ?_⟩
  rw [Option.any_some, holds_open isOpen, beq_self_eq_true]

/-- An open channel that gives its hold back takes it from the count of its buffer. -/
theorem closed_ledger (found : s.slot? id = some slot) (isOpen : slot.channel.isOpen = true)
    (counted : 0 < s.holdersOf slot.buffer) (index : Nat) :
    (s.closed id slot).holdersOf index + (slot.buffer == index).toNat = s.holdersOf index ∧
      (s.closed id slot).handlesOn index = s.handlesOn index ∧
      (s.closed id slot).channelsOn index + (slot.buffer == index).toNat =
        s.channelsOn index := by
  refine ⟨holdersOf_release counted index, rfl, ?_⟩
  have there : (s.modifyBuffer slot.buffer Buffer.release).slot? id = some slot := found
  rw [closed, modifySlot_found there, ← holds_open isOpen]
  exact channelsOn_set there (some { slot with channel := { slot.channel with isOpen := false } })
    index

theorem channelsOn_push (s : Session) (slot : Slot) (index : Nat) :
    ({ s with slots := s.slots ++ [some slot] } : Session).channelsOn index =
      s.channelsOn index + (slot.holds index).toNat := by
  cases holds : slot.holds index <;> simp [channelsOn, holds]

theorem Accounted.handle_pos (accounted : s.Accounted) {handle : Nat}
    (found : s.handle? handle = some index) : 0 < s.holdersOf index := by
  rw [accounted]
  exact Nat.add_pos_left (handlesOn_pos found) _

theorem Accounted.channel_pos (accounted : s.Accounted) (found : s.slot? id = some slot)
    (isOpen : slot.channel.isOpen = true) : 0 < s.holdersOf slot.buffer := by
  rw [accounted]
  exact Nat.add_pos_right _ (channelsOn_pos found isOpen)

/-- Every change keeps the books: what it does to a count, it does to one of the sides. -/
theorem Change.accounted (change : Change s t) (before : s.Accounted) : t.Accounted := by
  intro index
  have ledger := before index
  cases change with
  | calm calm =>
    have unmoved := calm.unmoved
    have handles : t.handlesOn index = s.handlesOn index := by
      rw [handlesOn, unmoved.handles, handlesOn]
    rw [unmoved.holders, handles, unmoved.channels]
    exact ledger
  | create origin =>
    let grown : Session := { s with handles := s.handles ++ [some s.buffers.length] }
    change _ = grown.handlesOn index + s.channelsOn index
    rw [holdersOf_create, handlesOn_push, ledger]
    omega
  | @clone handle held found =>
    change (s.modifyBuffer held Buffer.hold).holdersOf index =
      ({ s with handles := s.handles ++ [some held] } : Session).handlesOn index +
        s.channelsOn index
    rw [holdersOf_hold (before.handle_pos found), handlesOn_push, ledger]
    omega
  | @dropHandle handle held found =>
    change (s.modifyBuffer held Buffer.release).holdersOf index =
      ({ s with handles := s.handles.set handle none } : Session).handlesOn index +
        s.channelsOn index
    have holders := holdersOf_release (before.handle_pos found) index
    have handles := handlesOn_drop found index
    omega
  | openChannel slot found isOpen =>
    change (s.modifyBuffer slot.buffer Buffer.hold).holdersOf index = s.handlesOn index +
      ({ s with slots := s.slots ++ [some slot] } : Session).channelsOn index
    rw [holdersOf_hold (before.handle_pos found), channelsOn_push, ledger, holds_open isOpen]
    omega
  | @close id slot found isOpen =>
    obtain ⟨holders, handles, channels⟩ :=
      closed_ledger found isOpen (before.channel_pos found isOpen) index
    omega

theorem Changes.accounted (changes : Changes s t) (before : s.Accounted) : t.Accounted := by
  induction changes with
  | refl => exact before
  | tail _ change induction => exact Change.accounted change induction

theorem Course.accounted (course : Course {} s) : s.Accounted :=
  Changes.accounted course.changes fun _ => rfl

def givenBack (session : Session) (id : Nat) (op : ChannelOp) (index : Nat) : Nat :=
  (op.givesBack && (session.slot? id).any (·.holds index)).toNat

theorem step_holders [Memory] (accounted : s.Accounted) (id : Nat) (op : ChannelOp) (index : Nat) :
    (s.step (.channel id op)).2.holdersOf index + s.givenBack id op index = s.holdersOf index := by
  change (({ s with log := [] } : Session).perform (.channel id op)).2.holdersOf index + _ = _
  cases found : s.slot? id with
  | none =>
    have there : ({ s with log := [] } : Session).slot? id = none := found
    have nothing : s.givenBack id op index = 0 := by
      rw [givenBack, found, Option.any_none, Bool.and_false]
      rfl
    simp only [perform, there, nothing]
    rfl
  | some slot =>
    have there : ({ s with log := [] } : Session).slot? id = some slot := found
    have calmly := runChannel_calmly there op
    simp only [perform, there, givenBack, found, Option.any_some]
    cases gives : op.givesBack && slot.channel.isOpen with
    | false =>
      rw [gives] at calmly
      rw [(Calmly.unmoved calmly).holders, Slot.holds, ← Bool.and_assoc, gives]
      rfl
    | true =>
      rw [gives] at calmly
      obtain ⟨gives, isOpen⟩ := Bool.and_eq_true_iff.mp gives
      rw [(Calmly.unmoved calmly).holders, gives, holds_open isOpen, Bool.true_and]
      exact (closed_ledger there isOpen (accounted.channel_pos found isOpen) index).1

def Counts {ω : Type} (s : Session) (t : Session × ω) : Prop :=
  ∀ index, t.1.holdersOf index = s.holdersOf index

/-- A call that does not close its channel changes no count, if its peer changes none. -/
theorem attend_holders {ω : Type} (memory : Memory) (id : Nat) (call : Call (Session × ω))
    (stays : call.closes = false) (world : ω) (peer : call.Keeps (Counts s)) :
    Counts s (attend (s, world) ⟨memory, id, call⟩).2 := by
  cases found : s.slot? id with
  | none =>
    simp only [attend, found]
    exact fun _ => rfl
  | some slot =>
    have work : (place ω slot.buffer).store.withoutRelease.KeepsIn (fun _ => True) (Counts s) := by
      refine place_work slot.buffer fun buffer t holders before index => ?_
      have quiet : Quiet t.1 _ := ⟨0, .store slot.buffer buffer holders⟩
      exact ((Calm.unmoved (.quiet quiet)).holders index).trans (before index)
    have notes (noted : StoreCall) (t : Session × ω) (before : Counts s t) :
        Counts s (note id noted t) := before
    have after : Counts s (slot.channel.perform (slot.store id) (s, world) call).state := by
      rw [← slot.channel.perform_withoutRelease _ _ stays]
      exact slot.channel.probed_keeps work notes slot.fixed peer (fun _ _ => trivial) (s, world)
        fun _ => rfl
    simp only [attend, found, keepLock_eq]
    exact after

/-- In every course that starts with nothing, a buffer counts the handles on it and the open
channels on it. A step on a channel gives back the hold of the channel if it closes it or does away
with it while it is open, and no other hold; a call that does not close the channel leaves it to its
peer to change a count. A channel that was closed has given back one hold, once and for all. -/
theorem holders_accounted (course : Course {} s) :
    (∀ [Memory] handle index, s.handle? handle = some index →
      s.perform (.buffer handle .holders) =
        (.ok (.number (s.handlesOn index + s.channelsOn index)), s)) ∧
    (∀ [Memory] id op index,
      (s.step (.channel id op)).2.holdersOf index + s.givenBack id op index =
        s.holdersOf index) ∧
    (∀ (ω : Type) (memory : Memory) id (call : Call (Session × ω)) world, call.closes = false →
      call.Keeps (Counts s) → Counts s (attend (s, world) ⟨memory, id, call⟩).2) ∧
    (∀ [Memory] id slot, s.slot? id = some slot → slot.channel.isOpen = true →
      let later := (s.step (.channel id (.request .close))).2
      later.holdersOf slot.buffer + 1 = s.holdersOf slot.buffer ∧
        ∀ t, Course later t → ∀ [Memory] index,
          (t.step (.channel id (.request .close))).2.holdersOf index = t.holdersOf index ∧
          (t.step (.channel id .drop)).2.holdersOf index = t.holdersOf index) := by
  have accounted := course.accounted
  refine ⟨?_, step_holders accounted, ?_, ?_⟩
  · intro _ handle index found
    obtain ⟨_, holders⟩ := holdersOf_pos (accounted.handle_pos found)
    simp only [perform, found, runBuffer, ← accounted index, holders]
  · intro ω memory id call world stays peer
    exact attend_holders memory id call stays world peer
  · intro _ id slot found isOpen later
    have given : s.givenBack id (.request .close) slot.buffer = 1 := by
      simp [givenBack, found, holds_open isOpen, ChannelOp.givesBack]
    refine ⟨given ▸ step_holders accounted id (.request .close) slot.buffer, ?_⟩
    intro t onward _ index
    have shut : t.Shut id _ := onward.shut rfl (close_shuts found)
    have nothing (op : ChannelOp) : t.givenBack id op index = 0 := by
      cases there : t.slot? id with
      | none => simp [givenBack, there]
      | some slot => simp [givenBack, there, Slot.holds, shut.isClosed rfl there]
    have books : t.Accounted :=
      ((course.andThen (.step _ _ s)).andThen onward).accounted
    have closing := step_holders books id (.request .close) index
    have dropping := step_holders books id .drop index
    rw [nothing] at closing dropping
    exact ⟨closing, dropping⟩

/-- Two handles and two channels on one buffer. One of the channels is closed, and a transfer to the
other one is cut short by a false report. -/
def sharing : List Op :=
  [.create (.filled [1, 2]), .buffer 0 .clone, .openChannel 0 { read := true } {} false,
    .openChannel 1 { append := true } {} false, .create .empty, .channel 0 (.request .close),
    .channel 1 (.copyIn (.scripted ⟨[{ claim := some 2 }], []⟩ [3]) 0 1)]

theorem sharing_accounted :
    let s := (@run .standard {} sharing).2
    s.handlesOn 0 = 2 ∧ s.channelsOn 0 = 1 ∧
      (@perform .standard s (.buffer 1 .holders)).1 = .ok (.number 3) ∧
      (@step .standard s (.channel 1 .drop)).2.holdersOf 0 + 1 = s.holdersOf 0 := by
  intro s
  obtain ⟨counts, steps, -, -⟩ := holders_accounted (Course.run .standard sharing {})
  have shared : s.handle? 1 = some 0 := by decide +kernel
  have handles : s.handlesOn 0 = 2 := by decide +kernel
  have channels : s.channelsOn 0 = 1 := by decide +kernel
  have given : s.givenBack 1 .drop 0 = 1 := by decide +kernel
  refine ⟨handles, channels, ?_, ?_⟩
  · rw [@counts .standard 1 0 shared, handles, channels]
  · exact (congrArg (_ + ·) given).symm.trans (@steps .standard 1 .drop 0)

end

end Session

end SharedBytes
