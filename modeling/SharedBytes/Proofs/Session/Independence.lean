import SharedBytes.Proofs.Session.Changes
import SharedBytes.Proofs.Session.Redaction

/-!
# Calls that are independent

Each channel has its cursor to itself, and a call leaves alone what it has no part in. So two calls
of two channels may change places, if the channels are over different buffers or if neither call is
made to change bytes: a call sees nothing of what the other one does, apart from a count of holders
that no call ever looks at.
-/

namespace SharedBytes

section

variable {σ π : Type}

def Sink.secluded (sink : Sink π) : Sink (σ × π) := fun offered s =>
  let answer := sink offered s.2
  (answer.1, s.1, answer.2)

def Source.secluded (source : Source π) : Source (σ × π) := fun slice s =>
  let supply := source slice s.2
  (supply.1, s.1, supply.2)

def Call.secluded : Call π → Call (σ × π)
  | .request plain => .request plain
  | .copyOut position count sink => .copyOut position count sink.secluded
  | .copyIn source position count => .copyIn source.secluded position count

def Request.alters : Request → Bool
  | .write _ | .writeAt _ _ | .streamWrite _ | .writeAll _ | .truncate _ => true
  | _ => false

def Call.alters : Call σ → Bool
  | .request plain => plain.alters
  | .copyOut _ _ _ => false
  | .copyIn _ _ _ => true

structure Task (π : Type) where
  memory : Memory
  id : Nat
  call : Call π
  peer : π

@[simp] theorem Call.secluded_alters (call : Call π) :
    (call.secluded : Call (σ × π)).alters = call.alters := by
  cases call <;> rfl

@[simp] theorem Call.secluded_closes (call : Call π) :
    (call.secluded : Call (σ × π)).closes = call.closes := by
  cases call with
  | request plain => cases plain <;> rfl
  | _ => rfl

theorem Call.secluded_keeps (call : Call π) (kept : σ → Prop) :
    (call.secluded : Call (σ × π)).Keeps fun s => kept s.1 := by
  cases call with
  | request plain => trivial
  | copyOut position count sink => exact fun _ _ before => before
  | copyIn source position count => exact fun _ _ before => before

theorem Channel.reads_of_unaltering {channel : Channel} {call : Call σ} {use : Use}
    (unaltering : call.alters = false) (found : channel.use? call = some use) :
    use = .reading := by
  have reading (found : channel.reading? = some use) : use = .reading :=
    (Option.some.inj (Option.ite_none_right_eq_some.mp found).2).symm
  cases call with
  | copyIn source position count => cases unaltering
  | copyOut position count sink => exact reading found
  | request plain => cases plain <;> first | exact reading found | cases found | cases unaltering

end

namespace Session

variable {π ρ : Type} {s t : Session} {view : View}

/-- Carries a task out. What is to be heard of it is the notice and what has become of the peer. -/
def carryOut (session : Session) (task : Task π) : (Option Notice × π) × Session :=
  let attended := attend (session, task.peer) ⟨task.memory, task.id, task.call.secluded⟩
  ((attended.1, attended.2.2), attended.2.1)

theorem secluded_alike (call : Call π) :
    Call.PeersAlike (view.Beside fun _ => True) (call.secluded : Call (Session × π))
      call.secluded := by
  cases call with
  | request plain => exact .request plain
  | copyOut position count sink =>
    refine .copyOut position count fun offered s t before => ?_
    simp only [Sink.secluded, before.world]
    exact ⟨trivial, before.session, rfl, trivial⟩
  | copyIn source position count =>
    refine .copyIn position count fun slice s t before => ?_
    simp only [Source.secluded, before.world]
    exact ⟨trivial, before.session, rfl, trivial⟩

/-- A task sees no more than its channel and the buffer of its channel. -/
theorem carryOut_alike (task : Task π) (same : view.Same s t) (seen : view.channels task.id)
    (stored : ∀ slot, s.slot? task.id = some slot → view.buffers slot.buffer) :
    (s.carryOut task).1 = (t.carryOut task).1 ∧
      view.Same (s.carryOut task).2 (t.carryOut task).2 := by
  obtain ⟨memory, id, call, peer⟩ := task
  cases found : s.slot? id with
  | none =>
    simp only [carryOut, attend, found, same.noSlot seen found]
    exact ⟨trivial, same⟩
  | some slot =>
    obtain ⟨calls, there⟩ := same.slot seen found
    have before : view.Beside (fun _ => True) (s, peer) (t, peer) := ⟨same, rfl, trivial⟩
    have alike := slot_calls (View.place_alike (stored slot found)) (View.note_beside id)
      (secluded_alike call) (fun _ _ => trivial) before
    have after := View.settle_beside alike id
    simp only [carryOut, attend, found, there, alike.result, alike.slices, alike.events,
      after.world, keepLock_eq]
    exact ⟨rfl, after.session.aside _ _ _ _⟩

namespace View

theorem place_unseen [Memory] {index : Nat} (unseen : ¬ view.buffers index) (origin : Session) :
    (place π index).KeepsIn (fun _ => True) fun t => view.Same origin t.1 := by
  have stored (change : Buffer → Buffer) (t : Session × π) (before : view.Same origin t.1) :
      view.Same origin (t.1.modifyBuffer index change) :=
    before.trans (modifyBuffer_same t.1 index change fun seen => absurd seen unseen)
  exact {
    write := fun _ _ _ _ before => stored _ _ before
    append := fun _ _ _ before => stored _ _ before
    truncate := fun _ _ _ before => stored _ _ before
    release := fun _ before => stored _ _ before }

/-- The work on a buffer that is only read, if nobody counts its holders. -/
theorem place_uncounted [Memory] (uncounted : ¬ view.counted) (index : Nat) (origin : Session) :
    (place π index).KeepsIn (· = .reading) fun t => view.Same origin t.1 where
  write := nofun
  append := nofun
  truncate := nofun
  release t before := by
    refine before.trans (modifyBuffer_same t.1 index _ fun _ => ?_)
    exact ⟨rfl, rfl, fun count => absurd count uncounted⟩

end View

theorem carryOut_leaves {used : Use → Prop} (session : Session) (task : Task π)
    (hidden : ¬ view.channels task.id)
    (uses : ∀ (channel : Channel) use,
      channel.use? (task.call.secluded : Call (Session × π)) = some use → used use)
    (work : ∀ slot, session.slot? task.id = some slot →
      (@place task.memory π slot.buffer).KeepsIn used fun t => view.Same session t.1) :
    view.Same session (session.carryOut task).2 := by
  obtain ⟨memory, id, call, peer⟩ := task
  cases found : session.slot? id with
  | none =>
    simp only [carryOut, attend, found]
    exact .refl view session
  | some slot =>
    have notes (noted : StoreCall) (t : Session × π) (before : view.Same session t.1) :
        view.Same session (note id noted t).1 :=
      before.trans (View.modifySlot_same hidden t.1 _)
    have after := slot.channel.probed_keeps (Place.store_keepsIn (work slot found)) notes slot.fixed
      (call.secluded_keeps (view.Same session)) (uses slot.channel) (session, peer) (.refl view _)
    simp only [carryOut, attend, found, keepLock_eq]
    exact (after.trans (View.modifySlot_same hidden _ _)).aside _ _ _ _

def beyond (session : Session) (id : Nat) : View where
  counted := True
  buffers index := ∀ slot, session.slot? id = some slot → index ≠ slot.buffer
  channels other := other ≠ id

theorem carryOut_beyond (task : Task π)
    (there : ∀ slot, t.slot? task.id = some slot →
      ∃ slot', s.slot? task.id = some slot' ∧ slot'.buffer = slot.buffer) :
    (s.beyond task.id).Same t (t.carryOut task).2 := by
  refine t.carryOut_leaves task (fun seen => seen rfl) (fun _ _ _ => trivial) fun slot found => ?_
  obtain ⟨slot', found', same⟩ := there slot found
  have unseen : ¬ (s.beyond task.id).buffers slot.buffer :=
    fun seen => seen slot' found' same.symm
  exact @View.place_unseen _ _ task.memory _ unseen t

/-- A task that alters no bytes shows in its channel and in a count of holders only. -/
theorem carryOut_besides (task : Task π) (unaltering : task.call.alters = false)
    (session : Session) : (besides task.id).Same session (session.carryOut task).2 := by
  have reads := (@Call.secluded_alters Session π task.call).trans unaltering
  refine session.carryOut_leaves task (fun seen => seen rfl)
    (fun _ _ found => Channel.reads_of_unaltering reads found) fun slot _ => ?_
  exact @View.place_uncounted _ _ task.memory (fun counted => counted) slot.buffer session

def freed? (session : Session) (task : Task π) : Option Nat :=
  (session.slot? task.id).bind fun slot =>
    if task.call.closes && slot.channel.isOpen then some slot.buffer else none

def freeing (freed? : Option Nat) (buffers : List Buffer) : List Buffer :=
  freed?.elim buffers (buffers.modify · Buffer.release)

theorem freeing_comm (first second : Option Nat) (buffers : List Buffer) :
    freeing first (freeing second buffers) = freeing second (freeing first buffers) := by
  cases first with
  | none => rfl
  | some index =>
    cases second with
    | none => rfl
    | some other =>
      by_cases own : index = other
      · rw [own]
      · exact List.modify_modify_ne _ _ _ (Ne.symm own)

theorem freed_same {task : Task π} (same : view.Same s t) (seen : view.channels task.id) :
    t.freed? task = s.freed? task := by
  cases found : s.slot? task.id with
  | none => simp only [freed?, found, same.noSlot seen found]
  | some slot =>
    obtain ⟨calls, there⟩ := same.slot seen found
    simp only [freed?, found, there, Option.bind_some]

theorem carryOut_buffers (session : Session) (task : Task π)
    (unaltering : task.call.alters = false) :
    (session.carryOut task).2.buffers = freeing (session.freed? task) session.buffers := by
  obtain ⟨memory, id, call, peer⟩ := task
  cases found : session.slot? id with
  | none =>
    simp only [carryOut, attend, freed?, found]
    rfl
  | some slot =>
    simp only [carryOut, attend, freed?, found, keepLock_buffers, Option.bind_some]
    cases stays : call.closes with
    | false =>
      -- No hold is given back, and the buffer is only read.
      have work : (place π slot.buffer).store.withoutRelease.KeepsIn (· = .reading)
          fun t => t.1.buffers = session.buffers := by
        apply Place.work_keepsIn <;> intro other <;> cases other
      have notes (noted : StoreCall) (t : Session × π) (before : t.1.buffers = session.buffers) :
          (note id noted t).1.buffers = session.buffers := before
      have reads := (@Call.secluded_alters Session π call).trans unaltering
      rw [← slot.channel.perform_withoutRelease _ _ ((call.secluded_closes).trans stays)]
      exact slot.channel.probed_keeps work notes slot.fixed
        (call.secluded_keeps fun t : Session => t.buffers = session.buffers)
        (fun _ found => Channel.reads_of_unaltering reads found) (session, peer) rfl
    | true =>
      have closing : call = .request .close := by
        cases call with
        | request plain => cases plain <;> first | rfl | cases stays
        | _ => cases stays
      subst closing
      simp only [Call.secluded, Channel.perform, Channel.serve, Channel.close]
      cases slot.channel.isOpen with
      | false => rfl
      | true =>
        have released := congrArg Session.buffers
          (modifyBuffer_eq session slot.buffer Buffer.release)
        exact released.symm

section

variable {a : Task π} {b : Task ρ}

/-- A task that comes after another one that it cannot see goes as it would have gone before. -/
theorem carryOut_late (first : view.Same s (s.carryOut a).2)
    (second : view.Same (s.carryOut b).2 ((s.carryOut b).2.carryOut a).2)
    (seen : view.channels b.id)
    (stored : ∀ slot, s.slot? b.id = some slot → view.buffers slot.buffer) :
    (s.carryOut b).1 = ((s.carryOut a).2.carryOut b).1 ∧
      view.Same ((s.carryOut a).2.carryOut b).2 ((s.carryOut b).2.carryOut a).2 := by
  obtain ⟨answer, after⟩ := carryOut_alike b first seen stored
  exact ⟨answer, after.symm.trans second⟩

section

variable (distinct : a.id ≠ b.id)

include distinct

theorem late_beyond (apart : ∀ x y, s.slot? a.id = some x → s.slot? b.id = some y →
      x.buffer ≠ y.buffer) :
    (s.carryOut b).1 = ((s.carryOut a).2.carryOut b).1 ∧
      (s.beyond a.id).Same ((s.carryOut a).2.carryOut b).2 ((s.carryOut b).2.carryOut a).2 := by
  have first : (s.beyond a.id).Same s (s.carryOut a).2 :=
    carryOut_beyond a fun slot found => ⟨slot, found, rfl⟩
  have other : (s.beyond b.id).Same s (s.carryOut b).2 :=
    carryOut_beyond b fun slot found => ⟨slot, found, rfl⟩
  have second : (s.beyond a.id).Same (s.carryOut b).2 ((s.carryOut b).2.carryOut a).2 := by
    refine carryOut_beyond a fun slot found => ?_
    obtain ⟨calls, there⟩ := other.symm.slot distinct found
    exact ⟨_, there, rfl⟩
  exact carryOut_late first second (Ne.symm distinct) fun y foundY x foundX =>
    (apart x y foundX foundY).symm

theorem late_besides (unaltering : a.call.alters = false) :
    (s.carryOut b).1 = ((s.carryOut a).2.carryOut b).1 ∧
      (besides a.id).Same ((s.carryOut a).2.carryOut b).2 ((s.carryOut b).2.carryOut a).2 :=
  carryOut_late (carryOut_besides a unaltering s) (carryOut_besides a unaltering _)
    (Ne.symm distinct) fun _ _ => trivial

end

/-- What two tasks leave behind in either order is the same if two views agree on it that together
show all channels. -/
theorem bareSlots_eq {left right : View} (first : left.Same s t) (second : right.Same s t)
    (all : ∀ id, left.channels id ∨ right.channels id) (id : Nat) :
    s.bareSlot? id = t.bareSlot? id := by
  rcases all id with seen | seen
  · exact first.bareSlot id seen
  · exact second.bareSlot id seen

/-- Two tasks on two channels may change places if the channels are over different buffers, or if
neither task is made to alter bytes. In either order each task is answered alike and leaves the same
of its peer, and both leave the same buffers with the same counts of holders, and the same channels
with the same cursors and open flags. -/
theorem independent_tasks_commute (distinct : a.id ≠ b.id)
    (apart : (∀ x y, s.slot? a.id = some x → s.slot? b.id = some y → x.buffer ≠ y.buffer) ∨
      a.call.alters = false ∧ b.call.alters = false) :
    let soonA := s.carryOut a
    let lateB := soonA.2.carryOut b
    let soonB := s.carryOut b
    let lateA := soonB.2.carryOut a
    lateA.1 = soonA.1 ∧ lateB.1 = soonB.1 ∧ lateB.2.buffers = lateA.2.buffers ∧
      lateB.2.handles = lateA.2.handles ∧ ∀ id, lateB.2.bareSlot? id = lateA.2.bareSlot? id := by
  intro soonA lateB soonB lateA
  have either (id : Nat) : id ≠ a.id ∨ id ≠ b.id := by
    rcases Decidable.em (id = a.id) with rfl | other
    · exact .inr distinct
    · exact .inl other
  rcases apart with apart | ⟨readsA, readsB⟩
  · have apart' : ∀ y x, s.slot? b.id = some y → s.slot? a.id = some x → y.buffer ≠ x.buffer :=
      fun y x foundY foundX => (apart x y foundX foundY).symm
    obtain ⟨answerB, sameA⟩ := late_beyond distinct apart
    obtain ⟨answerA, sameB⟩ := late_beyond (Ne.symm distinct) apart'
    refine ⟨answerA.symm, answerB.symm, ?_, sameA.handles, bareSlots_eq sameA sameB.symm either⟩
    -- A buffer that is not beyond the one task is the one that it works on.
    refine buffers_eq sameA.buffers_length fun index => ?_
    by_cases seen : (s.beyond a.id).buffers index
    · exact (sameA.buffer index seen).eq trivial
    · have seen : (s.beyond b.id).buffers index := by
        rintro y foundY rfl
        exact seen fun x foundX => apart' y x foundY foundX
      exact (sameB.symm.buffer index seen).eq trivial
  · obtain ⟨answerB, sameA⟩ := late_besides distinct readsA
    obtain ⟨answerA, sameB⟩ := late_besides (Ne.symm distinct) readsB
    refine ⟨answerA.symm, answerB.symm, ?_, sameA.handles, bareSlots_eq sameA sameB.symm either⟩
    have freedA := freed_same (carryOut_besides b readsB s) distinct
    have freedB := freed_same (carryOut_besides a readsA s) (Ne.symm distinct)
    rw [carryOut_buffers _ b readsB, carryOut_buffers _ a readsA, carryOut_buffers _ a readsA,
      carryOut_buffers _ b readsB, freedA, freedB, freeing_comm]

end

def piers : Session where
  buffers := [{ bytes := [1, 2, 3], holders := 3 }, { bytes := [4], holders := 2 }]
  handles := [some 0, some 1]
  slots :=
    [some { channel := .opened { read := true, write := true }, handle := 0, buffer := 0 },
      some { channel := .opened { read := true }, handle := 0, buffer := 0 },
      some { channel := .opened { append := true }, handle := 1, buffer := 1 }]

def filling : Task Bytes where
  memory := .standard
  id := 0
  call := .copyIn (fun slice left =>
    let moved := left.take slice.length
    (⟨.ok moved.length, moved⟩, left.drop slice.length)) 1 2
  peer := [7, 8, 9]

def growing : Task Unit :=
  ⟨.standard, 2, .request (.write [[5]]), ()⟩

def closing : Task Unit :=
  ⟨.standard, 0, .request .close, ()⟩

def draining : Task Bytes :=
  ⟨.standard, 1, .copyOut 0 3 fun offered taken => (.ok offered.length, taken ++ offered), []⟩

theorem piers_commute :
    let apart := (piers.carryOut growing).2.carryOut filling
    let shared := (piers.carryOut draining).2.carryOut closing
    apart.1.2 = [9] ∧
      ((piers.carryOut filling).2.carryOut growing).2.buffers.map (·.bytes) = [[1, 7, 8], [4, 5]] ∧
      ((piers.carryOut closing).2.carryOut draining).1.2 = [1, 2, 3] ∧
      shared.2.buffers.map (·.holders) = [2, 2] := by
  intro apart shared
  have distinct : ∀ x y, piers.slot? filling.id = some x → piers.slot? growing.id = some y →
      x.buffer ≠ y.buffer := by
    rintro _ _ ⟨⟩ ⟨⟩
    decide
  obtain ⟨fills, -, grown, -, -⟩ := independent_tasks_commute (by decide) (.inl distinct)
  obtain ⟨-, drains, freed, -, -⟩ := @independent_tasks_commute _ _ piers closing draining
    (by decide) (.inr ⟨rfl, rfl⟩)
  have filled : (piers.carryOut filling).1.2 = [9] := by decide +kernel
  have drained : (piers.carryOut draining).1.2 = [1, 2, 3] := by decide +kernel
  refine ⟨(congrArg (·.2) fills).trans filled, ?_, (congrArg (·.2) drains).trans drained, ?_⟩
  · rw [grown]
    decide +kernel
  · rw [← freed]
    decide +kernel

end Session

end SharedBytes
