import SharedBytes.Proofs.Session.Changes
import SharedBytes.Proofs.Session.Redaction

/-!
# Courses of a session

A course is all that may happen to a session: steps, and transfers whose peers come from outside.
Such a peer may do to the session whatever a course may do, steps and further transfers included. It
only leaves the channel alone that calls it, which is busy as long as the transfer lasts. A peer may
report what it likes, so transfers that fail or are cut short are part of a course.
-/

namespace SharedBytes.Session

/-- From one session to a later one, with whatever room memory has at each step. -/
inductive Course : Session → Session → Prop
  | rest (s : Session) : Course s s
  | andThen {s t u : Session} (first : Course s t) (second : Course t u) : Course s u
  | step (memory : Memory) (op : Op) (s : Session) : Course s (s.step op).2
  | copyOut {ω : Type} (memory : Memory) (id position count : Nat) (sink : Sink (Session × ω))
      (peer : ∀ offered t, Course t.1 (sink offered t).2.1)
      (aloof : ∀ offered t, (sink offered t).2.1.bareSlot? id = t.1.bareSlot? id)
      (s : Session × ω) :
      Course s.1 (attend s ⟨memory, id, .copyOut position count sink⟩).2.1
  | copyIn {ω : Type} (memory : Memory) (id position count : Nat) (source : Source (Session × ω))
      (peer : ∀ slice t, Course t.1 (source slice t).2.1)
      (aloof : ∀ slice t, (source slice t).2.1.bareSlot? id = t.1.bareSlot? id)
      (s : Session × ω) :
      Course s.1 (attend s ⟨memory, id, .copyIn source position count⟩).2.1
  | bufferCopyOut {ω : Type} (memory : Memory) (index position count : Nat)
      (sink : Sink (Session × ω)) (peer : ∀ offered t, Course t.1 (sink offered t).2.1)
      (s : Session × ω) :
      Course s.1 ((place ω index).copyOut position count sink s).2.1
  | bufferCopyIn {ω : Type} (memory : Memory) (index position count : Nat)
      (source : Source (Session × ω)) (peer : ∀ slice t, Course t.1 (source slice t).2.1)
      (s : Session × ω) :
      Course s.1 ((place ω index).copyIn source position count s).2.1
  | bufferCopyInAtEnd {ω : Type} (memory : Memory) (index count : Nat)
      (source : Source (Session × ω)) (peer : ∀ slice t, Course t.1 (source slice t).2.1)
      (s : Session × ω) :
      Course s.1 ((place ω index).copyInAtEnd source count s).2.1

namespace Course

variable {ω : Type} {s t : Session}

theorem changes_extends (id : Nat) : Extends Changes id :=
  fun _ _ _ reached touch => reached.tail (.calm (.quiet ⟨id, touch⟩))

/-- An errand that does not close its channel comes down to changes, if what its peer does comes
down to changes. -/
theorem errand_changes (memory : Memory) (id : Nat) (call : Call (Session × ω))
    (stays : call.closes = false) (s : Session × ω)
    (peer : call.Keeps (During Changes s.1 id fun _ => True)) :
    Changes s.1 (attend s ⟨memory, id, call⟩).2.1 := by
  cases found : s.1.slot? id with
  | none =>
    simp only [attend, found]
    exact .refl
  | some slot =>
    simp only [attend, found]
    have during := call_during (changes_extends id) found call stays peer s.2 trivial .refl
    exact during.1.trans (keepLock_calmly _).changes

theorem stored_changes [Memory] (origin : Session) (index : Nat) :
    (place ω index).store.withoutRelease.KeepsIn (fun _ => True) fun t => Changes origin t.1 :=
  place_work index fun buffer _ holders before =>
    before.tail (.calm (.quiet ⟨0, .store index buffer holders⟩))

theorem changes (course : Course s t) : Changes s t := by
  induction course with
  | rest s => exact .refl
  | andThen _ _ first second => exact first.trans second
  | step memory op s => exact step_changes op
  | copyOut memory id position count sink _ aloof s induction =>
    exact errand_changes memory id (.copyOut position count sink) rfl s fun offered t before =>
      ⟨before.course.trans (induction offered t), (aloof offered t).trans before.bareSlot, trivial⟩
  | copyIn memory id position count source _ aloof s induction =>
    exact errand_changes memory id (.copyIn source position count) rfl s fun slice t before =>
      ⟨before.course.trans (induction slice t), (aloof slice t).trans before.bareSlot, trivial⟩
  | bufferCopyOut memory index position count sink _ s induction =>
    exact (stored_changes s.1 index).copyOut trivial position count sink
      (fun offered t before => before.trans (induction offered t)) s .refl
  | bufferCopyIn memory index position count source _ s induction =>
    exact (stored_changes s.1 index).copyIn trivial source position count
      (fun slice t before => before.trans (induction slice t)) s .refl
  | bufferCopyInAtEnd memory index count source _ s induction =>
    exact (stored_changes s.1 index).copyInAtEnd trivial source count
      (fun slice t before => before.trans (induction slice t)) s .refl

theorem run (memory : Memory) (ops : List Op) (s : Session) : Course s (s.run ops).2 := by
  induction ops generalizing s with
  | nil => exact .rest s
  | cons op ops induction => exact (step memory op s).andThen (induction _)

end Course

/-- The channel `id` stands as `channel` does, or is gone, and its number is not given out again. -/
structure Shut (id : Nat) (channel : Channel) (s : Session) : Prop where
  known : id < s.slots.length
  stays : ∀ later, s.channel? id = some later → later = channel

section

variable {s t : Session} {id : Nat} {channel : Channel}

theorem channel_modifySlot (s : Session) (id other : Nat) (change : Slot → Slot) :
    (s.modifySlot id change).channel? other =
      if other = id then (s.slot? id).map fun slot => (change slot).channel
      else s.channel? other := by
  unfold channel?
  rw [slot_modifySlot]
  by_cases own : other = id
  · rw [if_pos own, if_pos own, Option.map_map]
    rfl
  · rw [if_neg own, if_neg own]

theorem channel_of_slot {slot : Slot} (found : s.slot? id = some slot) :
    s.channel? id = some slot.channel := by
  rw [channel?, found]
  rfl

theorem Shut.isClosed (shut : s.Shut id channel) (closed : channel.isOpen = false) {slot : Slot}
    (found : s.slot? id = some slot) : slot.channel.isOpen = false := by
  rw [shut.stays slot.channel (channel_of_slot found)]
  exact closed

/-- No change opens a closed channel again, moves its cursor or gives its number away. -/
theorem Change.shut (closed : channel.isOpen = false) (change : Change s t)
    (shut : s.Shut id channel) : t.Shut id channel := by
  cases change with
  | create origin => exact ⟨shut.known, shut.stays⟩
  | clone found => exact ⟨shut.known, shut.stays⟩
  | dropHandle found => exact ⟨shut.known, shut.stays⟩
  | openChannel slot found isOpen =>
    refine ⟨?_, fun later there => shut.stays later ?_⟩
    · rw [List.length_append]
      exact Nat.lt_add_right _ shut.known
    · have pushed := (slot_push (s.modifyBuffer slot.buffer Buffer.hold) slot id).trans
        (if_neg (Nat.ne_of_lt shut.known))
      exact (congrArg (Option.map fun slot : Slot => slot.channel) pushed).symm.trans there
  | @close other slot found isOpen =>
    refine ⟨?_, fun later there => shut.stays later ?_⟩
    · simpa only [Session.closed, modifySlot, modifyBuffer, List.length_modify] using shut.known
    · have distinct : id ≠ other := by
        rintro rfl
        cases isOpen.symm.trans (shut.isClosed closed found)
      rw [Session.closed, channel_modifySlot, if_neg distinct] at there
      exact there
  | calm calm =>
    cases calm with
    | relock locks => exact ⟨shut.known, shut.stays⟩
    | @remove other slot found gone =>
      refine ⟨?_, fun later there => shut.stays later ?_⟩
      · simpa only [List.length_set] using shut.known
      · rw [channel?, slot_remove] at there
        by_cases own : id = other
        · rw [if_pos own] at there
          cases there
        · rw [if_neg own] at there
          exact there
    | quiet quiet =>
      obtain ⟨other, touch⟩ := quiet
      cases touch with
      | store index buffer holders => exact ⟨shut.known, shut.stays⟩
      | record log => exact ⟨shut.known, shut.stays⟩
      | turn change turns =>
        refine ⟨?_, fun later there => ?_⟩
        · simpa only [modifySlot, List.length_modify] using shut.known
        · rw [channel_modifySlot] at there
          by_cases own : id = other
          · subst own
            cases found : s.slot? id with
            | none =>
              rw [if_pos rfl, found] at there
              cases there
            | some slot =>
              rw [if_pos rfl, found] at there
              cases there
              exact ((turns slot found).closed (shut.isClosed closed found)).trans
                (shut.stays _ (channel_of_slot found))
          · rw [if_neg own] at there
            exact shut.stays later there

theorem Changes.shut (closed : channel.isOpen = false) (changes : Changes s t)
    (before : s.Shut id channel) : t.Shut id channel := by
  induction changes with
  | refl => exact before
  | tail _ change induction => exact change.shut closed induction

theorem Course.shut (closed : channel.isOpen = false) (course : Course s t)
    (before : s.Shut id channel) : t.Shut id channel :=
  Changes.shut closed course.changes before

theorem slot_inRange {slot : Slot} (found : s.slot? id = some slot) : id < s.slots.length :=
  (List.getElem?_eq_some_iff.mp (slot_getElem found)).1

theorem shut_of_slot {slot : Slot} (found : s.slot? id = some slot) :
    s.Shut id slot.channel := by
  refine ⟨slot_inRange found, fun later there => ?_⟩
  rw [channel_of_slot found] at there
  exact (Option.some.inj there).symm

theorem closed_shut {slot : Slot} (found : s.slot? id = some slot) :
    (s.closed id slot).Shut id { slot.channel with isOpen := false } := by
  have there : (s.modifyBuffer slot.buffer Buffer.release).slot? id = some slot := found
  have shut : (s.closed id slot).slot? id =
      some { slot with channel := { slot.channel with isOpen := false } } := by
    rw [Session.closed, slot_modifySlot, if_pos rfl, there]
    rfl
  exact shut_of_slot shut

/-- A channel that has just been closed is closed for good, with its cursor where it was. -/
theorem close_shuts [Memory] {slot : Slot} (found : s.slot? id = some slot) :
    (s.step (.channel id (.request .close))).2.Shut id { slot.channel with isOpen := false } := by
  have there : ({ s with log := [] } : Session).slot? id = some slot := found
  have calmly := runChannel_calmly there (.request .close)
  have start : (if slot.channel.isOpen then ({ s with log := [] } : Session).closed id slot
      else { s with log := [] }).Shut id { slot.channel with isOpen := false } := by
    cases isOpen : slot.channel.isOpen with
    | true => exact closed_shut there
    | false =>
      have same : ({ slot.channel with isOpen := false } : Channel) = slot.channel := by
        rw [← isOpen]
      rw [same]
      exact shut_of_slot there
  have performed : ({ s with log := [] } : Session).perform (.channel id (.request .close)) =
      ({ s with log := [] } : Session).runChannel id slot (.request .close) := by
    simp only [perform, there]
  have shut := Changes.shut rfl calmly.changes start
  rw [← performed] at shut
  exact Change.shut rfl (.calm (.quiet (forget_quiet id))) shut

end

end SharedBytes.Session
