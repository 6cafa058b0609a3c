import SharedBytes.Proofs.Session.Locks

/-!
# The fates of locks

A lock stays as it is until it is released or done away with, be it along with its channel. A step
grants at most one lock, under the next number, and does to each of the others what the operation
means for it. A channel stays as long as it has locks, for these go along with it.
-/

namespace SharedBytes

def LockOp.ends : LockOp → Bool
  | .release | .drop => true
  | _ => false

def HeldLock.released (held : HeldLock) : HeldLock :=
  { held with lock := held.lock.release }

theorem Request.asked_of_plain {request : Request} (plain : request.asksForLock = false) :
    request.asked? = none := by
  cases request <;> first | rfl | cases plain

namespace Op

variable {id : Nat} {held : HeldLock}

def ends (op : Op) (id : Nat) (held : HeldLock) : Bool :=
  match op with
  | .lock other op => other == id && op.ends
  | .channel owner .drop => held.channel == owner
  | _ => false

def fate (op : Op) (id : Nat) (held : HeldLock) : Option HeldLock :=
  match op with
  | .lock other op => if other = id then op.effect (some held) else some held
  | .channel owner .drop => if held.channel = owner then none else some held
  | _ => some held

/-- The lock that an operation was granted, as its result tells. -/
def granted? (op : Op) (result : StepResult) : Option HeldLock :=
  match op with
  | .channel owner (.request request) =>
    match result.outcome with
    | .ok (.id _) => request.asked?.map (HeldLock.mk owner)
    | _ => none
  | _ => none

theorem fate_spared {op : Op} (spared : op.ends id held = false) : op.fate id held = some held := by
  cases op with
  | lock other op =>
    simp only [fate]
    by_cases own : other = id
    · rw [if_pos own]
      cases op <;> first | rfl | simp [ends, own, LockOp.ends] at spared
    · rw [if_neg own]
  | channel owner op =>
    cases op with
    | drop =>
      have distinct : held.channel ≠ owner := by simpa [ends] using spared
      simp only [fate, if_neg distinct]
    | _ => rfl
  | _ => rfl

theorem fate_ended {op : Op} (ended : op.ends id held = true) :
    op.fate id held = none ∨ op.fate id held = some held.released := by
  cases op with
  | lock other op =>
    obtain ⟨own, ends⟩ := Bool.and_eq_true_iff.mp ended
    simp only [fate, if_pos (beq_iff_eq.mp own)]
    cases op <;> first | exact .inr rfl | exact .inl rfl | cases ends
  | channel owner op =>
    cases op with
    | drop =>
      left
      simp only [fate, if_pos (beq_iff_eq.mp ended)]
    | _ => cases ended
  | _ => cases ended

theorem fate_channel {op : Op} {later : HeldLock} (kept : op.fate id held = some later) :
    later.channel = held.channel ∧ op ≠ .channel held.channel .drop := by
  cases ends : op.ends id held with
  | false =>
    rw [fate_spared ends] at kept
    obtain rfl := Option.some.inj kept
    refine ⟨rfl, ?_⟩
    rintro rfl
    simp [Op.ends] at ends
  | true =>
    rcases fate_ended ends with gone | released
    · rw [gone] at kept
      cases kept
    · rw [released] at kept
      obtain rfl := Option.some.inj kept
      refine ⟨rfl, ?_⟩
      rintro rfl
      simp [fate] at released

theorem fate_released {op : Op} :
    op.fate id held.released = none ∨ op.fate id held.released = some held.released := by
  cases ends : op.ends id held.released with
  | false => exact .inr (fate_spared ends)
  | true => exact fate_ended ends

theorem granted_valid {op : Op} {result : StepResult} (granted : op.granted? result = some held) :
    held.lock.valid = true := by
  have fresh {request : Request} {owner : Nat}
      (asked : request.asked?.map (HeldLock.mk owner) = some held) : held.lock.valid = true := by
    obtain ⟨lock, asked, rfl⟩ := Option.map_eq_some_iff.mp asked
    cases request <;> first | cases asked; rfl | cases asked
  unfold granted? at granted
  split at granted
  · split at granted
    · exact fresh granted
    · cases granted
  · cases granted

theorem granted_plain {op : Op} (plain : op.asksForLock = false) (result : StepResult) :
    op.granted? result = none := by
  cases op with
  | channel owner op =>
    cases op with
    | request request =>
      have unasked : request.asked? = none := Request.asked_of_plain plain
      simp only [granted?, unasked, Option.map_none]
      split <;> rfl
    | _ => rfl
  | _ => rfl

end Op

namespace Session

variable {s t u : Session} {id : Nat} {slot : Slot}

def Stays (s t : Session) : Prop :=
  ∀ id, (s.slot? id).isSome → (t.slot? id).isSome

theorem modifySlot_stays (s : Session) (id : Nat) (change : Slot → Slot) :
    Stays s (s.modifySlot id change) := by
  intro other there
  rw [slot_modifySlot]
  by_cases own : other = id
  · rw [if_pos own, Option.isSome_map, ← own]
    exact there
  · rw [if_neg own]
    exact there

theorem push_stays (s : Session) (slot : Slot) :
    Stays s { s with slots := s.slots ++ [some slot] } := by
  intro other there
  rw [slot_push]
  by_cases new : other = s.slots.length
  · rw [if_pos new]
    rfl
  · rw [if_neg new]
    exact there

theorem Stays.trans (first : Stays s t) (second : Stays t u) : Stays s u :=
  fun id there => second id (first id there)

theorem settle_stays {π α : Type} {reply : Reply (Session × π) α}
    (stays : Stays s reply.state.1) : Stays s (settle id reply).1 :=
  stays.trans (modifySlot_stays reply.state.1 id _)

theorem stays_extends (id : Nat) : Extends Stays id := by
  intro s t u reached touch
  cases touch with
  | store | record => exact reached
  | turn change => exact reached.trans (modifySlot_stays t id change)

theorem Quietly.stays (quietly : Quietly s t) : Stays s t := by
  induction quietly with
  | refl => exact fun _ there => there
  | tail _ quiet induction =>
    obtain ⟨id, touch⟩ := quiet
    exact stays_extends id _ _ _ induction touch

section

variable [Memory]

theorem dropChannel_stays (s : Session) {id other : Nat} (distinct : other ≠ id)
    (there : (s.slot? other).isSome) : ((s.dropChannel id).slot? other).isSome := by
  cases found : s.slot? id with
  | none =>
    simp only [dropChannel, found]
    exact there
  | some slot =>
    obtain ⟨locks, log, dropped⟩ := s.dropLocksOf_aside id
    have released : Stays s
        (slot.channel.drop (slot.store id) (({ s with locks, log } : Session), ())).state.1 := by
      rw [Channel.drop]
      cases slot.channel.isOpen <;> exact fun _ there => there
    simp only [dropChannel, found, dropped, slot_remove, if_neg distinct]
    exact settle_stays released other there

theorem runChannel_stays (found : s.slot? id = some slot) {op : ChannelOp} (other : Nat)
    (spared : op ≠ .drop ∨ other ≠ id) (there : (s.slot? other).isSome) :
    ((s.runChannel id slot op).2.slot? other).isSome := by
  have rest : Stays s s := fun _ there => there
  cases op with
  | drop =>
    have distinct := spared.resolve_left (fun kept => kept rfl)
    exact dropChannel_stays s distinct there
  | copyOut position count sink =>
    exact copyOut_during stays_extends found position count sink rest other there
  | copyIn source position count =>
    exact copyIn_during stays_extends found source position count rest other there
  | request request =>
    simp only [runChannel, keepLock_eq]
    cases stays : (Call.request request : Call (Session × Unit)).closes with
    | false =>
      exact request_during (stays_extends id) found request stays () rest other there
    | true =>
      obtain rfl := Call.eq_close stays
      have released : Stays s (slot.channel.close (slot.store id) (s, ())).state.1 := by
        rw [Channel.close]
        cases slot.channel.isOpen <;> exact rest
      exact settle_stays released other there
  | _ => exact there

theorem perform_stays (s : Session) {op : Op} (other : Nat) (spared : op ≠ .channel other .drop)
    (there : (s.slot? other).isSome) : ((s.perform op).2.slot? other).isSome := by
  cases op with
  | create origin => exact there
  | lock id op =>
    obtain ⟨locks, log, aside⟩ := s.runLock_aside id op
    simp only [perform, aside]
    exact there
  | openChannel handle capabilities fixed traced =>
    simp only [perform, openChannel]
    cases s.handle? handle with
    | none => exact there
    | some index => exact push_stays (s.modifyBuffer index Buffer.hold) _ other there
  | buffer handle op =>
    simp only [perform]
    cases s.handle? handle with
    | none => exact there
    | some index =>
      cases shares : op.shares with
      | false => exact (runBuffer_quietly handle index shares).stays other there
      | true => cases op <;> first | exact there | cases shares
  | channel id op =>
    cases found : s.slot? id with
    | none =>
      simp only [perform, found]
      exact there
    | some slot =>
      simp only [perform, found]
      refine runChannel_stays found other ?_ there
      by_cases drop : op = .drop
      · exact .inr fun own => spared (by rw [drop, own])
      · exact .inl drop

theorem step_stays (s : Session) {op : Op} (other : Nat) (spared : op ≠ .channel other .drop)
    (there : (s.slot? other).isSome) : ((s.step op).2.slot? other).isSome := by
  have after := perform_stays { s with log := [] } other spared there
  cases op with
  | channel id op => exact modifySlot_stays _ id _ other after
  | _ => exact after

end

structure Relocks (s : Session) (op : Op) (granted : List HeldLock) (t : Session) : Prop where
  length : t.locks.length = s.locks.length + granted.length
  old : ∀ id < s.locks.length, t.lock? id = (s.lock? id).bind (op.fate id)
  new : ∀ id, s.locks.length ≤ id → t.lock? id = granted[id - s.locks.length]?

theorem relocks_of_locks {op : Op} {granted : List HeldLock} {kept : List (Option HeldLock)}
    (locks : t.locks = kept ++ granted.map some) (even : kept.length = s.locks.length)
    (fates : ∀ id, kept[id]?.join = (s.lock? id).bind (op.fate id)) :
    Relocks s op granted t where
  length := by simp [locks, even]
  old id inside := by
    rw [lock?, locks, List.getElem?_append_left (even ▸ inside)]
    exact fates id
  new id beyond := by
    rw [lock?, locks, List.getElem?_append_right (even ▸ beyond), even, List.getElem?_map]
    cases granted[id - s.locks.length]? <;> rfl

def Attached (s : Session) : Prop :=
  ∀ id held, s.lock? id = some held → (s.slot? held.channel).isSome

theorem fate_outlives {op : Op} (unlocking : op.lock? = none) {held : HeldLock}
    (there : (s.slot? held.channel).isSome) (id : Nat) :
    op.fate id held = Option.filter (s.outlives op) (some held) := by
  cases op with
  | lock => cases unlocking
  | channel owner op =>
    cases op with
    | drop =>
      by_cases own : held.channel = owner
      · subst own
        have gone : s.outlives (.channel held.channel .drop) held = false := by
          simp [outlives, there]
        rw [Option.filter_some, gone]
        exact if_pos rfl
      · have spared : s.outlives (.channel owner .drop) held = true := by
          simp [outlives, own]
        rw [Option.filter_some, spared]
        exact if_neg own
    | _ => rfl
  | _ => rfl

section

variable [Memory]

theorem lock_relocks (s : Session) (number : Nat) (op : LockOp) :
    Relocks s (.lock number op) [] (s.step (.lock number op)).2 := by
  have locks : (s.step (.lock number op)).2.locks = s.locks.modify number op.effect :=
    runLock_locks { s with log := [] } number op
  have nothing : op.effect none = none := by cases op <;> rfl
  apply relocks_of_locks (locks.trans (List.append_nil _).symm) (List.length_modify ..)
  intro id
  by_cases own : number = id
  · subst own
    rw [lock_modify nothing]
    cases s.lock? number with
    | none => exact nothing
    | some held => simp [Op.fate]
  · have other : (s.locks.modify number op.effect)[id]?.join = s.lock? id := by
      simp only [lock?, List.getElem?_modify, if_neg own, id_map']
    rw [other]
    cases s.lock? id with
    | none => rfl
    | some held => simp [Op.fate, own]

theorem plain_relocks (attached : s.Attached) {op : Op} (unlocking : op.lock? = none)
    (plain : op.asksForLock = false) : Relocks s op [] (s.step op).2 := by
  have locks := step_locks s unlocking plain
  apply relocks_of_locks (locks.trans (List.append_nil _).symm) (List.length_map ..)
  intro id
  rw [List.getElem?_map, lock?]
  cases there : s.locks[id]? with
  | none => rfl
  | some held =>
    cases held with
    | none => rfl
    | some held =>
      have found : s.lock? id = some held := by rw [lock?, there]; rfl
      exact (fate_outlives unlocking (attached id held found) id).symm

theorem request_relocks (s : Session) (owner : Nat) {request : Request}
    (asks : request.asksForLock = true) :
    let op := Op.channel owner (.request request)
    Relocks s op (op.granted? (s.step op).1.toStepResult).toList (s.step op).2 := by
  intro op
  have fates (id : Nat) : s.locks[id]?.join = (s.lock? id).bind (op.fate id) :=
    (Option.bind_fun_some _).symm
  obtain ⟨lock, asked⟩ := Request.asked_of_asks asks
  cases found : s.slot? owner with
  | none =>
    obtain ⟨result, locks, -⟩ := step_absent found (.request request)
    have ungranted : op.granted? (s.step op).1.toStepResult = none := by
      rw [result]
      rfl
    rw [ungranted]
    exact relocks_of_locks (locks.trans (List.append_nil _).symm) rfl fates
  | some slot =>
    obtain ⟨-, came⟩ := step_lock found asked
    cases verdict : slot.channel.refusal? lock.requirement lock.arguments with
    | some failure =>
      simp only [verdict] at came
      obtain ⟨result, locks⟩ := came
      have ungranted : op.granted? (s.step op).1.toStepResult = none := by
        rw [result]
        rfl
      rw [ungranted]
      exact relocks_of_locks (locks.trans (List.append_nil _).symm) rfl fates
    | none =>
      simp only [verdict] at came
      obtain ⟨result, locks⟩ := came
      have granted : op.granted? (s.step op).1.toStepResult = some ⟨owner, lock⟩ := by
        rw [result]
        simp [op, Op.granted?, StepResult.ok, asked]
      rw [granted]
      exact relocks_of_locks locks rfl fates

/-- A step grants at most one lock, under the next number, and each other lock meets its fate. -/
theorem step_relocks (attached : s.Attached) (op : Op) :
    Relocks s op (op.granted? (s.step op).1.toStepResult).toList (s.step op).2 := by
  have ungranted (plain : op.asksForLock = false) :
      op.granted? (s.step op).1.toStepResult = none := Op.granted_plain plain _
  cases op with
  | lock number op =>
    rw [ungranted rfl]
    exact lock_relocks s number op
  | channel owner op =>
    cases asks : (Op.channel owner op).asksForLock with
    | true =>
      cases op with
      | request request => exact request_relocks s owner asks
      | _ => cases asks
    | false =>
      rw [ungranted asks]
      exact plain_relocks attached rfl asks
  | _ =>
    rw [ungranted rfl]
    exact plain_relocks attached rfl rfl

/-- A lock is granted by a channel that is there, and gets the next number. -/
theorem granted_there {op : Op} {held : HeldLock}
    (granted : op.granted? (s.step op).1.toStepResult = some held) :
    (s.slot? held.channel).isSome ∧ op ≠ .channel held.channel .drop ∧
      (s.step op).1.outcome = .ok (.id s.locks.length) := by
  cases op with
  | channel owner op =>
    cases op with
    | request request =>
      simp only [Op.granted?] at granted
      split at granted
      · rename_i number outcome
        obtain ⟨lock, asked, rfl⟩ := Option.map_eq_some_iff.mp granted
        cases found : s.slot? owner with
        | none =>
          obtain ⟨result, -⟩ := step_absent found (.request request)
          rw [result] at outcome
          cases outcome
        | some slot =>
          refine ⟨rfl, nofun, ?_⟩
          obtain ⟨-, came⟩ := step_lock found asked
          cases verdict : slot.channel.refusal? lock.requirement lock.arguments with
          | some failure =>
            simp only [verdict] at came
            rw [came.1] at outcome
            cases outcome
          | none =>
            simp only [verdict] at came
            rw [came.1]
            rfl
      · cases granted
    | _ => cases granted
  | _ => cases granted

theorem step_attached (attached : s.Attached) (op : Op) : (s.step op).2.Attached := by
  have relocks := step_relocks attached op
  intro id held found
  by_cases old : id < s.locks.length
  · rw [relocks.old id old] at found
    obtain ⟨before, found, kept⟩ := Option.bind_eq_some_iff.mp found
    obtain ⟨same, stays⟩ := Op.fate_channel kept
    rw [same]
    exact step_stays s before.channel stays (attached id before found)
  · rw [relocks.new id (Nat.le_of_not_lt old)] at found
    obtain ⟨there, stays, -⟩ := granted_there (Option.mem_toList.mp (List.mem_of_getElem? found))
    exact step_stays s held.channel stays there

end

end Session

end SharedBytes
