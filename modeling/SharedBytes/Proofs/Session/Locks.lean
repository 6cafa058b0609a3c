import SharedBytes.Proofs.Session.Changes

/-!
# Locks exclude nothing

A lock is a note that a channel hands out. From a session's operations, leave out any of those that
ask for a lock, and with them all that is done with the locks they were granted: the operations that
are left are answered as before, and leave the same buffers and channels behind. Only the numbers of
the later locks move up. And a lock is granted whenever the channel allows it, whatever other locks
there are.
-/

namespace SharedBytes

section

variable {α : Type}

def sift : List Bool → List α → List α
  | keep :: kept, x :: xs => if keep then x :: sift kept xs else sift kept xs
  | _, _ => []

def rank (kept : List Bool) (i : Nat) : Nat :=
  (kept.take i).count true

theorem sift_all (xs : List α) : sift (List.replicate xs.length true) xs = xs := by
  induction xs with
  | nil => rfl
  | cons x xs induction =>
    simp only [List.length_cons, List.replicate_succ, sift, if_true, induction]

theorem sift_map (kept : List Bool) (xs : List α) (f : α → α) :
    sift kept (xs.map f) = (sift kept xs).map f := by
  induction kept generalizing xs with
  | nil => simp [sift]
  | cons keep kept induction =>
    cases xs with
    | nil => rfl
    | cons x xs => cases keep <;> simp [sift, induction]

theorem sift_append {kept : List Bool} {xs : List α} (even : kept.length = xs.length) (keep : Bool)
    (ys : List α) :
    sift (kept ++ List.replicate ys.length keep) (xs ++ ys) =
      sift kept xs ++ if keep then ys else [] := by
  induction kept generalizing xs with
  | nil =>
    obtain rfl := List.length_eq_zero_iff.mp even.symm
    cases keep with
    | true => simp only [List.nil_append, sift_all, sift, if_true]
    | false =>
      simp only [List.nil_append, sift, if_neg Bool.false_ne_true]
      induction ys with
      | nil => rfl
      | cons y ys induction => exact induction
  | cons first kept induction =>
    cases xs with
    | nil => cases even
    | cons x xs =>
      have rest := induction (Nat.succ.inj even)
      cases first <;> simp [sift, rest]

theorem rank_kept (kept : List Bool) (i : Nat) : rank (true :: kept) (i + 1) = rank kept i + 1 := by
  simp [rank]

theorem rank_gap (kept : List Bool) (i : Nat) : rank (false :: kept) (i + 1) = rank kept i := by
  simp [rank]

section

variable {kept : List Bool} {xs : List α} (even : kept.length = xs.length)

include even

theorem length_sift : (sift kept xs).length = kept.count true := by
  induction kept generalizing xs with
  | nil => simp [sift]
  | cons keep kept induction =>
    cases xs with
    | nil => cases even
    | cons x xs =>
      have rest := induction (Nat.succ.inj even)
      cases keep <;> simp [sift, rest]

/-- What is kept is found at its new place. -/
theorem sift_getElem? {i : Nat} (keeps : kept[i]? ≠ some false) :
    (sift kept xs)[rank kept i]? = xs[i]? := by
  induction kept generalizing xs i with
  | nil =>
    obtain rfl := List.length_eq_zero_iff.mp even.symm
    rfl
  | cons keep kept induction =>
    cases xs with
    | nil => cases even
    | cons x xs =>
      cases i with
      | zero =>
        cases keep with
        | true => rfl
        | false => exact absurd rfl keeps
      | succ i =>
        have rest := induction (Nat.succ.inj even) keeps
        cases keep with
        | true => simpa [sift, rank_kept] using rest
        | false => simpa [sift, rank_gap] using rest

theorem sift_modify {i : Nat} (keeps : kept[i]? ≠ some false) (f : α → α) :
    sift kept (xs.modify i f) = (sift kept xs).modify (rank kept i) f := by
  induction kept generalizing xs i with
  | nil =>
    obtain rfl := List.length_eq_zero_iff.mp even.symm
    simp [sift]
  | cons keep kept induction =>
    cases xs with
    | nil => cases even
    | cons x xs =>
      cases i with
      | zero =>
        cases keep with
        | true => rfl
        | false => exact absurd rfl keeps
      | succ i =>
        have rest := induction (Nat.succ.inj even) keeps
        cases keep with
        | true => simpa [sift, rank_kept] using rest
        | false => simpa [sift, rank_gap] using rest

end

theorem sift_modify_gap {kept : List Bool} {i : Nat} (gap : kept[i]? = some false) (xs : List α)
    (f : α → α) : sift kept (xs.modify i f) = sift kept xs := by
  induction kept generalizing xs i with
  | nil => cases gap
  | cons keep kept induction =>
    cases xs with
    | nil => cases i <;> rfl
    | cons x xs =>
      cases i with
      | zero =>
        obtain rfl : keep = false := Option.some.inj gap
        rfl
      | succ i =>
        have rest := induction gap xs
        cases keep <;> simpa [sift] using rest

end

def Request.asked? : Request → Option RangeLock
  | lock start length shared => some { position := start, size := length, shared }
  | tryLock start length shared => some { position := start, size := length, shared }
  | _ => none

def RangeLock.requirement (lock : RangeLock) : Requirement :=
  if lock.shared then .readable else .writable

def RangeLock.arguments (lock : RangeLock) : List Argument :=
  [("position", lock.position), ("size", lock.size)]

theorem Request.asked_of_asks {request : Request} (asks : request.asksForLock = true) :
    ∃ lock, request.asked? = some lock := by
  cases request <;> first | exact ⟨_, rfl⟩ | cases asks

theorem Channel.serve_lock {σ : Type} (store : Store σ) (channel : Channel) (s : σ)
    {request : Request} {lock : RangeLock} (asked : request.asked? = some lock) :
    let reply := channel.serve store s request
    reply.channel = channel ∧ reply.state = s ∧ reply.result =
      match channel.refusal? lock.requirement lock.arguments with
      | some failure => .error (.channel failure)
      | none => .ok (.granted lock) := by
  cases request with
  | lock position size shared | tryLock position size shared =>
    obtain rfl := Option.some.inj asked
    refine ⟨channel.lock_channel .., channel.lock_state .., ?_⟩
    simp only [serve, lock, attempt, RangeLock.requirement, RangeLock.arguments]
    cases channel.refusal? (if shared then .readable else .writable)
      [("position", position), ("size", size)] <;> rfl
  | _ => cases asked

namespace Session

variable [Memory] {s t : Session} {id : Nat} {slot : Slot}

/-- What comes of a request for a lock, which no other lock has a part in. -/
theorem runChannel_lock (found : s.slot? id = some slot) {request : Request} {lock : RangeLock}
    (asked : request.asked? = some lock) :
    ∃ log, s.runChannel id slot (.request request) =
      match slot.channel.refusal? lock.requirement lock.arguments with
      | some failure => ({ outcome := .error (.call (.channel failure)) }, { s with log })
      | none =>
        ({ outcome := .ok (.id s.locks.length) },
          { s with locks := s.locks ++ [some ⟨id, lock⟩], log }) := by
  obtain ⟨channel, state, result⟩ := slot.channel.serve_lock (slot.store id) (s, ()) asked
  have slices : request.slices? = none := by
    cases request <;> first | rfl | cases asked
  simp only [runChannel, Channel.perform, slices, Option.map_none]
  rw [settle_unmoved found channel state, result]
  cases slot.channel.refusal? lock.requirement lock.arguments with
  | some failure => exact ⟨_, rfl⟩
  | none => exact ⟨_, rfl⟩

def unlocked : View where
  counted := True
  buffers _ := True
  channels _ := True

end Session

def LockOp.effect : LockOp → Option HeldLock → Option HeldLock
  | .release, held => held.map fun held => { held with lock := held.lock.release }
  | .drop, _ => none
  | _, held => held

namespace Session

variable {s t : Session} {id other : Nat} {slot : Slot}

section

variable {change change' : Option HeldLock → Option HeldLock}

theorem locks_congr (same : change (s.lock? id) = change' (s.lock? id)) :
    s.locks.modify id change = s.locks.modify id change' :=
  modify_congr fun held there => by
    rw [lock?, there, Option.join_some] at same
    exact same

theorem locks_idle (idle : change (s.lock? id) = s.lock? id) :
    s.locks.modify id change = s.locks :=
  (locks_congr idle).trans (List.modify_id id s.locks)

theorem lock_modify (nothing : change none = none) :
    (s.locks.modify id change)[id]?.join = change (s.lock? id) := by
  rw [List.getElem?_modify_eq, lock?]
  cases s.locks[id]? with
  | none => exact nothing.symm
  | some held => rfl

end

theorem releaseLock_locks (s : Session) (id : Nat) :
    (s.releaseLock id).locks = s.locks.modify id LockOp.release.effect := by
  cases found : s.lock? id with
  | none =>
    have idle : LockOp.release.effect (s.lock? id) = s.lock? id := by rw [found]; rfl
    rw [locks_idle idle]
    simp only [releaseLock, found]
  | some held =>
    simp only [releaseLock, found]
    cases valid : held.lock.valid with
    | true => rfl
    | false =>
      have idle : LockOp.release.effect (s.lock? id) = s.lock? id := by
        obtain ⟨channel, position, size, shared, _⟩ := held
        cases valid
        rw [found]
        rfl
      exact (locks_idle idle).symm

theorem dropLock_locks (s : Session) (id : Nat) :
    (s.dropLock id).locks = s.locks.modify id LockOp.drop.effect := by
  simp only [dropLock, releaseLock_locks]
  apply List.ext_getElem?
  intro other
  simp only [List.getElem?_set, List.getElem?_modify, List.length_modify]
  by_cases own : id = other
  · subst own
    by_cases there : id < s.locks.length
    · simp [there, LockOp.effect]
    · simp [there]
  · simp [own]

theorem runLock_locks (s : Session) (id : Nat) (op : LockOp) :
    (s.runLock id op).2.locks = s.locks.modify id op.effect := by
  cases found : s.lock? id with
  | none =>
    have idle : op.effect (s.lock? id) = s.lock? id := by
      rw [found]
      cases op <;> rfl
    rw [locks_idle idle]
    simp only [runLock, found]
  | some held =>
    have same : s.locks.modify id (fun held => held) = s.locks := List.modify_id ..
    simp only [runLock, found]
    cases op with
    | release => exact releaseLock_locks s id
    | drop => exact dropLock_locks s id
    | _ => exact same.symm

theorem runLock_answer {number : Nat} (same : s.lock? id = t.lock? number) (op : LockOp) :
    (s.runLock id op).1 = (t.runLock number op).1 := by
  have released : (s.releaseLock id).lock? id = (t.releaseLock number).lock? number := by
    rw [lock?, lock?, releaseLock_locks, releaseLock_locks, lock_modify rfl, lock_modify rfl, same]
  simp only [runLock, same, released]
  cases t.lock? number with
  | none => rfl
  | some held => cases op <;> rfl

def outlives (session : Session) (op : Op) (held : HeldLock) : Bool :=
  match op with
  | .channel id .drop => (session.slot? id).isNone || held.channel != id
  | _ => true

def sweep (channel : Nat) (session : Session) (id : Nat) : Session :=
  if (session.lock? id).any (·.channel == channel) then session.dropLock id else session

theorem sweep_locks (s : Session) (channel id : Nat) :
    (s.sweep channel id).locks = s.locks.modify id (Option.filter (·.channel != channel)) := by
  by_cases granted : (s.lock? id).any (·.channel == channel) = true
  · rw [sweep, if_pos granted, dropLock_locks]
    apply locks_congr
    cases found : s.lock? id with
    | none => rfl
    | some held =>
      have own : held.channel = channel := by simpa [found] using granted
      simp [LockOp.effect, Option.filter, own]
  · rw [sweep, if_neg granted]
    refine (locks_idle ?_).symm
    cases found : s.lock? id with
    | none => rfl
    | some held =>
      have other : held.channel ≠ channel := by simpa [found] using granted
      simp [Option.filter, other]

theorem sweeps_locks (s : Session) (channel : Nat) (ids : List Nat) (i : Nat) :
    (ids.foldl (sweep channel) s).locks[i]? =
      if i ∈ ids then s.locks[i]?.map (Option.filter (·.channel != channel))
      else s.locks[i]? := by
  induction ids generalizing s with
  | nil => rfl
  | cons id ids induction =>
    rw [List.foldl_cons, induction, sweep_locks, List.getElem?_modify]
    by_cases own : id = i
    · -- A lock that was swept may be swept again: the second time changes nothing.
      subst own
      simp [Option.filter_filter, Function.comp_def]
    · simp [own, Ne.symm own]

theorem dropLocksOf_locks (s : Session) (channel : Nat) :
    (s.dropLocksOf channel).locks = s.locks.map (Option.filter (·.channel != channel)) := by
  apply List.ext_getElem?
  intro i
  change ((List.range s.locks.length).foldl (sweep channel) s).locks[i]? = _
  rw [sweeps_locks, List.getElem?_map]
  by_cases inside : i < s.locks.length
  · rw [if_pos (List.mem_range.mpr inside)]
  · rw [if_neg (mt List.mem_range.mp inside), List.getElem?_eq_none (Nat.le_of_not_lt inside)]
    rfl

section

variable [Memory]

theorem dropChannel_locks (found : s.slot? id = some slot) :
    (s.dropChannel id).locks = s.locks.map (Option.filter (·.channel != id)) := by
  rw [← dropLocksOf_locks]
  simp only [dropChannel, found, Channel.drop]
  split <;> rfl

omit [Memory] in
theorem locks_extend (id : Nat) : Extends (fun s t => t.locks = s.locks) id := by
  intro s t u reached touch
  cases touch <;> exact reached

omit [Memory] in
theorem quiet_locks (quietly : Quietly s t) : t.locks = s.locks := by
  induction quietly with
  | refl => rfl
  | tail _ quiet induction =>
    obtain ⟨id, touch⟩ := quiet
    exact locks_extend id _ _ _ induction touch

theorem request_locks (found : s.slot? id = some slot) {request : Request}
    (plain : request.asksForLock = false) :
    (s.runChannel id slot (.request request)).2.locks = s.locks := by
  have ungranted : (slot.channel.perform (slot.store id) (s, ()) (.request request)).result.granted?
      = none := slot.channel.serve_ungranted _ _ plain
  simp only [runChannel]
  rw [keepLock_ungranted _ _ ungranted]
  cases stays : (Call.request request : Call (Session × Unit)).closes with
  | false => exact request_during (locks_extend id) found request stays () rfl
  | true =>
    obtain rfl := Call.eq_close stays
    simp only [Channel.perform, Channel.serve, Channel.close]
    cases slot.channel.isOpen <;> rfl

omit [Memory] in
theorem spare_all (locks : List (Option HeldLock)) :
    locks.map (Option.filter fun _ => true) = locks :=
  List.map_id'' (fun held => by cases held <;> rfl) locks

theorem runChannel_locks (found : s.slot? id = some slot) {op : ChannelOp}
    (plain : (Op.channel id op).asksForLock = false) :
    (s.runChannel id slot op).2.locks =
      s.locks.map (Option.filter (s.outlives (.channel id op))) := by
  cases op with
  | drop =>
    have spared : s.outlives (.channel id .drop) = (·.channel != id) := by
      funext held
      simp [outlives, found]
    rw [spared]
    exact dropChannel_locks found
  | request request => exact (request_locks found plain).trans (spare_all s.locks).symm
  | copyOut position count sink =>
    have same := copyOut_during locks_extend found position count sink rfl
    exact same.trans (spare_all s.locks).symm
  | copyIn source position count =>
    have same := copyIn_during locks_extend found source position count rfl
    exact same.trans (spare_all s.locks).symm
  | _ => exact (spare_all s.locks).symm

/-- An operation that neither names a lock nor asks for one does away with the locks of the channel
that it does away with. -/
theorem step_locks (s : Session) {op : Op} (unlocking : op.lock? = none)
    (plain : op.asksForLock = false) :
    (s.step op).2.locks = s.locks.map (Option.filter (s.outlives op)) := by
  cases op with
  | create origin => exact (spare_all s.locks).symm
  | lock id op => cases unlocking
  | openChannel handle capabilities fixed traced =>
    refine Eq.trans ?_ (spare_all s.locks).symm
    simp only [step, perform, openChannel]
    split <;> rfl
  | buffer handle op =>
    refine Eq.trans ?_ (spare_all s.locks).symm
    simp only [step, perform]
    split
    · rfl
    · cases shares : op.shares with
      | false =>
        change _ = ({ s with log := [] } : Session).locks
        exact quiet_locks (runBuffer_quietly _ _ shares)
      | true => cases op <;> first | rfl | cases shares
  | channel id op =>
    cases found : s.slot? id with
    | none =>
      have spared : s.outlives (.channel id op) = fun _ => true := by
        funext held
        cases op <;> simp [outlives, found]
      have there : ({ s with log := [] } : Session).slot? id = none := found
      rw [spared, spare_all]
      simp only [step, perform, there]
      rfl
    | some slot =>
      have there : ({ s with log := [] } : Session).slot? id = some slot := found
      simp only [step, perform, there]
      exact runChannel_locks there plain

theorem step_absent (absent : s.slot? id = none) (op : ChannelOp) :
    let after := s.step (.channel id op)
    after.1.toStepResult = .absent ∧ after.2.locks = s.locks ∧ unlocked.Same s after.2 := by
  have there : ({ s with log := [] } : Session).slot? id = none := absent
  simp only [step, perform, there]
  exact ⟨trivial, rfl, ((View.Same.refl unlocked s).aside s.locks s.locks s.log []).trans
    (unlocked.forget_same _ id)⟩

theorem step_lock (found : s.slot? id = some slot) {request : Request} {lock : RangeLock}
    (asked : request.asked? = some lock) :
    let after := s.step (.channel id (.request request))
    unlocked.Same s after.2 ∧
      match slot.channel.refusal? lock.requirement lock.arguments with
      | some failure =>
        after.1.toStepResult = { outcome := .error (.call (.channel failure)) } ∧
          after.2.locks = s.locks
      | none =>
        after.1.toStepResult = .ok (.id s.locks.length) ∧
          after.2.locks = s.locks ++ [some ⟨id, lock⟩] := by
  have there : ({ s with log := [] } : Session).slot? id = some slot := found
  obtain ⟨log, ran⟩ := runChannel_lock there asked
  have aside (locks : List (Option HeldLock)) (log : List Event) :
      unlocked.Same s { s with locks, log } :=
    (View.Same.refl unlocked s).aside s.locks locks s.log log
  simp only [step, perform, there, ran]
  cases slot.channel.refusal? lock.requirement lock.arguments with
  | some failure => exact ⟨(aside _ _).trans (unlocked.forget_same _ id), rfl, rfl⟩
  | none => exact ⟨(aside _ _).trans (unlocked.forget_same _ id), rfl, rfl⟩

end

end Session

/-- What is left of an operation if not all locks are kept. A request for a lock is left if it is
spared, and what is done to a lock that is kept names it by its new number. -/
def Op.left? (kept : List Bool) (spared : Bool) : Op → Option Op
  | .lock id op => if kept[id]? = some false then none else some (.lock (rank kept id) op)
  | op => if op.asksForLock && !spared then none else some op

def Op.renumbered (op : Op) (number : Nat) (result : StepResult) : StepResult :=
  if op.asksForLock then { result with outcome := result.outcome.map fun _ => .id number }
  else result

namespace Session

/-- Some of a session's locks are kept, in a session that is otherwise the same. -/
structure Thins (kept : List Bool) (s t : Session) : Prop where
  same : unlocked.Same s t
  even : kept.length = s.locks.length
  locks : t.locks = sift kept s.locks

section

variable [Memory] {kept : List Bool} {s t : Session}

/-- What is left of a course of operations if some of the locks are left out of it, those that are
there and those that are asked for. Each operation that is left comes with the result that it has in
the whole course. -/
def thinned (session : Session) (kept : List Bool) : List (Op × Bool) → List (Op × StepResult)
  | [] => []
  | (op, spared) :: ops =>
    let (report, next) := session.step op
    let fresh := List.replicate (next.locks.length - session.locks.length) spared
    let left := (op.left? kept spared).map fun left =>
      (left, op.renumbered (kept.count true) report.toStepResult)
    left.toList ++ next.thinned (kept ++ fresh) ops

/-- How two sessions stand after an operation in the one, and what is left of it in the other. -/
def KeepsPace (kept : List Bool) (s t : Session) (op : Op) (spared : Bool) : Prop :=
  let next := (s.step op).2
  let fresh := List.replicate (next.locks.length - s.locks.length) spared
  match op.left? kept spared with
  | none => Thins (kept ++ fresh) next t
  | some left =>
    Thins (kept ++ fresh) next (t.step left).2 ∧
      (t.step left).1.toStepResult =
        op.renumbered (kept.count true) (s.step op).1.toStepResult

namespace Thins

variable (thins : Thins kept s t)

include thins

theorem lock_step (id : Nat) (op : LockOp) (spared : Bool) :
    KeepsPace kept s t (.lock id op) spared := by
  have locks (s : Session) (id : Nat) :
      (s.step (.lock id op)).2.locks = s.locks.modify id op.effect :=
    runLock_locks { s with log := [] } id op
  have after := (View.lock_step_same unlocked s id op).symm.trans thins.same
  have none_new : (s.step (.lock id op)).2.locks.length - s.locks.length = 0 := by
    simp [locks]
  simp only [KeepsPace, Op.left?, none_new, List.replicate_zero, List.append_nil]
  by_cases gap : kept[id]? = some false
  · rw [if_pos gap]
    refine ⟨after, ?_, ?_⟩
    · simp [locks, thins.even]
    · rw [locks, sift_modify_gap gap, thins.locks]
  · rw [if_neg gap]
    have found : s.lock? id = t.lock? (rank kept id) := by
      rw [lock?, lock?, thins.locks, sift_getElem? thins.even gap]
    refine ⟨⟨after.trans (View.lock_step_same unlocked t _ op), ?_, ?_⟩, ?_⟩
    · simp [locks, thins.even]
    · rw [locks, locks, thins.locks, sift_modify thins.even gap]
    · exact (@runLock_answer { s with log := [] } { t with log := [] } _ _ found op).symm

theorem plain_step {op : Op} (unlocking : op.lock? = none) (plain : op.asksForLock = false)
    (spared : Bool) : KeepsPace kept s t op spared := by
  have left : op.left? kept spared = some op := by
    have spares : (op.asksForLock && !spared) = false := by rw [plain, Bool.false_and]
    cases op <;> first | rfl | exact if_neg (Bool.eq_false_iff.mp spares) | cases unlocking
  obtain ⟨after, answer⟩ := thins.same.step (fun _ => trivial) unlocking fun _ _ => trivial
  have outlives : t.outlives op = s.outlives op := by
    funext held
    cases op with
    | channel id op =>
      have gone : (t.slot? id).isNone = (s.slot? id).isNone := by
        rw [← Option.not_isSome, ← Option.not_isSome]
        exact congrArg (!·) (thins.same.symm.isSome_slot trivial)
      cases op <;> simp only [outlives, gone]
    | _ => rfl
  have locks := step_locks s unlocking plain
  have locks' := step_locks t unlocking plain
  have none_new : (s.step op).2.locks.length - s.locks.length = 0 := by simp [locks]
  simp only [KeepsPace, left, none_new, List.replicate_zero, List.append_nil]
  refine ⟨⟨after, ?_, ?_⟩, ?_⟩
  · simp [locks, thins.even]
  · rw [locks, locks', thins.locks, outlives, sift_map]
  · have answered := answer (.inl trivial)
    simp only [Op.answer, plain, if_neg Bool.false_ne_true] at answered
    simp only [Op.renumbered, plain, if_neg Bool.false_ne_true, answered]

/-- A request that no lock is granted to changes nothing about the locks. -/
theorem refused_step {id : Nat} {request : Request} {spared : Bool} (refusal : StepFailure)
    (left : (Op.channel id (.request request)).left? kept spared =
      if spared then some (.channel id (.request request)) else none)
    (refused : ∀ r : Session, r = s ∨ r = t →
      let after := r.step (.channel id (.request request))
      unlocked.Same r after.2 ∧ after.1.toStepResult = { outcome := .error refusal } ∧
        after.2.locks = r.locks) :
    KeepsPace kept s t (.channel id (.request request)) spared := by
  obtain ⟨same, result, locks⟩ := refused s (.inl rfl)
  obtain ⟨same', result', locks'⟩ := refused t (.inr rfl)
  simp only [KeepsPace, left, locks, Nat.sub_self, List.replicate_zero, List.append_nil]
  cases spared with
  | false => exact ⟨same.symm.trans thins.same, locks ▸ thins.even, locks ▸ thins.locks⟩
  | true =>
    refine ⟨⟨same.symm.trans (thins.same.trans same'), ?_, ?_⟩, ?_⟩
    · rw [locks, thins.even]
    · rw [locks, locks', thins.locks]
    · rw [result, result', Op.renumbered]
      split <;> rfl

theorem request_step (id : Nat) {request : Request} (asks : request.asksForLock = true)
    (spared : Bool) : KeepsPace kept s t (.channel id (.request request)) spared := by
  have left : (Op.channel id (.request request)).left? kept spared =
      if spared then some (.channel id (.request request)) else none := by
    cases spared <;> simp [Op.left?, Op.asksForLock, asks]
  cases found : s.slot? id with
  | none =>
    refine thins.refused_step .absent left fun r either => ?_
    have absent : r.slot? id = none := by
      rcases either with rfl | rfl
      · exact found
      · exact thins.same.noSlot trivial found
    obtain ⟨result, locks, same⟩ := step_absent absent (.request request)
    exact ⟨same, result, locks⟩
  | some slot =>
    obtain ⟨lock, asked⟩ := Request.asked_of_asks asks
    obtain ⟨calls, there⟩ := thins.same.slot trivial found
    obtain ⟨same, came⟩ := step_lock found asked
    obtain ⟨same', came'⟩ := step_lock there asked
    cases verdict : slot.channel.refusal? lock.requirement lock.arguments with
    | some failure =>
      simp only [verdict] at came came'
      refine thins.refused_step (.call (.channel failure)) left ?_
      rintro r (rfl | rfl)
      · exact ⟨same, came⟩
      · exact ⟨same', came'⟩
    | none =>
      simp only [verdict] at came came'
      obtain ⟨result, locks⟩ := came
      obtain ⟨result', locks'⟩ := came'
      have fresh : (s.step (.channel id (.request request))).2.locks.length - s.locks.length =
          [some (⟨id, lock⟩ : HeldLock)].length := by simp [locks]
      have kept_locks := sift_append thins.even spared [some ⟨id, lock⟩]
      have even : (kept ++ List.replicate 1 spared).length =
          (s.step (.channel id (.request request))).2.locks.length := by
        simp [locks, thins.even]
      simp only [KeepsPace, left, fresh]
      cases spared with
      | false =>
        refine ⟨same.symm.trans thins.same, even, ?_⟩
        rw [locks, kept_locks, thins.locks]
        exact (List.append_nil _).symm
      | true =>
        refine ⟨⟨same.symm.trans (thins.same.trans same'), even, ?_⟩, ?_⟩
        · rw [locks, locks', kept_locks, thins.locks]
          rfl
        · have number : t.locks.length = kept.count true := by
            rw [thins.locks, length_sift thins.even]
          simp only [Op.renumbered, Op.asksForLock, asks, if_true, result, result', number]
          rfl

theorem step (op : Op) (spared : Bool) : KeepsPace kept s t op spared := by
  cases op with
  | lock id op => exact thins.lock_step id op spared
  | channel id op =>
    cases op with
    | request request =>
      cases asks : request.asksForLock with
      | true => exact thins.request_step id asks spared
      | false =>
        have plain : (Op.channel id (.request request)).asksForLock = false := asks
        exact thins.plain_step rfl plain spared
    | _ => exact thins.plain_step rfl rfl spared
  | _ => exact thins.plain_step rfl rfl spared

end Thins

theorem run_thinned (thins : Thins kept s t) (ops : List (Op × Bool)) :
    let left := s.thinned kept ops
    (t.run (left.map (·.1))).1.map (·.toStepResult) = left.map (·.2) ∧
      ∃ kept, Thins kept (s.run (ops.map (·.1))).2 (t.run (left.map (·.1))).2 := by
  induction ops generalizing kept s t with
  | nil => exact ⟨rfl, kept, thins⟩
  | cons first ops induction =>
    obtain ⟨op, spared⟩ := first
    have keeps := thins.step op spared
    simp only [KeepsPace] at keeps
    simp only [thinned]
    cases stays : op.left? kept spared with
    | none =>
      rw [stays] at keeps
      exact induction keeps
    | some left =>
      rw [stays] at keeps
      obtain ⟨answers, kept, after⟩ := induction keeps.1
      refine ⟨?_, kept, after⟩
      simp only [Option.map_some, Option.toList_some, List.cons_append, List.nil_append,
        List.map_cons, run]
      rw [answers, keeps.2]

omit [Memory] in
theorem Thins.whole (s : Session) : Thins (List.replicate s.locks.length true) s s where
  same := .refl _ s
  even := List.length_replicate
  locks := (sift_all s.locks).symm

omit [Memory] in
theorem unlocked_same (same : unlocked.Same s t) :
    t.buffers = s.buffers ∧ t.handles = s.handles ∧ ∀ id, t.bareSlot? id = s.bareSlot? id := by
  refine ⟨?_, same.handles.symm, fun id => (same.bareSlot id trivial).symm⟩
  exact buffers_eq same.buffers_length.symm fun index =>
    ((same.buffer index trivial).eq trivial).symm

/-- Advisory locks exclude nothing. Leave out of a course of operations any requests for locks, with
all that is done to the locks they were granted: what is left is answered as before, and leaves the
same buffers, handles and channels behind. And a lock is granted whenever its range, the open flag
and the capability for its mode allow it. -/
theorem locks_exclude_nothing :
    (∀ (s : Session) (ops : List (Op × Bool)),
      let left := s.thinned (List.replicate s.locks.length true) ops
      let whole := (s.run (ops.map (·.1))).2
      let thin := s.run (left.map (·.1))
      thin.1.map (·.toStepResult) = left.map (·.2) ∧
        thin.2.buffers = whole.buffers ∧ thin.2.handles = whole.handles ∧
        ∀ id, thin.2.bareSlot? id = whole.bareSlot? id) ∧
    ∀ (s : Session) (id : Nat) (slot : Slot) (request : Request) (position size : Nat)
        (shared : Bool),
      s.slot? id = some slot →
      request = .lock position size shared ∨ request = .tryLock position size shared →
      position ≤ maxPosition → size ≤ maxPosition → slot.channel.isOpen = true →
      (if shared then slot.channel.capabilities.isReadable
        else slot.channel.capabilities.isWritable) = true →
      let after := s.step (.channel id (.request request))
      after.1.toStepResult = .ok (.id s.locks.length) ∧
        after.2.locks = s.locks ++ [some ⟨id, { position, size, shared }⟩] := by
  constructor
  · intro s ops
    obtain ⟨answers, kept, after⟩ := run_thinned (Thins.whole s) ops
    exact ⟨answers, unlocked_same after.same⟩
  · intro s id slot request position size shared found asks low short isOpen able
    have asked : request.asked? = some { position, size, shared } := by
      rcases asks with rfl | rfl <;> rfl
    obtain ⟨-, came⟩ := step_lock found asked
    have inRange : ∀ argument ∈ [("position", position), ("size", size)],
        argument.2 ≤ maxPosition := by
      simp [low, short]
    have allowed : slot.channel.refusal? (if shared then .readable else .writable)
        [("position", position), ("size", size)] = none := by
      cases shared with
      | true => exact slot.channel.readable_allowed isOpen able inRange
      | false => exact slot.channel.writable_allowed isOpen able inRange
    simp only [RangeLock.requirement, RangeLock.arguments, allowed] at came
    exact came

end

def fenced : Session where
  buffers := [{ bytes := [1, 2, 3], holders := 3 }]
  handles := [some 0]
  slots :=
    [some { channel := .opened { write := true }, handle := 0, buffer := 0 },
      some { channel := .opened { read := true, write := true }, handle := 0, buffer := 0 }]
  locks := [some ⟨0, { position := 0, size := 3, shared := false }⟩]

/-- Requests for two locks that overlap with the first one. Only the second of them is spared. -/
def fences : List (Op × Bool) :=
  [(.channel 1 (.request (.lock 0 3 true)), false),
    (.channel 1 (.request (.tryLock 1 9 false)), true), (.lock 1 .release, true),
    (.channel 0 (.request (.write [[7, 8]])), true), (.lock 2 (.overlaps 9 1), true),
    (.channel 1 (.request (.readAt [0, 0] 1)), true)]

theorem fenced_excludes_nothing :
    let left := @thinned .standard fenced [true] fences
    left.map (·.1.lock?) = [none, none, some 1, none] ∧
      (@run .standard fenced (left.map (·.1))).1.map (·.outcome) =
        [.ok (.id 1), .ok (.number 2), .ok (.flag true), .ok (.optional (some 2))] ∧
      (@step .standard fenced (.channel 1 (.request (.lock 0 3 true)))).1.outcome =
        .ok (.id 1) := by
  intro left
  obtain ⟨exclude, grants⟩ := @locks_exclude_nothing .standard
  have answers := congrArg (List.map StepResult.outcome) (exclude fenced fences).1
  have granted := grants fenced 1 _ (.lock 0 3 true) 0 3 true rfl (.inl rfl) (by decide)
    (by decide) rfl rfl
  refine ⟨by decide +kernel, ?_, congrArg StepResult.outcome granted.1⟩
  rw [List.map_map] at answers
  exact answers.trans (by decide +kernel)

end Session

end SharedBytes
