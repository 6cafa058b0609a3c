import Mathlib.Data.List.Induction
import SharedBytes.Proofs.Session.Fates
import SharedBytes.Proofs.Session.Records

/-!
# Every lock is released once

A lock is valid from the step that grants it up to the step that first releases it or does away with
it, be it along with its channel. That step records its release, and no other step ever does.
-/

namespace SharedBytes

namespace Session

variable {s : Session}

/-- The locks that an operation ends, each of them once, and their releases on record. -/
structure Records (s : Session) (op : Op) (ids : List Nat) (records : List RangeLock) : Prop where
  once : ids.Nodup
  ended : ∀ id, id ∈ ids ↔
    ∃ held, s.lock? id = some held ∧ held.lock.valid = true ∧ op.ends id held = true
  records : records = ids.filterMap fun id => (s.lock? id).map (·.lock.release)

theorem records_nothing {op : Op} {records : List RangeLock} (silent : records = [])
    (spared : ∀ id held, s.lock? id = some held → op.ends id held = false) :
    Records s op [] records where
  once := List.nodup_nil
  ended id := by
    refine ⟨nofun, ?_⟩
    rintro ⟨held, found, -, ends⟩
    rw [spared id held found] at ends
    cases ends
  records := silent

theorem records_among {op : Op} {ids : List Nat} {records : List RangeLock} (once : ids.Nodup)
    (among : ∀ id held, s.lock? id = some held → op.ends id held = true → id ∈ ids)
    (recorded : records = ids.filterMap fun id =>
      ((s.lock? id).filter (op.ends id)).bind HeldLock.record?) :
    ∃ ids, Records s op ids records := by
  let ending (id : Nat) := (s.lock? id).any fun held => held.lock.valid && op.ends id held
  refine ⟨ids.filter ending, once.filter _, fun id => ?_, ?_⟩
  · rw [List.mem_filter, Option.any_eq_true]
    constructor
    · rintro ⟨-, held, found, both⟩
      exact ⟨held, found, Bool.and_eq_true_iff.mp both⟩
    · rintro ⟨held, found, valid, ends⟩
      exact ⟨among id held found ends, held, found, Bool.and_eq_true_iff.mpr ⟨valid, ends⟩⟩
  · have told (id : Nat) (held : Option HeldLock) :
        (held.filter (op.ends id)).bind HeldLock.record? =
          if held.any fun held => held.lock.valid && op.ends id held
          then held.map (·.lock.release) else none := by
      cases held with
      | none => rfl
      | some held =>
        cases valid : held.lock.valid <;> cases ends : op.ends id held <;>
          simp [Option.filter, HeldLock.record?, valid, ends]
    rw [recorded, List.filterMap_filter]
    exact List.filterMap_congr fun id _ => told id (s.lock? id)

theorem runLock_records (s : Session) (id : Nat) (op : LockOp) :
    releasesIn (s.runLock id op).2.log =
      releasesIn s.log ++ if op.ends then ((s.lock? id).bind HeldLock.record?).toList else [] := by
  cases found : s.lock? id with
  | none =>
    simp only [runLock, found, Option.bind_none, Option.toList_none, ite_self, List.append_nil]
  | some held =>
    simp only [runLock, found]
    rw [← found]
    cases op with
    | release => exact releaseLock_records s id
    | drop => exact dropLock_records s id
    | _ => exact (List.append_nil _).symm

section

variable [Memory]

theorem perform_silent (s : Session) {op : Op} (unlocking : op.lock? = none)
    (stays : ∀ id, op ≠ .channel id .drop) :
    releasesIn (s.perform op).2.log = releasesIn s.log := by
  cases op with
  | create origin => rfl
  | lock id op => cases unlocking
  | openChannel handle capabilities fixed traced =>
    simp only [perform, openChannel]
    cases s.handle? handle <;> rfl
  | buffer handle op =>
    simp only [perform]
    cases s.handle? handle with
    | none => rfl
    | some index => exact runBuffer_silent s handle index op
  | channel id op =>
    simp only [perform]
    cases s.slot? id with
    | none => rfl
    | some slot => exact runChannel_silent s id slot fun drop => stays id (by rw [drop])

theorem step_log (s : Session) (op : Op) :
    (s.step op).1.log = (({ s with log := [] } : Session).perform op).2.log := by
  cases op <;> rfl

theorem quiet_records (s : Session) {op : Op} (unlocking : op.lock? = none)
    (stays : ∀ id, op ≠ .channel id .drop) :
    Records s op [] (releasesIn (s.step op).1.log) := by
  apply records_nothing
  · rw [step_log, perform_silent _ unlocking stays]
    rfl
  · intro id held _
    cases op with
    | lock => cases unlocking
    | channel owner op =>
      cases op with
      | drop => exact absurd rfl (stays owner)
      | _ => rfl
    | _ => rfl

theorem lock_records (s : Session) (number : Nat) (op : LockOp) :
    ∃ ids, Records s (.lock number op) ids (releasesIn (s.step (.lock number op)).1.log) := by
  have recorded := runLock_records { s with log := [] } number op
  apply records_among (List.pairwise_singleton _ number)
  · intro id held _ ends
    have own := (Bool.and_eq_true_iff.mp ends).1
    exact List.mem_singleton.mpr (beq_iff_eq.mp own).symm
  · refine recorded.trans ?_
    have same : ({ s with log := [] } : Session).lock? number = s.lock? number := rfl
    rw [same, List.filterMap_cons, List.filterMap_nil]
    cases s.lock? number with
    | none => simp [releasesIn]
    | some held =>
      have ends : (Op.lock number op).ends number held = op.ends := by simp [Op.ends]
      rw [Option.filter_some, ends]
      cases op.ends with
      | true => cases told : held.record? <;> simp [releasesIn, told]
      | false => simp [releasesIn]

theorem drop_records (attached : s.Attached) (owner : Nat) :
    ∃ ids, Records s (.channel owner .drop) ids
      (releasesIn (s.step (.channel owner .drop)).1.log) := by
  rw [step_log]
  cases found : s.slot? owner with
  | none =>
    have there : ({ s with log := [] } : Session).slot? owner = none := found
    -- A channel that is gone has no locks left, which `attached` says of those that are there.
    refine ⟨[], records_nothing ?_ fun id held present => ?_⟩
    · simp only [perform, there]
      rfl
    · have kept := attached id held present
      have other : held.channel ≠ owner := by
        rintro rfl
        rw [found] at kept
        cases kept
      exact beq_false_of_ne other
  | some slot =>
    have there : ({ s with log := [] } : Session).slot? owner = some slot := found
    have recorded := dropChannel_records there
    simp only [perform, there, runChannel]
    apply records_among (List.nodup_range : (List.range s.locks.length).Nodup) _ recorded
    intro id held present _
    exact List.mem_range.mpr (lock_inside present)

theorem step_records (attached : s.Attached) (op : Op) :
    ∃ ids, Records s op ids (releasesIn (s.step op).1.log) := by
  cases op with
  | lock number op => exact lock_records s number op
  | channel owner op =>
    by_cases drop : op = .drop
    · rw [drop]
      exact drop_records attached owner
    · exact ⟨[], quiet_records s rfl fun id same => drop (by cases same; rfl)⟩
  | _ => exact ⟨[], quiet_records s rfl fun _ => Op.noConfusion⟩

def reached (ops : List Op) : Session :=
  (({} : Session).run ops).2

def grants (ops : List Op) : List HeldLock :=
  (ops.zip (({} : Session).run ops).1).filterMap fun (op, report) =>
    op.granted? report.toStepResult

def releases (ops : List Op) : List RangeLock :=
  (({} : Session).run ops).1.flatMap fun report => releasesIn report.log

def Ended (ops : List Op) (id : Nat) : Prop :=
  ∃ early op late held, ops = early ++ op :: late ∧ (grants early)[id]? = some held ∧
    op.ends id held = true

theorem run_snoc (s : Session) (ops : List Op) (op : Op) :
    s.run (ops ++ [op]) =
      ((s.run ops).1 ++ [((s.run ops).2.step op).1], ((s.run ops).2.step op).2) := by
  induction ops generalizing s with
  | nil => rfl
  | cons first ops induction => simp only [List.cons_append, run, induction]

theorem run_length (s : Session) (ops : List Op) : (s.run ops).1.length = ops.length := by
  induction ops generalizing s with
  | nil => rfl
  | cons op ops induction => simp only [run, List.length_cons, induction]

section

variable (ops : List Op) (op : Op)

theorem reached_snoc : reached (ops ++ [op]) = ((reached ops).step op).2 := by
  simp only [reached, run_snoc]

theorem grants_snoc :
    grants (ops ++ [op]) =
      grants ops ++ (op.granted? ((reached ops).step op).1.toStepResult).toList := by
  simp only [grants, run_snoc, List.zip_append (run_length {} ops).symm, List.filterMap_append]
  rfl

theorem releases_snoc :
    releases (ops ++ [op]) = releases ops ++ releasesIn ((reached ops).step op).1.log := by
  simp only [releases, run_snoc, List.flatMap_append, List.flatMap_singleton, reached]

theorem ended_snoc (id : Nat) :
    Ended (ops ++ [op]) id ↔
      Ended ops id ∨ ∃ held, (grants ops)[id]? = some held ∧ op.ends id held = true := by
  constructor
  · rintro ⟨early, last, late, held, split, granted, ends⟩
    rcases List.eq_nil_or_concat late with rfl | ⟨rest, other, rfl⟩
    · obtain ⟨rfl, same⟩ := List.append_inj' split rfl
      obtain rfl := List.singleton_inj.mp same
      exact .inr ⟨held, granted, ends⟩
    · left
      rw [List.concat_eq_append, ← List.cons_append, ← List.append_assoc] at split
      exact ⟨early, last, rest, held, (List.append_inj' split rfl).1, granted, ends⟩
  · rintro (⟨early, last, late, held, rfl, granted, ends⟩ | ⟨held, granted, ends⟩)
    · exact ⟨early, last, late ++ [op], held, by simp, granted, ends⟩
    · exact ⟨ops, op, [], held, rfl, granted, ends⟩

end

/-- The locks after a run, of which those are named that have been ended, in order. -/
structure Ledger (ops : List Op) (ended : List Nat) : Prop where
  length : (reached ops).locks.length = (grants ops).length
  valid : ∀ held ∈ grants ops, held.lock.valid = true
  once : ended.Nodup
  mem : ∀ id, id ∈ ended ↔ Ended ops id
  known : ∀ id ∈ ended, id < (grants ops).length
  /-- A lock stays as it was granted until it is ended. -/
  live : ∀ id held, (grants ops)[id]? = some held → id ∉ ended →
    (reached ops).lock? id = some held
  /-- From then on it is gone, or stays as it was released. -/
  spent : ∀ id ∈ ended, (reached ops).lock? id = none ∨
    (reached ops).lock? id = (grants ops)[id]?.map HeldLock.released
  attached : (reached ops).Attached
  recorded : releases ops = ended.filterMap fun id => (grants ops)[id]?.map (·.lock.release)

namespace Ledger

variable {ops : List Op} {ended : List Nat}

theorem nil : Ledger [] [] where
  length := rfl
  valid := nofun
  once := List.nodup_nil
  mem id := by
    refine ⟨nofun, ?_⟩
    rintro ⟨early, op, late, held, split, -⟩
    exact absurd split (by simp)
  known := nofun
  live := nofun
  spent := nofun
  attached := nofun
  recorded := rfl

variable (ledger : Ledger ops ended)

include ledger

theorem inside_of_lock {id : Nat} {held : HeldLock} (found : (reached ops).lock? id = some held) :
    id < (grants ops).length := by
  rw [← ledger.length]
  exact lock_inside found

/-- A lock that is valid was not ended, and is the one that was granted. -/
theorem of_valid {id : Nat} {held : HeldLock} (found : (reached ops).lock? id = some held)
    (valid : held.lock.valid = true) : id ∉ ended ∧ (grants ops)[id]? = some held := by
  have spared : id ∉ ended := by
    intro spent
    rcases ledger.spent id spent with gone | released
    · rw [found] at gone
      cases gone
    · rw [found] at released
      obtain ⟨granted, -, rfl⟩ := Option.map_eq_some_iff.mp released.symm
      cases valid
  refine ⟨spared, ?_⟩
  have inside := ledger.inside_of_lock found
  have there := ledger.live id _ (List.getElem?_eq_getElem inside) spared
  rw [List.getElem?_eq_getElem inside, ← there, found]

theorem step_old (op : Op) {id : Nat} (inside : id < (grants ops).length) :
    (grants (ops ++ [op]))[id]? = (grants ops)[id]? ∧
      (reached (ops ++ [op])).lock? id = ((reached ops).lock? id).bind (op.fate id) := by
  have relocks := step_relocks ledger.attached op
  rw [grants_snoc, reached_snoc]
  exact ⟨List.getElem?_append_left inside, relocks.old id (ledger.length ▸ inside)⟩

theorem step_new (op : Op) {id : Nat} (beyond : (grants ops).length ≤ id) :
    (reached (ops ++ [op])).lock? id = (grants (ops ++ [op]))[id]? := by
  have relocks := step_relocks ledger.attached op
  rw [grants_snoc, reached_snoc, relocks.new id (ledger.length ▸ beyond),
    List.getElem?_append_right beyond, ledger.length]

section

variable {op : Op} {newly : List Nat}
  (records : Records (reached ops) op newly (releasesIn ((reached ops).step op).1.log))

include records

/-- A lock that is ended by one more operation was valid until then, and so it was not ended before
and is the one that was granted. -/
theorem of_newly {id : Nat} (ends : id ∈ newly) : ∃ held, (reached ops).lock? id = some held ∧
    op.ends id held = true ∧ id ∉ ended ∧ (grants ops)[id]? = some held := by
  obtain ⟨held, found, valid, ends⟩ := (records.ended id).mp ends
  exact ⟨held, found, ends, ledger.of_valid found valid⟩

theorem newly_inside {id : Nat} (ends : id ∈ newly) : id < (grants ops).length := by
  obtain ⟨held, found, -⟩ := ledger.of_newly records ends
  exact ledger.inside_of_lock found

theorem step_once : (ended ++ newly).Nodup := by
  refine List.nodup_append.mpr ⟨ledger.once, records.once, ?_⟩
  rintro id spent _ again rfl
  obtain ⟨held, -, -, spared, -⟩ := ledger.of_newly records again
  exact spared spent

theorem step_mem (id : Nat) : id ∈ ended ++ newly ↔ Ended (ops ++ [op]) id := by
  rw [List.mem_append, ended_snoc, ledger.mem]
  constructor
  · rintro (spent | ends)
    · exact .inl spent
    · obtain ⟨held, -, ends, -, granted⟩ := ledger.of_newly records ends
      exact .inr ⟨held, granted, ends⟩
  · rintro (spent | ⟨held, granted, ends⟩)
    · exact .inl spent
    · by_cases spent : id ∈ ended
      · exact .inl ((ledger.mem id).mp spent)
      · have found := ledger.live id held granted spent
        have valid := ledger.valid held (List.mem_of_getElem? granted)
        exact .inr ((records.ended id).mpr ⟨held, found, valid, ends⟩)

theorem step_live (id : Nat) (held : HeldLock) (granted : (grants (ops ++ [op]))[id]? = some held)
    (spared : id ∉ ended ++ newly) : (reached (ops ++ [op])).lock? id = some held := by
  by_cases inside : id < (grants ops).length
  · obtain ⟨same, became⟩ := ledger.step_old op inside
    rw [same] at granted
    have found := ledger.live id held granted fun spent => spared (List.mem_append_left _ spent)
    have valid := ledger.valid held (List.mem_of_getElem? granted)
    have stays : op.ends id held = false := by
      apply Bool.eq_false_iff.mpr
      intro ends
      exact spared (List.mem_append_right _ ((records.ended id).mpr ⟨held, found, valid, ends⟩))
    rw [became, found, Option.bind_some, Op.fate_spared stays]
  · rw [ledger.step_new op (Nat.le_of_not_lt inside), granted]

/-- A lock that was ended before stays as it was released, or goes. -/
theorem step_spent (id : Nat) (either : id ∈ ended ++ newly) :
    (reached (ops ++ [op])).lock? id = none ∨
      (reached (ops ++ [op])).lock? id = (grants (ops ++ [op]))[id]?.map HeldLock.released := by
  rcases List.mem_append.mp either with spent | ends
  · obtain ⟨same, became⟩ := ledger.step_old op (ledger.known id spent)
    rw [same, became]
    rcases ledger.spent id spent with gone | released
    · exact .inl (by rw [gone, Option.bind_none])
    · -- To be released once more changes nothing.
      rw [released]
      cases (grants ops)[id]? with
      | none => exact .inl rfl
      | some held => exact Op.fate_released
  · obtain ⟨held, found, ends, -, granted⟩ := ledger.of_newly records ends
    obtain ⟨same, became⟩ := ledger.step_old op (ledger.inside_of_lock found)
    rw [same, became, found, granted]
    exact Op.fate_ended ends

theorem step_recorded :
    releases (ops ++ [op]) =
      (ended ++ newly).filterMap fun id => (grants (ops ++ [op]))[id]?.map (·.lock.release) := by
  rw [releases_snoc, ledger.recorded, records.records, List.filterMap_append]
  congr 1
  · refine List.filterMap_congr fun id spent => ?_
    rw [(ledger.step_old op (ledger.known id spent)).1]
  · refine List.filterMap_congr fun id ends => ?_
    obtain ⟨held, found, -, -, granted⟩ := ledger.of_newly records ends
    rw [(ledger.step_old op (ledger.inside_of_lock found)).1, found, granted]

end

theorem step (op : Op) : ∃ newly, Ledger (ops ++ [op]) (ended ++ newly) := by
  obtain ⟨newly, records⟩ := step_records ledger.attached op
  refine ⟨newly, {
    length := ?length
    valid := ?valid
    once := ledger.step_once records
    mem := ledger.step_mem records
    known := ?known
    live := ledger.step_live records
    spent := ledger.step_spent records
    attached := ?attached
    recorded := ledger.step_recorded records }⟩
  case length =>
    rw [reached_snoc, grants_snoc, (step_relocks ledger.attached op).length, List.length_append,
      ledger.length]
  case valid =>
    intro held inside
    rw [grants_snoc] at inside
    rcases List.mem_append.mp inside with old | new
    · exact ledger.valid held old
    · exact Op.granted_valid (Option.mem_toList.mp new)
  case known =>
    intro id either
    have inside : id < (grants ops).length :=
      (List.mem_append.mp either).elim (ledger.known id) (ledger.newly_inside records)
    rw [grants_snoc, List.length_append]
    exact Nat.lt_add_right _ inside
  case attached =>
    rw [reached_snoc]
    exact step_attached ledger.attached op

end Ledger

/-- By induction over the run, from its end: every run has its ledger. -/
theorem exists_ledger (ops : List Op) : ∃ ended, Ledger ops ended := by
  induction ops using List.reverseRecOn with
  | nil => exact ⟨[], .nil⟩
  | append_singleton ops op induction =>
    obtain ⟨ended, ledger⟩ := induction
    obtain ⟨newly, ledger⟩ := ledger.step op
    exact ⟨ended ++ newly, ledger⟩

namespace Ledger

variable {ops : List Op} {ended : List Nat} (ledger : Ledger ops ended)

include ledger

theorem isValid_iff (id : Nat) :
    ((reached ops).step (.lock id .isValid)).1.outcome = .ok (.flag true) ↔
      id < (grants ops).length ∧ ¬ Ended ops id := by
  have answered : ((reached ops).step (.lock id .isValid)).1.outcome = .ok (.flag true) ↔
      ∃ held, (reached ops).lock? id = some held ∧ held.lock.valid = true := by
    have same : ({ reached ops with log := [] } : Session).lock? id = (reached ops).lock? id := rfl
    simp only [Session.step, perform, runLock, same]
    cases (reached ops).lock? id <;> simp [StepResult.ok, StepResult.absent]
  rw [answered, ← ledger.mem]
  constructor
  · rintro ⟨held, found, valid⟩
    exact ⟨ledger.inside_of_lock found, (ledger.of_valid found valid).1⟩
  · rintro ⟨inside, spared⟩
    have granted := List.getElem?_eq_getElem inside
    exact ⟨_, ledger.live id _ granted spared, ledger.valid _ (List.getElem_mem inside)⟩

theorem as_granted {id : Nat} {held : HeldLock} (found : (reached ops).lock? id = some held) :
    (grants ops)[id]? = some held ∨ (grants ops)[id]?.map HeldLock.released = some held := by
  by_cases spent : id ∈ ended
  · rcases ledger.spent id spent with gone | released
    · rw [found] at gone
      cases gone
    · exact .inr (released.symm.trans found)
  · have granted := List.getElem?_eq_getElem (ledger.inside_of_lock found)
    have there := ledger.live id _ granted spent
    rw [found] at there
    exact .inl (granted.trans there.symm)

theorem grant_numbered {op : Op} {held : HeldLock}
    (granted : op.granted? ((reached ops).step op).1.toStepResult = some held) :
    ((reached ops).step op).1.outcome = .ok (.id (grants ops).length) ∧
      ((reached ops).step op).2.lock? (grants ops).length = some held ∧ held.lock.valid = true := by
  have relocks := step_relocks ledger.attached op
  rw [← ledger.length]
  refine ⟨(granted_there granted).2.2, ?_, Op.granted_valid granted⟩
  rw [relocks.new _ (Nat.le_refl _), Nat.sub_self, granted]
  rfl

/-- What is not ended in the run is recorded when the session is. -/
theorem finish :
    releasesIn (reached ops).finish =
      ((List.range (grants ops).length).filter (· ∉ ended)).filterMap fun id =>
        (grants ops)[id]?.map (·.lock.release) := by
  rw [finish_records, ledger.length, List.filterMap_filter]
  apply List.filterMap_congr
  intro id inside
  have granted := List.getElem?_eq_getElem (List.mem_range.mp inside)
  by_cases spent : id ∈ ended
  · simp only [spent, not_true_eq_false, decide_false, Bool.false_eq_true, if_false]
    rcases ledger.spent id spent with gone | released
    · rw [gone, Option.bind_none]
    · rw [released, granted]
      rfl
  · have found := ledger.live id _ granted spent
    have valid := ledger.valid _ (List.getElem_mem (List.mem_range.mp inside))
    simp [spent, found, granted, HeldLock.record?, valid]

theorem each_once :
    (releases ops ++ releasesIn (reached ops).finish).Perm
      ((grants ops).map (·.lock.release)) := by
  have whole : (ended ++ (List.range (grants ops).length).filter (· ∉ ended)).Perm
      (List.range (grants ops).length) := by
    have apart : (ended ++ (List.range (grants ops).length).filter (· ∉ ended)).Nodup := by
      refine List.nodup_append.mpr ⟨ledger.once, List.nodup_range.filter _, ?_⟩
      rintro id spent _ spared rfl
      simp [spent] at spared
    refine (List.perm_ext_iff_of_nodup apart List.nodup_range).mpr fun id => ?_
    have known := ledger.known id
    by_cases spent : id ∈ ended
    · simp [spent, known spent]
    · simp [spent]
  have all : (grants ops).map (·.lock.release) =
      (List.range (grants ops).length).filterMap fun id =>
        (grants ops)[id]?.map (·.lock.release) := by
    have each : (List.range (grants ops).length).map (fun id => (grants ops)[id]?) =
        (grants ops).map some := by
      apply List.ext_getElem (by simp)
      simp
    calc
      (grants ops).map (·.lock.release)
      _ = ((grants ops).map some).filterMap (Option.map (·.lock.release)) := by simp
      _ = _ := by rw [← each, List.filterMap_map]; rfl
  rw [ledger.recorded, ledger.finish, ← List.filterMap_append, all]
  exact whole.filterMap _

end Ledger

omit [Memory] in
/-- A record shows the lock's own range and mode, and that it is valid no more. -/
theorem released_line (lock : RangeLock) :
    (Event.released lock.release).line =
      "TRACE released LockToken(position=" ++ toString lock.position ++ ", size=" ++
        toString lock.size ++ ", shared=" ++ toString lock.shared ++ ", valid=false)" := by
  have text (position size shared : String) :
      "TRACE" ++ " " ++ ("released " ++ ("LockToken(position=" ++ position ++ ", size=" ++ size ++
        ", shared=" ++ shared ++ ", valid=" ++ "false" ++ ")")) =
      "TRACE released LockToken(position=" ++ position ++ ", size=" ++ size ++
        ", shared=" ++ shared ++ ", valid=false)" := by
    rw [← String.toList_inj]
    simp
  exact text (toString lock.position) (toString lock.size) (toString lock.shared)

/-- A lock is released once. In every run it is granted valid, under the next number, and answers
that it is valid up to the first step that releases it or does away with it, be it along with its
channel, and never again. While it is there, it is as it was granted or as it was released then.
What is done to one lock changes no other. The releases on record are those of the locks that were
ended, each of them once; and with those that the end of the session adds, there is one for each
lock that was ever granted. A record shows the range and the mode that the lock was granted with,
and that it is valid no more. -/
theorem released_once (ops : List Op) :
    let s := reached ops
    let granted := grants ops
    (∀ op held, op.granted? (s.step op).1.toStepResult = some held →
      (s.step op).1.outcome = .ok (.id granted.length) ∧
        (s.step op).2.lock? granted.length = some held ∧ held.lock.valid = true) ∧
    (∀ id, (s.step (.lock id .isValid)).1.outcome = .ok (.flag true) ↔
      id < granted.length ∧ ¬ Ended ops id) ∧
    (∀ id held, s.lock? id = some held →
      granted[id]? = some held ∨ granted[id]?.map HeldLock.released = some held) ∧
    (∀ id other op, other ≠ id → (s.step (.lock id op)).2.lock? other = s.lock? other) ∧
    (∃ ended : List Nat, ended.Nodup ∧ (∀ id, id ∈ ended ↔ Ended ops id) ∧
      releases ops = ended.filterMap fun id => granted[id]?.map (·.lock.release)) ∧
    (releases ops ++ releasesIn s.finish).Perm (granted.map (·.lock.release)) ∧
    ∀ held ∈ granted, (Event.released held.lock.release).line =
      "TRACE released LockToken(position=" ++ toString held.lock.position ++ ", size=" ++
        toString held.lock.size ++ ", shared=" ++ toString held.lock.shared ++
        ", valid=false)" := by
  obtain ⟨ended, ledger⟩ := exists_ledger ops
  refine ⟨fun _ _ => ledger.grant_numbered, ledger.isValid_iff, fun _ _ => ledger.as_granted, ?_,
    ⟨ended, ledger.once, ledger.mem, ledger.recorded⟩, ledger.each_once,
    fun held _ => released_line held.lock⟩
  intro id other op distinct
  have locks : ((reached ops).step (.lock id op)).2.locks =
      (reached ops).locks.modify id op.effect := runLock_locks { reached ops with log := [] } id op
  simp only [lock?, locks, List.getElem?_modify, if_neg distinct.symm, id_map']

end

/-- Two locks on the same bytes, and one each of two other channels. One is released twice, one when
its channel is closed, and a third goes along with its channel. -/
def leases : List Op :=
  let update : Capabilities := { read := true, write := true }
  [.create .empty, .openChannel 0 update {} false, .openChannel 0 update {} false,
    .openChannel 0 update {} false, .channel 0 (.request (.lock 0 4 false)),
    .channel 0 (.request (.tryLock 0 4 false)), .channel 1 (.request (.lock 2 9 true)),
    .channel 2 (.request (.lock 7 1 true)), .lock 0 .release, .lock 0 .release,
    .channel 0 (.request .close), .lock 1 .drop, .lock 0 .drop, .channel 1 .drop, .lock 0 .release]

theorem leases_released :
    @releases .standard leases =
        [⟨0, 4, false, false⟩, ⟨0, 4, false, false⟩, ⟨2, 9, true, false⟩] ∧
      releasesIn (@finish .standard (@reached .standard leases)) = [⟨7, 1, true, false⟩] ∧
      ¬ @Ended .standard leases 3 ∧ @Ended .standard leases 2 ∧
      (@step .standard (@reached .standard leases) (.lock 3 .release)).2.lock? 2 = none ∧
      (@step .standard (@reached .standard leases)
        (.channel 2 (.request (.lock 5 5 true)))).1.outcome = .ok (.id 4) ∧
      (Event.released ⟨7, 1, true, false⟩).line =
        "TRACE released LockToken(position=7, size=1, shared=true, valid=false)" := by
  obtain ⟨numbered, valid, as_granted, others, -, -, shown⟩ := @released_once .standard leases
  refine ⟨by decide +kernel, by decide +kernel, ((valid 3).mp (by decide +kernel)).2, ?_, ?_, ?_,
    ?_⟩
  · by_contra spared
    have still := (valid 2).mpr ⟨by decide +kernel, spared⟩
    exact absurd still (by decide +kernel)
  · rw [others 3 2 .release (by decide)]
    decide +kernel
  · have granted := (numbered (.channel 2 (.request (.lock 5 5 true))) ⟨2, ⟨5, 5, true, true⟩⟩
      (by decide +kernel)).1
    exact granted.trans (by decide +kernel)
  · have there := as_granted 3 ⟨2, ⟨7, 1, true, true⟩⟩ (by decide +kernel)
    have granted : (⟨2, ⟨7, 1, true, true⟩⟩ : HeldLock) ∈ @grants .standard leases := by
      rcases there with granted | released
      · exact List.mem_of_getElem? granted
      · exact absurd released (by decide +kernel)
    exact (shown _ granted).trans (by decide +kernel)

end Session

end SharedBytes
