import Mathlib.Tactic.ByContra
import SharedBytes.Proofs.Channel.Calls
import SharedBytes.Proofs.Transfer.Alike

/-!
# Sources that report too much

A tally notes beside the state what a source was asked and has reported, and how many bytes the
transfer has stored. The reports may be any numbers. The main statement says for which reports a
transfer from a source keeps within its count: when no report exceeds the chunk, and none that is
stored exceeds the slice. A report of more than the chunk cuts the transfer short, and a stored
report of more than the slice exceeds the count.
-/

namespace SharedBytes

variable {σ : Type}

structure SourceCall where
  offered : Nat
  report : Except FailureKind Nat

def SourceCall.Within (bound : Nat) (call : SourceCall) : Prop :=
  ∀ n, call.report = .ok n → n ≤ bound

structure Tally (σ : Type) where
  state : σ
  calls : List SourceCall := []
  stored : Nat := 0

def Tally.count {α : Type} (payload : List Bytes) : Except StoreFailure α → Nat
  | .ok _ => payload.flatten.length
  | .error _ => 0

def Source.tallied (source : Source σ) : Source (Tally σ) := fun slice t =>
  let result := source slice t.state
  (result.1,
    { t with state := result.2, calls := t.calls ++ [⟨slice.length, result.1.report⟩] })

def Place.tallied (place : Place σ) : Place (Tally σ) where
  look t := place.look t.state
  write position payload t :=
    let result := place.write position payload t.state
    (result.1, { t with state := result.2, stored := t.stored + Tally.count payload result.1 })
  append payload t :=
    let result := place.append payload t.state
    (result.1, { t with state := result.2, stored := t.stored + Tally.count payload result.1 })
  truncate size t := { t with state := place.truncate size t.state }
  release t := { t with state := place.release t.state }

namespace Place

variable (place : Place σ) (source : Source σ)

/-- The tally only watches. -/
theorem copyIn_erase (position count : Nat) :
    Action.Alike (fun t s => t.state = s) (place.tallied.copyIn source.tallied position count)
      (place.copyIn source position count) := by
  apply copyIn_alike
  · intro t s same
    subst same
    rfl
  · intro position payload t s same
    subst same
    exact ⟨rfl, rfl⟩
  · intro slice t s same
    subst same
    exact ⟨rfl, rfl⟩

theorem copyInAtEnd_erase (count : Nat) :
    Action.Alike (fun t s => t.state = s) (place.tallied.copyInAtEnd source.tallied count)
      (place.copyInAtEnd source count) := by
  apply copyInAtEnd_alike
  · intro t s same
    subst same
    rfl
  · intro payload t s same
    subst same
    exact ⟨rfl, rfl⟩
  · intro slice t s same
    subst same
    exact ⟨rfl, rfl⟩

end Place

namespace Transfer

structure Accounted {ε : Type} (count : Nat) (outcome : Outcome ε Nat) (t : Tally σ) : Prop where
  aborted_iff : outcome = .aborted ↔ ∃ call ∈ t.calls, ¬ call.Within (min count chunkSize)
  excess_iff : count < t.stored ↔
    (∃ n, outcome = .ok n) ∧ ∃ call ∈ t.calls, ¬ call.Within call.offered
  answer_eq : ∀ n, outcome = .ok n → n = t.stored

/-- Between the rounds only a report that was stored can have exceeded its slice, and then the count
is exceeded as well. -/
structure Midway (count : Nat) (chunk : Bytes) (moved : Nat) (t : Tally σ) : Prop where
  full : chunk.length = min count chunkSize
  counted : t.stored = moved
  within : ∀ call ∈ t.calls, call.Within (min count chunkSize)
  slices : (moved ≤ count ∧ ∀ call ∈ t.calls, call.Within call.offered) ∨
    (count < moved ∧ ∃ call ∈ t.calls, ¬ call.Within call.offered)

theorem Midway.honest {count moved : Nat} {chunk : Bytes} {t : Tally σ}
    (midway : Midway count chunk moved t) (more : moved < count) :
    ∀ call ∈ t.calls, call.Within call.offered := by
  rcases midway.slices with ⟨_, honest⟩ | ⟨exceeded, _⟩
  · exact honest
  · omega

theorem Midway.offered_eq {count moved : Nat} {chunk : Bytes} {t : Tally σ}
    (midway : Midway count chunk moved t) :
    (slice count moved chunk).length = min (count - moved) chunkSize := by
  rw [length_slice, midway.full]
  omega

section

variable {ε : Type} {count : Nat} {t : Tally σ}

theorem accounted_ok {n : Nat} (answer : n = t.stored)
    (within : ∀ call ∈ t.calls, call.Within (min count chunkSize))
    (slices : (n ≤ count ∧ ∀ call ∈ t.calls, call.Within call.offered) ∨
      (count < n ∧ ∃ call ∈ t.calls, ¬ call.Within call.offered)) :
    Accounted count (.ok n : Outcome ε Nat) t where
  aborted_iff := by
    constructor
    · intro impossible
      cases impossible
    · intro reported
      obtain ⟨call, member, beyond⟩ := reported
      exact absurd (within call member) beyond
  excess_iff := by
    rw [← answer]
    rcases slices with ⟨kept, honest⟩ | ⟨exceeded, dishonest⟩
    · constructor
      · intro exceeded
        omega
      · intro reported
        obtain ⟨_, call, member, beyond⟩ := reported
        exact absurd (honest call member) beyond
    · exact iff_of_true exceeded ⟨⟨n, rfl⟩, dishonest⟩
  answer_eq := by
    intro m same
    cases same
    exact answer

theorem accounted_error {error : ε} (kept : t.stored ≤ count)
    (within : ∀ call ∈ t.calls, call.Within (min count chunkSize)) :
    Accounted count (.error error) t where
  aborted_iff := by
    constructor
    · intro impossible
      cases impossible
    · intro reported
      obtain ⟨call, member, beyond⟩ := reported
      exact absurd (within call member) beyond
  excess_iff := by
    constructor
    · intro exceeded
      omega
    · intro reported
      obtain ⟨⟨n, impossible⟩, _⟩ := reported
      cases impossible
  answer_eq := by
    intro n impossible
    cases impossible

theorem accounted_aborted (kept : t.stored ≤ count)
    (beyond : ∃ call ∈ t.calls, ¬ call.Within (min count chunkSize)) :
    Accounted count (.aborted : Outcome ε Nat) t where
  aborted_iff := iff_of_true rfl beyond
  excess_iff := by
    constructor
    · intro exceeded
      omega
    · intro reported
      obtain ⟨⟨n, impossible⟩, _⟩ := reported
      cases impossible
  answer_eq := by
    intro n impossible
    cases impossible

end

theorem forall_calls_append {P : SourceCall → Prop} {calls : List SourceCall} {call : SourceCall}
    (earlier : ∀ call ∈ calls, P call) (last : P call) : ∀ other ∈ calls ++ [call], P other := by
  intro other member
  rcases List.mem_append.mp member with old | new
  · exact earlier other old
  · rwa [List.mem_singleton.mp new]

theorem pump_accounted {ω : Type} (source : Source σ)
    {deposit : Nat → Bytes → Action (Tally σ) (Except StoreFailure ω)}
    (counts : ∀ moved bytes t answer final, deposit moved bytes t = (answer, final) →
      final.calls = t.calls ∧ final.stored = t.stored + Tally.count [bytes] answer)
    (count : Nat) (s : σ) :
    let run := pump source.tallied deposit count (freshChunk count) 0 none { state := s }
    Accounted count (run.1.map (·.1)) run.2 := by
  have asked {piece t supply next} (answered : source.tallied piece t = (supply, next)) :
      next.calls = t.calls ++ [⟨piece.length, supply.report⟩] ∧ next.stored = t.stored := by
    cases answered
    exact ⟨rfl, rfl⟩
  have rounds : Rounds source.tallied deposit count
      (fun chunk moved _ t => Midway count chunk moved t)
      (fun outcome t => Accounted count (outcome.map (·.1)) t) :=
    { finished := by
        intro chunk moved last t midway reached
        exact accounted_ok midway.counted.symm midway.within midway.slices
      failed := by
        intro chunk moved last t kind bytes next midway more answered
        obtain ⟨calls, stored⟩ := asked answered
        apply accounted_error
        · rw [stored, midway.counted]
          omega
        · rw [calls]
          exact forall_calls_append midway.within nofun
      ended := by
        intro chunk moved last t bytes next midway more answered
        obtain ⟨calls, stored⟩ := asked answered
        apply accounted_ok
        · rw [stored, midway.counted]
        · rw [calls]
          apply forall_calls_append midway.within
          intro n same
          cases same
          exact Nat.zero_le _
        · rw [calls]
          refine .inl ⟨Nat.le_of_lt more, forall_calls_append (midway.honest more) ?_⟩
          intro n same
          cases same
          exact Nat.zero_le _
      overrun := by
        intro chunk moved last t n bytes next midway more answered short
        obtain ⟨calls, stored⟩ := asked answered
        apply accounted_aborted
        · rw [stored, midway.counted]
          omega
        · rw [calls, ← midway.full]
          refine ⟨_, List.mem_append_right _ (List.mem_singleton.mpr rfl), ?_⟩
          intro within
          have := within (n + 1) rfl
          omega
      refused := by
        intro chunk moved last t n bytes next error final midway more answered fits refusal
        obtain ⟨calls, stored⟩ := asked answered
        obtain ⟨sameCalls, same⟩ := counts _ _ _ _ _ refusal
        apply accounted_error
        · rw [same, stored, midway.counted, Tally.count]
          omega
        · rw [sameCalls, calls]
          apply forall_calls_append midway.within
          intro m same
          cases same
          rwa [← midway.full]
      stored := by
        intro chunk moved last t n bytes next answer final midway more answered fits storage
        obtain ⟨calls, stored⟩ := asked answered
        obtain ⟨sameCalls, grown⟩ := counts _ _ _ _ _ storage
        refine ⟨by rw [length_refilled, midway.full], ?_, ?_, ?_⟩
        · rw [grown, stored, midway.counted]
          simp only [Tally.count, List.flatten_singleton, List.length_take, length_refilled]
          omega
        · rw [sameCalls, calls]
          apply forall_calls_append midway.within
          intro m same
          cases same
          rwa [← midway.full]
        · have offered := midway.offered_eq
          have full := midway.full
          rw [sameCalls, calls]
          by_cases honest : n + 1 ≤ (slice count moved chunk).length
          · refine .inl ⟨by omega, forall_calls_append (midway.honest more) ?_⟩
            intro m same
            cases same
            exact honest
          · -- The slice is the whole rest of the count here, for the report fits the chunk.
            refine .inr ⟨by omega, _, List.mem_append_right _ (List.mem_singleton.mpr rfl), ?_⟩
            intro within
            exact honest (within (n + 1) rfl) }
  apply pump_ends rounds
  exact ⟨length_freshChunk count, rfl, by simp, .inl ⟨Nat.zero_le count, by simp⟩⟩

/-- What is asked of a transfer from a source: that it comes to its end, and that it neither stores
nor reports more than the count. -/
structure KeepsCount {ε : Type} (count : Nat) (outcome : Outcome ε Nat) (stored : Nat) : Prop where
  finished : outcome ≠ .aborted
  stored_le : stored ≤ count
  answer_le : ∀ n, outcome = .ok n → n ≤ count

/-- What is asked of the reports: that none exceeds the chunk, and that none exceeds its slice if
all of them were stored. -/
def Credible {ε : Type} (count : Nat) (outcome : Outcome ε Nat) (calls : List SourceCall) : Prop :=
  (∀ call ∈ calls, call.Within (min count chunkSize)) ∧
    ((∃ n, outcome = .ok n) → ∀ call ∈ calls, call.Within call.offered)

theorem Accounted.keepsCount_iff {ε : Type} {count : Nat} {outcome : Outcome ε Nat} {t : Tally σ}
    (accounted : Accounted count outcome t) :
    KeepsCount count outcome t.stored ↔ Credible count outcome t.calls := by
  constructor
  · intro keeps
    constructor
    · intro call member
      by_contra beyond
      exact keeps.finished (accounted.aborted_iff.mpr ⟨call, member, beyond⟩)
    · intro through call member
      by_contra beyond
      have exceeded := accounted.excess_iff.mpr ⟨through, call, member, beyond⟩
      have kept := keeps.stored_le
      omega
  · intro credible
    obtain ⟨within, honest⟩ := credible
    have kept : t.stored ≤ count := by
      by_contra exceeded
      obtain ⟨through, call, member, beyond⟩ := accounted.excess_iff.mp (by omega)
      exact beyond (honest through call member)
    refine ⟨?_, kept, ?_⟩
    · intro aborted
      obtain ⟨call, member, beyond⟩ := accounted.aborted_iff.mp aborted
      exact beyond (within call member)
    · intro n same
      rwa [accounted.answer_eq n same]

theorem Accounted.mapError {ε δ : Type} {count : Nat} {outcome : Outcome ε Nat} {t : Tally σ}
    (accounted : Accounted count outcome t) (f : ε → δ) : Accounted count (outcome.mapError f) t := by
  obtain ⟨aborted, excess, answer⟩ := accounted
  cases outcome with
  | ok n => exact ⟨by simpa [Outcome.mapError] using aborted, by simpa [Outcome.mapError] using excess,
      by simpa [Outcome.mapError] using answer⟩
  | error failure =>
    exact ⟨by simpa [Outcome.mapError] using aborted, by simpa [Outcome.mapError] using excess, nofun⟩
  | aborted =>
    exact ⟨by simpa [Outcome.mapError] using aborted, by simpa [Outcome.mapError] using excess, nofun⟩

end Transfer

namespace Place

open Transfer

variable (place : Place σ) (source : Source σ)

theorem copyIn_accounted (position count : Nat) (s : σ) :
    let run := place.tallied.copyIn source.tallied position count { state := s }
    Accounted count run.1 run.2 := by
  rcases Nat.lt_or_ge (place.look s).size position with beyond | within
  · rw [place.tallied.copyIn_beyond source.tallied count beyond]
    exact accounted_ok rfl nofun (.inl ⟨Nat.zero_le count, nofun⟩)
  · rw [place.tallied.copyIn_within source.tallied count within]
    apply pump_accounted
    intro moved bytes t answer final same
    cases same
    exact ⟨rfl, rfl⟩

theorem copyInAtEnd_accounted (count : Nat) (s : σ) :
    let run := place.tallied.copyInAtEnd source.tallied count { state := s }
    Accounted count (run.1.map (·.written)) run.2 := by
  have counts : ∀ (moved : Nat) bytes t answer final,
      place.tallied.append [bytes] t = (answer, final) →
      final.calls = t.calls ∧ final.stored = t.stored + Tally.count [bytes] answer := by
    intro moved bytes t answer final same
    cases same
    exact ⟨rfl, rfl⟩
  have accounted := pump_accounted source counts count s
  obtain ⟨written, state⟩ := place.tallied.copyInAtEnd_pumps source.tallied count { state := s }
  simp only [written, state]
  exact accounted

end Place

namespace Channel

open Transfer

theorem copyIn_accounted (channel : Channel) (place : Place σ) (source : Source σ)
    (position count : Nat) (s : σ) :
    let reply := channel.copyIn place.tallied.store source.tallied position count { state := s }
    Accounted count reply.result reply.state := by
  cases verdict : channel.refusal? .writable [("position", position), ("count", count)] with
  | some failure =>
    rw [copyIn_refused _ verdict]
    exact accounted_error (Nat.zero_le count) nofun
  | none =>
    cases mode : channel.capabilities.isAppending with
    | true =>
      obtain ⟨result, _, state⟩ := copyIn_appending place.tallied.store verdict mode source.tallied
        { state := s }
      simp only [result, state]
      exact (place.copyInAtEnd_accounted source count s).mapError _
    | false =>
      obtain ⟨result, _, state⟩ := copyIn_positional place.tallied.store verdict mode
        source.tallied { state := s }
      simp only [result, state]
      exact (place.copyIn_accounted source position count s).mapError _

theorem copyIn_erase (channel : Channel) (place : Place σ) (source : Source σ)
    (position count : Nat) (s : σ) :
    (channel.copyIn place.tallied.store source.tallied position count { state := s }).result =
      (channel.copyIn place.store source position count s).result := by
  cases verdict : channel.refusal? .writable [("position", position), ("count", count)] with
  | some failure => rw [copyIn_refused _ verdict, copyIn_refused _ verdict]
  | none =>
    cases mode : channel.capabilities.isAppending with
    | true =>
      rw [(copyIn_appending _ verdict mode _ _).1, (copyIn_appending _ verdict mode _ _).1]
      have same := (place.copyInAtEnd_erase source count { state := s } s rfl).1
      exact congrArg (fun outcome => (outcome.map (·.written)).mapError ChannelFailure.store) same
    | false =>
      rw [(copyIn_positional _ verdict mode _ _).1, (copyIn_positional _ verdict mode _ _).1]
      have same := (place.copyIn_erase source position count { state := s } s rfl).1
      exact congrArg (Outcome.mapError ChannelFailure.store) same

end Channel

namespace Transfer

/-- When transfers from a source keep within their count: at a position, at the end, and through
any channel. -/
theorem copies_keep_count_iff (place : Place σ) (source : Source σ) (position count : Nat)
    (s : σ) :
    (let outcome := (place.copyIn source position count s).1
      let tally := (place.tallied.copyIn source.tallied position count { state := s }).2
      KeepsCount count outcome tally.stored ↔ Credible count outcome tally.calls) ∧
    (let outcome := (place.copyInAtEnd source count s).1.map (·.written)
      let tally := (place.tallied.copyInAtEnd source.tallied count { state := s }).2
      KeepsCount count outcome tally.stored ↔ Credible count outcome tally.calls) ∧
    ∀ channel : Channel,
      let outcome := (channel.copyIn place.store source position count s).result
      let tally :=
        (channel.copyIn place.tallied.store source.tallied position count { state := s }).state
      KeepsCount count outcome tally.stored ↔ Credible count outcome tally.calls := by
  refine ⟨?_, ?_, ?_⟩
  · have accounted := place.copyIn_accounted source position count s
    simp only [← (place.copyIn_erase source position count { state := s } s rfl).1]
    exact accounted.keepsCount_iff
  · have accounted := place.copyInAtEnd_accounted source count s
    simp only [← (place.copyInAtEnd_erase source count { state := s } s rfl).1]
    exact accounted.keepsCount_iff
  · intro channel
    have accounted := channel.copyIn_accounted place source position count s
    simp only [← channel.copyIn_erase place source position count s]
    exact accounted.keepsCount_iff

def boaster : Source Buffer := fun _ buffer => (⟨.ok 2, []⟩, buffer)

theorem boaster_not_keepsCount :
    let place := @Place.ofPart Buffer .standard id fun buffer _ => buffer
    let outcome := (place.copyInAtEnd boaster 1 .empty).1.map (·.written)
    let tally := (place.tallied.copyInAtEnd boaster.tallied 1 { state := .empty }).2
    outcome = .aborted ∧ ¬ KeepsCount 1 outcome tally.stored := by
  have cut : ((@Place.ofPart Buffer .standard id fun buffer _ => buffer).copyInAtEnd
      boaster 1 .empty).1.map (·.written) = .aborted := by
    simp [Place.copyInAtEnd, pump, boaster, freshChunk, chunkSize, Outcome.map]
  exact ⟨cut, fun keeps => keeps.finished cut⟩

end Transfer

end SharedBytes
