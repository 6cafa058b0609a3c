import SharedBytes.Buffer.Transfer

/-!
# The rounds of a transfer from a source

A transfer from a source goes round by round: the source is offered a slice of the chunk, and what
it reports is deposited. `Transfer.Rounds` states what each way out of a round has to establish and
what a round that goes on has to keep; `Transfer.pump_ends` concludes from it how the whole transfer
ends.
-/

namespace SharedBytes.Transfer

variable {σ ω : Type}

/-- What the rounds of a transfer have to establish: `inv` holds between the rounds, of the chunk,
the number of bytes moved, the last answer and the state; `post` holds of the outcome and the state
when a round is the last. -/
structure Rounds (source : Source σ) (deposit : Nat → Bytes → Action σ (Except StoreFailure ω))
    (count : Nat) (inv : Bytes → Nat → Option ω → σ → Prop)
    (post : Outcome StoreFailure (Nat × Option ω) → σ → Prop) : Prop where
  finished : ∀ chunk moved last s, inv chunk moved last s → count ≤ moved →
    post (.ok (moved, last)) s
  failed : ∀ chunk moved last s kind bytes next, inv chunk moved last s → moved < count →
    source (slice count moved chunk) s = (⟨.error kind, bytes⟩, next) →
    post (.error (.source kind)) next
  ended : ∀ chunk moved last s bytes next, inv chunk moved last s → moved < count →
    source (slice count moved chunk) s = (⟨.ok 0, bytes⟩, next) →
    post (.ok (moved, last)) next
  overrun : ∀ chunk moved last s n bytes next, inv chunk moved last s → moved < count →
    source (slice count moved chunk) s = (⟨.ok (n + 1), bytes⟩, next) → chunk.length < n + 1 →
    post .aborted next
  refused : ∀ chunk moved last s n bytes next error final, inv chunk moved last s →
    moved < count → source (slice count moved chunk) s = (⟨.ok (n + 1), bytes⟩, next) →
    n + 1 ≤ chunk.length →
    deposit moved ((refilled count moved chunk bytes).take (n + 1)) next = (.error error, final) →
    post (.error error) final
  stored : ∀ chunk moved last s n bytes next answer final, inv chunk moved last s →
    moved < count → source (slice count moved chunk) s = (⟨.ok (n + 1), bytes⟩, next) →
    n + 1 ≤ chunk.length →
    deposit moved ((refilled count moved chunk bytes).take (n + 1)) next = (.ok answer, final) →
    inv (refilled count moved chunk bytes) (moved + (n + 1)) (some answer) final

variable {source : Source σ} {deposit : Nat → Bytes → Action σ (Except StoreFailure ω)}
  {count : Nat} {inv : Bytes → Nat → Option ω → σ → Prop}
  {post : Outcome StoreFailure (Nat × Option ω) → σ → Prop}

theorem pump_ends (rounds : Rounds source deposit count inv post) (chunk : Bytes) (moved : Nat)
    (last : Option ω) (s : σ) (before : inv chunk moved last s) :
    post (pump source deposit count chunk moved last s).1
      (pump source deposit count chunk moved last s).2 := by
  induction left : count - moved using Nat.strongRecOn generalizing chunk moved last s with
  | ind left induction =>
    rw [pump]
    by_cases more : moved < count
    · rw [if_pos more]
      rcases asked : source (slice count moved chunk) s with ⟨⟨report, bytes⟩, next⟩
      rcases report with kind | n
      · exact rounds.failed chunk moved last s kind bytes next before more asked
      · cases n with
        | zero => exact rounds.ended chunk moved last s bytes next before more asked
        | succ n =>
          by_cases short : chunk.length < n + 1
          · simp only [if_pos short]
            exact rounds.overrun chunk moved last s n bytes next before more asked short
          · have fits : n + 1 ≤ chunk.length := Nat.le_of_not_lt short
            simp only [if_neg short]
            rcases deposited : deposit moved ((refilled count moved chunk bytes).take (n + 1)) next
              with ⟨error | answer, final⟩
            · exact rounds.refused chunk moved last s n bytes next error final before more asked
                fits deposited
            · have after := rounds.stored chunk moved last s n bytes next answer final before more
                asked fits deposited
              exact induction (count - (moved + (n + 1))) (by omega) _ _ _ _ after rfl
    · rw [if_neg more]
      exact rounds.finished chunk moved last s before (Nat.le_of_not_lt more)

end SharedBytes.Transfer

namespace SharedBytes.Place

open Transfer

variable {σ : Type} (place : Place σ) (source : Source σ)

theorem copyIn_beyond {position : Nat} (count : Nat) {s : σ}
    (beyond : (place.look s).size < position) :
    place.copyIn source position count s = (.ok 0, s) :=
  if_pos beyond

theorem copyIn_within {position : Nat} (count : Nat) {s : σ}
    (within : position ≤ (place.look s).size) :
    place.copyIn source position count s =
      let run := pump source (fun moved bytes => place.write (position + moved) [bytes]) count
        (freshChunk count) 0 none s
      (run.1.map (·.1), run.2) :=
  if_neg (Nat.not_lt_of_le within)

theorem copyInAtEnd_pumps (count : Nat) (s : σ) :
    let run := pump source (fun _ bytes => place.append [bytes]) count (freshChunk count) 0 none s
    (place.copyInAtEnd source count s).1.map (·.written) = run.1.map (·.1) ∧
      (place.copyInAtEnd source count s).2 = run.2 := by
  rw [copyInAtEnd]
  rcases pump source (fun _ bytes => place.append [bytes]) count (freshChunk count) 0 none s with
    ⟨_ | _ | _, _⟩ <;> exact ⟨rfl, rfl⟩

section

variable {kind : FailureKind} {count : Nat} {s : σ} (some : 0 < count)

include some

theorem copyOut_failing {sink : Sink σ} (fails : ∀ offered, sink offered s = (.error kind, s))
    {position : Nat} (more : position < (place.look s).size) :
    place.copyOut position count sink s = (.error (.sink kind), s) := by
  have nonempty : nextChunk (place.look s).bytes (position + 0) count ≠ [] := by
    refine List.ne_nil_of_length_pos ?_
    simp only [nextChunk, List.length_take, List.length_drop, chunkSize]
    simp only [Buffer.size] at more
    omega
  rw [copyOut, drain]
  simp only [dif_neg nonempty]
  rw [offer, if_neg nonempty, fails]

variable {source}
  (fails : ∀ slice, (source slice s).1.report = .error kind ∧ (source slice s).2 = s)

include fails

omit place in
theorem pump_failing {ω : Type} (deposit : Nat → Bytes → Action σ (Except StoreFailure ω))
    (chunk : Bytes) (last : Option ω) :
    pump source deposit count chunk 0 last s = (.error (.source kind), s) := by
  obtain ⟨reported, state⟩ := fails (slice count 0 chunk)
  rw [pump, if_pos some]
  rcases asked : source (slice count 0 chunk) s with ⟨⟨report, bytes⟩, next⟩
  rw [asked] at reported state
  cases reported
  cases state
  rfl

theorem copyIn_failing {position : Nat} (within : position ≤ (place.look s).size) :
    place.copyIn source position count s = (.error (.source kind), s) := by
  rw [copyIn_within place source count within, pump_failing some fails]
  rfl

theorem copyInAtEnd_failing :
    place.copyInAtEnd source count s = (.error (.source kind), s) := by
  rw [copyInAtEnd, pump_failing some fails]
  rfl

end

end SharedBytes.Place
