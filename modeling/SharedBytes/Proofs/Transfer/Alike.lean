import SharedBytes.Proofs.Transfer.Rounds

/-!
# Transfers that go alike

Two states are related; if the peers and the places of two transfers answer alike from related
states, and leave related states behind, then so do the two transfers.
-/

namespace SharedBytes

variable {σ τ α : Type}

def Action.Alike (related : σ → τ → Prop) (left : Action σ α) (right : Action τ α) : Prop :=
  ∀ s t, related s t → (left s).1 = (right t).1 ∧ related (left s).2 (right t).2

variable {related : σ → τ → Prop}

theorem Action.Alike.answers {left : Action σ α} {right : Action τ α} {s : σ} {t : τ}
    (alike : Action.Alike related left right) (before : related s t) :
    ∃ answer next next', left s = (answer, next) ∧ right t = (answer, next') ∧
      related next next' := by
  obtain ⟨same, after⟩ := alike s t before
  exact ⟨(left s).1, (left s).2, (right t).2, rfl, by rw [same], after⟩

namespace Transfer

variable {ω ω' β : Type}

/-- Two transfers from a source that keep in step. What relates their states goes by the number of
bytes moved; of what is deposited both store all, with answers that look alike, or both refuse it. -/
structure InStep (source : Source σ) (source' : Source τ)
    (deposit : Nat → Bytes → Action σ (Except StoreFailure ω))
    (deposit' : Nat → Bytes → Action τ (Except StoreFailure ω')) (view : ω → β) (view' : ω' → β)
    (related : Nat → σ → τ → Prop) : Prop where
  asked : ∀ moved slice, Action.Alike (related moved) (source slice) (source' slice)
  stored : ∀ {moved bytes s t answer next}, related moved s t → bytes ≠ [] →
    deposit moved bytes s = (.ok answer, next) →
    ∃ answer' next', deposit' moved bytes t = (.ok answer', next') ∧
      view answer = view' answer' ∧ related (moved + bytes.length) next next'
  refused : ∀ {moved bytes s t error next}, related moved s t → bytes ≠ [] →
    deposit moved bytes s = (.error error, next) →
    ∃ next', deposit' moved bytes t = (.error error, next') ∧ related moved next next'

/-- By induction over the rounds: as many bytes are left to either transfer. -/
theorem InStep.pump {source : Source σ} {source' : Source τ}
    {deposit : Nat → Bytes → Action σ (Except StoreFailure ω)}
    {deposit' : Nat → Bytes → Action τ (Except StoreFailure ω')} {view : ω → β} {view' : ω' → β}
    {related : Nat → σ → τ → Prop}
    (inStep : InStep source source' deposit deposit' view view' related) (count : Nat)
    (chunk : Bytes) {moved : Nat} {last : Option ω} {last' : Option ω'} {s : σ} {t : τ}
    (lasts : last.map view = last'.map view') (before : related moved s t) :
    let run := Transfer.pump source deposit count chunk moved last s
    let run' := Transfer.pump source' deposit' count chunk moved last' t
    run.1.map (fun result => (result.1, result.2.map view)) =
        run'.1.map (fun result => (result.1, result.2.map view')) ∧
      ∃ total, related total run.2 run'.2 := by
  induction left : count - moved using Nat.strongRecOn
    generalizing chunk moved last last' s t with
  | ind left induction =>
    rw [Transfer.pump, Transfer.pump]
    by_cases more : moved < count
    · rw [if_pos more, if_pos more]
      obtain ⟨⟨report, bytes⟩, next, next', fromLeft, fromRight, between⟩ :=
        (inStep.asked moved (slice count moved chunk)).answers before
      rw [fromLeft, fromRight]
      rcases report with kind | n
      · exact ⟨rfl, moved, between⟩
      · cases n with
        | zero =>
          simp only [Outcome.map, lasts]
          exact ⟨trivial, moved, between⟩
        | succ n =>
          by_cases short : chunk.length < n + 1
          · simp only [if_pos short]
            exact ⟨rfl, moved, between⟩
          · simp only [if_neg short]
            have length : ((refilled count moved chunk bytes).take (n + 1)).length = n + 1 := by
              rw [List.length_take, length_refilled]
              omega
            have nonempty := List.ne_nil_of_length_eq_add_one length
            rcases deposited : deposit moved ((refilled count moved chunk bytes).take (n + 1)) next
              with ⟨error | answer, final⟩
            · obtain ⟨final', refused, after⟩ := inStep.refused between nonempty deposited
              rw [refused]
              exact ⟨rfl, moved, after⟩
            · obtain ⟨answer', final', stored, same, after⟩ :=
                inStep.stored between nonempty deposited
              rw [stored]
              rw [length] at after
              exact induction (count - (moved + (n + 1))) (by omega) _ (congrArg some same) after
                rfl
    · rw [if_neg more, if_neg more]
      simp only [Outcome.map, lasts]
      exact ⟨trivial, moved, before⟩

theorem pump_alike {source : Source σ} {source' : Source τ}
    {deposit : Nat → Bytes → Action σ (Except StoreFailure ω)}
    {deposit' : Nat → Bytes → Action τ (Except StoreFailure ω)}
    (sources : ∀ slice, Action.Alike related (source slice) (source' slice))
    (deposits : ∀ moved bytes, Action.Alike related (deposit moved bytes) (deposit' moved bytes))
    (count : Nat) (chunk : Bytes) (moved : Nat) (last : Option ω) :
    Action.Alike related (pump source deposit count chunk moved last)
      (pump source' deposit' count chunk moved last) := by
  have inStep : InStep source source' deposit deposit' id id fun _ => related := by
    constructor
    · intro moved slice
      exact sources slice
    · intro moved bytes s t answer next before _ stored
      obtain ⟨same, after⟩ := deposits moved bytes s t before
      rw [stored] at same after
      exact ⟨answer, _, Prod.ext same.symm rfl, rfl, after⟩
    · intro moved bytes s t error next before _ refused
      obtain ⟨same, after⟩ := deposits moved bytes s t before
      rw [refused] at same after
      exact ⟨_, Prod.ext same.symm rfl, after⟩
  intro s t before
  obtain ⟨same, _, after⟩ := inStep.pump count chunk (rfl : last.map id = last.map id) before
  simp only [Option.map_id_fun, id_eq, Outcome.map_id'] at same
  exact ⟨same, after⟩

end Transfer

theorem Transfer.offer_alike {sink : Sink σ} {sink' : Sink τ}
    (sinks : ∀ offered, Action.Alike related (sink offered) (sink' offered)) (taken : Nat)
    (pending : Bytes) :
    Action.Alike related (offer sink taken pending) (offer sink' taken pending) := by
  induction left : pending.length using Nat.strongRecOn generalizing taken pending with
  | ind length induction =>
    intro s t before
    rw [offer, offer]
    by_cases empty : pending = []
    · rw [if_pos empty, if_pos empty]
      exact ⟨rfl, before⟩
    · rw [if_neg empty, if_neg empty]
      obtain ⟨answer, next, next', fromLeft, fromRight, after⟩ := (sinks pending).answers before
      rw [fromLeft, fromRight]
      rcases answer with kind | n
      · exact ⟨rfl, after⟩
      · cases n with
        | zero => exact ⟨rfl, after⟩
        | succ n =>
          by_cases tooMany : pending.length < n + 1
          · simp only [if_pos tooMany]
            exact ⟨trivial, after⟩
          · simp only [if_neg tooMany]
            have shorter : (pending.drop (n + 1)).length < length := by
              rw [List.length_drop]
              omega
            exact induction _ shorter _ _ rfl next next' after

theorem Transfer.drain_alike {place : Place σ} {place' : Place τ} {sink : Sink σ} {sink' : Sink τ}
    (contents : ∀ s t, related s t → (place.look s).bytes = (place'.look t).bytes)
    (sinks : ∀ offered, Action.Alike related (sink offered) (sink' offered))
    (position moved remaining : Nat) :
    Action.Alike related (drain place sink position moved remaining)
      (drain place' sink' position moved remaining) := by
  induction left : remaining using Nat.strongRecOn generalizing moved remaining with
  | ind left induction =>
    subst left
    intro s t before
    rw [drain, drain, ← contents s t before]
    by_cases exhausted : nextChunk (place.look s).bytes (position + moved) remaining = []
    · simp only [dif_pos exhausted]
      exact ⟨trivial, before⟩
    · simp only [dif_neg exhausted]
      obtain ⟨delivery, next, next', fromLeft, fromRight, after⟩ :=
        (offer_alike sinks 0 (nextChunk (place.look s).bytes (position + moved) remaining)).answers
          before
      rw [fromLeft, fromRight]
      cases delivery with
      | complete =>
        have some := List.length_pos_iff.mpr exhausted
        have bounded := length_nextChunk_le (place.look s).bytes (position + moved) remaining
        exact induction _ (by omega) _ _ rfl next next' after
      | stopped taken => exact ⟨rfl, after⟩
      | failed kind => exact ⟨rfl, after⟩

namespace Place

variable {place : Place σ} {place' : Place τ} {source : Source σ} {source' : Source τ}

theorem copyOut_alike {sink : Sink σ} {sink' : Sink τ}
    (contents : ∀ s t, related s t → (place.look s).bytes = (place'.look t).bytes)
    (sinks : ∀ offered, Action.Alike related (sink offered) (sink' offered))
    (position count : Nat) :
    Action.Alike related (place.copyOut position count sink)
      (place'.copyOut position count sink') :=
  Transfer.drain_alike contents sinks position 0 count

theorem copyIn_alike
    (sizes : ∀ s t, related s t → (place.look s).size = (place'.look t).size)
    (writes : ∀ position payload,
      Action.Alike related (place.write position payload) (place'.write position payload))
    (sources : ∀ slice, Action.Alike related (source slice) (source' slice))
    (position count : Nat) :
    Action.Alike related (place.copyIn source position count)
      (place'.copyIn source' position count) := by
  intro s t before
  rcases Nat.lt_or_ge (place.look s).size position with beyond | within
  · rw [copyIn_beyond place source count beyond,
      copyIn_beyond place' source' count (sizes s t before ▸ beyond)]
    exact ⟨rfl, before⟩
  · rw [copyIn_within place source count within,
      copyIn_within place' source' count (sizes s t before ▸ within)]
    obtain ⟨same, after⟩ := Transfer.pump_alike sources
      (fun moved bytes => writes (position + moved) [bytes]) count
      (Transfer.freshChunk count) 0 none s t before
    exact ⟨congrArg (Outcome.map (·.1)) same, after⟩

theorem copyInAtEnd_alike
    (sizes : ∀ s t, related s t → (place.look s).size = (place'.look t).size)
    (appends : ∀ payload, Action.Alike related (place.append payload) (place'.append payload))
    (sources : ∀ slice, Action.Alike related (source slice) (source' slice)) (count : Nat) :
    Action.Alike related (place.copyInAtEnd source count) (place'.copyInAtEnd source' count) := by
  intro s t before
  obtain ⟨same, after⟩ := Transfer.pump_alike sources (fun _ bytes => appends [bytes]) count
    (Transfer.freshChunk count) 0 none s t before
  refine ⟨?_, after⟩
  simp only [copyInAtEnd]
  rw [same, sizes _ _ after]

end Place

end SharedBytes
