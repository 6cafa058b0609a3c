import SharedBytes.Proofs.Transfer.Rounds

/-!
# Copies from one buffer to another

Where the peer of a transfer stands for a buffer as well, a transfer in either direction is the same
copy. `relay` is that copy, in a state `τ` that holds the contents alone. A transfer into a sink or
from a source ends as the relay does when each of its rounds does what a round of the relay does:
`Pushes` and `Pulls` say so of the sink and of the source, for a relation between the state of the
transfer and that of the relay.
-/

namespace SharedBytes.Transfer

variable {σ τ ω ν : Type}

def relay (content : τ → Bytes) (deposit : Nat → Bytes → Action τ (Except StoreFailure ω))
    (position count moved : Nat) (t : τ) : Except StoreFailure Nat × τ :=
  let chunk := nextChunk (content t) (position + moved) (count - moved)
  if _exhausted : chunk = [] then (.ok moved, t)
  else
    match deposit moved chunk t with
    | (.error error, next) => (.error error, next)
    | (.ok _, next) => relay content deposit position count (moved + chunk.length) next
termination_by count - moved
decreasing_by
  have nonempty : chunk.length ≠ 0 := fun h => _exhausted (List.length_eq_zero_iff.mp h)
  have bounded := length_nextChunk_le (content t) (position + moved) (count - moved)
  simp only [chunk] at nonempty
  omega

section

variable {content : τ → Bytes} {deposit : Nat → Bytes → Action τ (Except StoreFailure ω)}
  {position count moved : Nat} {t next : τ}

theorem relay_exhausted
    (exhausted : nextChunk (content t) (position + moved) (count - moved) = []) :
    relay content deposit position count moved t = (.ok moved, t) := by
  rw [relay, dif_pos exhausted]

theorem relay_refused {error : StoreFailure}
    (more : nextChunk (content t) (position + moved) (count - moved) ≠ [])
    (refused : deposit moved (nextChunk (content t) (position + moved) (count - moved)) t =
      (.error error, next)) :
    relay content deposit position count moved t = (.error error, next) := by
  rw [relay, dif_neg more, refused]

theorem relay_stored {answer : ω}
    (more : nextChunk (content t) (position + moved) (count - moved) ≠ [])
    (stored : deposit moved (nextChunk (content t) (position + moved) (count - moved)) t =
      (.ok answer, next)) :
    relay content deposit position count moved t =
      relay content deposit position count
        (moved + (nextChunk (content t) (position + moved) (count - moved)).length) next := by
  rw [relay, dif_neg more, stored]

end

/-- A relay fails only as one of its deposits does. -/
theorem relay_error (content : τ → Bytes) (deposit : Nat → Bytes → Action τ (Except StoreFailure ω))
    (position count moved : Nat) (t : τ) {error : StoreFailure}
    (failed : (relay content deposit position count moved t).1 = .error error) :
    ∃ offset chunk before, chunk ≠ [] ∧ (deposit offset chunk before).1 = .error error := by
  fun_induction relay content deposit position count moved t with
  | case1 moved t chunk exhausted => cases failed
  | case2 moved t chunk more refusal after refused =>
    cases failed
    exact ⟨moved, chunk, t, more, congrArg Prod.fst refused⟩
  | case3 moved t chunk more answer after stored induction => exact induction failed

/-- A relay in which each round finds more bytes and stores them moves as many as it was asked. -/
theorem relay_completes {content : τ → Bytes}
    {deposit : Nat → Bytes → Action τ (Except StoreFailure ω)} {position count : Nat}
    {kept : Nat → τ → Prop}
    (round : ∀ moved t, moved < count → kept moved t →
      let chunk := nextChunk (content t) (position + moved) (count - moved)
      chunk ≠ [] ∧ ∃ answer next, deposit moved chunk t = (.ok answer, next) ∧
        kept (moved + chunk.length) next)
    (moved : Nat) (t : τ) (within : moved ≤ count) (before : kept moved t) :
    ∃ final, relay content deposit position count moved t = (.ok count, final) ∧
      kept count final := by
  induction left : count - moved using Nat.strongRecOn generalizing moved t with
  | ind left induction =>
    by_cases finished : moved = count
    · subst finished
      have exhausted : nextChunk (content t) (position + moved) (moved - moved) = [] := by
        rw [Nat.sub_self, nextChunk, Nat.zero_min, List.take_zero]
      exact ⟨t, relay_exhausted exhausted, before⟩
    · obtain ⟨more, answer, next, stored, after⟩ := round moved t (by omega) before
      have progress := List.length_pos_iff.mpr more
      have bounded := length_nextChunk_le (content t) (position + moved) (count - moved)
      rw [relay_stored more stored]
      exact induction _ (by omega) _ next (by omega) after rfl

/-- A state that stands where a relay has ended, if `related` holds of the number of bytes moved and
of the states of the two. -/
def Reached (related : Nat → σ → τ → Prop) (copy : Except StoreFailure Nat × τ) (s : σ) : Prop :=
  ∃ moved, related moved s copy.2 ∧ ∀ n, copy.1 = .ok n → moved = n

theorem reached_ok {related : Nat → σ → τ → Prop} {moved : Nat} {s : σ} {t : τ}
    (kept : related moved s t) : Reached related (.ok moved, t) s := by
  refine ⟨moved, kept, ?_⟩
  intro n same
  cases same
  rfl

theorem reached_error {related : Nat → σ → τ → Prop} {moved : Nat} {error : StoreFailure} {s : σ}
    {t : τ} (kept : related moved s t) : Reached related (.error error, t) s := by
  refine ⟨moved, kept, ?_⟩
  intro n impossible
  cases impossible

theorem offer_whole {sink : Sink σ} {pending : Bytes} {s next : σ} (taken : Nat)
    (nonempty : pending ≠ []) (accepted : sink pending s = (.ok pending.length, next)) :
    offer sink taken pending s = (.complete, next) := by
  cases pending with
  | nil => exact absurd rfl nonempty
  | cons head tail =>
    have rest : (head :: tail).drop (tail.length + 1) = [] := by simp
    rw [offer, if_neg nonempty, accepted]
    simp only [List.length_cons, Nat.lt_irrefl, if_false, rest]
    rw [offer, if_pos rfl]

theorem offer_failed {sink : Sink σ} {pending : Bytes} {s next : σ} {kind : FailureKind}
    (taken : Nat) (nonempty : pending ≠ []) (failed : sink pending s = (.error kind, next)) :
    offer sink taken pending s = (.failed kind, next) := by
  rw [offer, if_neg nonempty, failed]

/-- A sink that does with each chunk what the deposit does. `related` holds of the number of bytes
moved and of the two states. -/
structure Pushes (place : Place σ) (sink : Sink σ) (content : τ → Bytes)
    (deposit : Nat → Bytes → Action τ (Except StoreFailure ω)) (related : Nat → σ → τ → Prop) :
    Prop where
  looks : ∀ {moved s t}, related moved s t → (place.look s).bytes = content t
  taken : ∀ {moved s t chunk answer after}, related moved s t → chunk ≠ [] →
    deposit moved chunk t = (.ok answer, after) →
    ∃ next, sink chunk s = (.ok chunk.length, next) ∧ related (moved + chunk.length) next after
  refused : ∀ {moved s t chunk error after}, related moved s t → chunk ≠ [] →
    deposit moved chunk t = (.error error, after) →
    ∃ next, sink chunk s = (.error error.kind, next) ∧ related moved next after

theorem drain_relay {place : Place σ} {sink : Sink σ} {content : τ → Bytes}
    {deposit : Nat → Bytes → Action τ (Except StoreFailure ω)} {related : Nat → σ → τ → Prop}
    (pushes : Pushes place sink content deposit related) (position count moved : Nat) (s : σ)
    (t : τ) (before : related moved s t) :
    let run := drain place sink position moved (count - moved) s
    let copy := relay content deposit position count moved t
    run.1 = copy.1.mapError (fun error => .sink error.kind) ∧ Reached related copy run.2 := by
  induction left : count - moved using Nat.strongRecOn generalizing moved s t with
  | ind left induction =>
    rw [drain, pushes.looks before, ← left]
    by_cases exhausted : nextChunk (content t) (position + moved) (count - moved) = []
    · rw [dif_pos exhausted, relay_exhausted exhausted]
      exact ⟨rfl, reached_ok before⟩
    · rw [dif_neg exhausted]
      rcases deposited : deposit moved
        (nextChunk (content t) (position + moved) (count - moved)) t with ⟨error | answer, after⟩
      · obtain ⟨next, answered, kept⟩ := pushes.refused before exhausted deposited
        rw [offer_failed 0 exhausted answered, relay_refused exhausted deposited]
        exact ⟨rfl, reached_error kept⟩
      · obtain ⟨next, answered, kept⟩ := pushes.taken before exhausted deposited
        rw [offer_whole 0 exhausted answered, relay_stored exhausted deposited]
        have progress := List.length_pos_iff.mpr exhausted
        have bounded := length_nextChunk_le (content t) (position + moved) (count - moved)
        have rest := induction _ (by omega) _ next after kept rfl
        rwa [← Nat.sub_sub] at rest

/-- A source that gives the content from the cursor on, and deposits that do what those of the relay
do. `related` holds of the number of bytes that the source has given and of the two states. -/
structure Pulls (source : Source σ) (store : Nat → Bytes → Action σ (Except StoreFailure ν))
    (content : τ → Bytes) (deposit : Nat → Bytes → Action τ (Except StoreFailure ω))
    (position : Nat) (related : Nat → σ → τ → Prop) : Prop where
  given : ∀ {moved s t} (slice : Bytes), related moved s t →
    let chunk := ((content t).drop (position + moved)).take slice.length
    ∃ bytes next, source slice s = (⟨.ok chunk.length, bytes⟩, next) ∧
      bytes.take chunk.length = chunk ∧ related (moved + chunk.length) next t
  stored : ∀ {moved given s t chunk answer after}, related given s t → chunk ≠ [] →
    deposit moved chunk t = (.ok answer, after) →
    ∃ receipt next, store moved chunk s = (.ok receipt, next) ∧ related given next after
  refused : ∀ {moved given s t chunk error after}, related given s t → chunk ≠ [] →
    deposit moved chunk t = (.error error, after) →
    ∃ next, store moved chunk s = (.error error, next) ∧ related given next after

theorem take_refilled (count moved : Nat) (chunk : Bytes) {bytes : Bytes} {n : Nat}
    (held : n ≤ bytes.length) (offered : n ≤ (slice count moved chunk).length) :
    (refilled count moved chunk bytes).take n = bytes.take n := by
  have length : n ≤ (Bytes.overlay bytes (slice count moved chunk)).length := by
    rwa [Bytes.length_overlay]
  rw [refilled, List.take_append_of_le_length length, Bytes.overlay,
    List.take_append_of_le_length (by rw [List.length_take]; omega), List.take_take,
    Nat.min_eq_left offered]

/-- The chunk that a source gives into the slice it is offered is the one that the relay moves. -/
theorem take_slice (content : Bytes) (start : Nat) {count moved : Nat} {chunk : Bytes}
    (full : chunk.length = min count chunkSize) :
    (content.drop start).take (slice count moved chunk).length =
      nextChunk content start (count - moved) := by
  have offered : (slice count moved chunk).length = min (count - moved) chunkSize := by
    rw [length_slice, full]
    omega
  rw [offered, nextChunk]

section

variable {source : Source σ} {store : Nat → Bytes → Action σ (Except StoreFailure ν)}
  {content : τ → Bytes} {deposit : Nat → Bytes → Action τ (Except StoreFailure ω)}
  {position count : Nat} {related : Nat → σ → τ → Prop}

theorem Pulls.supplied (pulls : Pulls source store content deposit position related)
    {chunk : Bytes} {moved : Nat} {s next : σ} {t : τ} {supply : Supply}
    (full : chunk.length = min count chunkSize) (kept : related moved s t)
    (asked : source (slice count moved chunk) s = (supply, next)) :
    let given := nextChunk (content t) (position + moved) (count - moved)
    supply.report = .ok given.length ∧ given.length ≤ chunk.length ∧
      (refilled count moved chunk supply.bytes).take given.length = given ∧
      related (moved + given.length) next t := by
  obtain ⟨bytes, after, answered, delivered, moving⟩ :=
    pulls.given (slice count moved chunk) kept
  rw [take_slice (content t) (position + moved) full] at answered delivered moving
  rw [asked] at answered
  cases answered
  have offered : (nextChunk (content t) (position + moved) (count - moved)).length ≤
      (slice count moved chunk).length := by
    rw [← take_slice (content t) (position + moved) full, List.length_take]
    exact Nat.min_le_left _ _
  have held : (nextChunk (content t) (position + moved) (count - moved)).length ≤
      bytes.length := by
    rw [← delivered, List.length_take]
    exact Nat.min_le_right _ _
  refine ⟨rfl, ?_, ?_, moving⟩
  · rw [length_slice] at offered
    omega
  · rw [take_refilled count moved chunk held offered]
    exact delivered

def Abreast (content : τ → Bytes) (deposit : Nat → Bytes → Action τ (Except StoreFailure ω))
    (position count : Nat) (related : Nat → σ → τ → Prop) (copy : Except StoreFailure Nat × τ)
    (chunk : Bytes) (moved : Nat) (s : σ) : Prop :=
  chunk.length = min count chunkSize ∧
    ∃ t, related moved s t ∧ relay content deposit position count moved t = copy

theorem pull_rounds (pulls : Pulls source store content deposit position related)
    (copy : Except StoreFailure Nat × τ) :
    Rounds source store count
      (fun chunk moved _ s => Abreast content deposit position count related copy chunk moved s)
      (fun outcome s => outcome.map (·.1) = Outcome.ofExcept copy.1 ∧ Reached related copy s) where
  finished := by
    intro chunk moved last s before reached
    obtain ⟨_, t, kept, same⟩ := before
    have exhausted : nextChunk (content t) (position + moved) (count - moved) = [] := by
      rw [Nat.sub_eq_zero_of_le reached, nextChunk, Nat.zero_min, List.take_zero]
    rw [← same, relay_exhausted exhausted]
    exact ⟨rfl, reached_ok kept⟩
  failed := by
    intro chunk moved last s kind bytes next before _ asked
    obtain ⟨full, t, kept, same⟩ := before
    obtain ⟨report, _⟩ := pulls.supplied full kept asked
    cases report
  ended := by
    intro chunk moved last s bytes next before _ asked
    obtain ⟨full, t, kept, same⟩ := before
    obtain ⟨report, _, _, moving⟩ := pulls.supplied full kept asked
    have exhausted : nextChunk (content t) (position + moved) (count - moved) = [] :=
      List.eq_nil_of_length_eq_zero (Except.ok.inj report).symm
    rw [exhausted] at moving
    rw [← same, relay_exhausted exhausted]
    exact ⟨rfl, reached_ok moving⟩
  overrun := by
    intro chunk moved last s n bytes next before _ asked short
    obtain ⟨full, t, kept, same⟩ := before
    obtain ⟨report, fits, _⟩ := pulls.supplied full kept asked
    have length := Except.ok.inj report
    omega
  refused := by
    intro chunk moved last s n bytes next error final before _ asked _ refusal
    obtain ⟨full, t, kept, same⟩ := before
    obtain ⟨report, _, delivered, moving⟩ := pulls.supplied full kept asked
    have length := Except.ok.inj report
    have more := List.ne_nil_of_length_eq_add_one length.symm
    rw [length, delivered] at refusal
    rcases deposited : deposit moved
      (nextChunk (content t) (position + moved) (count - moved)) t with ⟨failure | _, after⟩
    · obtain ⟨_, refused, related⟩ := pulls.refused moving more deposited
      rw [refused] at refusal
      cases refusal
      rw [← same, relay_refused more deposited]
      exact ⟨rfl, reached_error related⟩
    · obtain ⟨_, _, stored, _⟩ := pulls.stored moving more deposited
      rw [stored] at refusal
      cases refusal
  stored := by
    intro chunk moved last s n bytes next answer final before _ asked _ storage
    obtain ⟨full, t, kept, same⟩ := before
    obtain ⟨report, _, delivered, moving⟩ := pulls.supplied full kept asked
    have length := Except.ok.inj report
    have more := List.ne_nil_of_length_eq_add_one length.symm
    rw [length, delivered] at storage
    rcases deposited : deposit moved
      (nextChunk (content t) (position + moved) (count - moved)) t with ⟨failure | _, after⟩
    · obtain ⟨_, refused, _⟩ := pulls.refused moving more deposited
      rw [refused] at storage
      cases storage
    · obtain ⟨_, _, stored, related⟩ := pulls.stored moving more deposited
      rw [stored] at storage
      cases storage
      rw [relay_stored more deposited] at same
      rw [← length] at same related
      exact ⟨by rw [length_refilled, full], after, related, same⟩

theorem pump_relay (pulls : Pulls source store content deposit position related) (count : Nat)
    (s : σ) (t : τ) (before : related 0 s t) :
    let run := pump source store count (freshChunk count) 0 none s
    let copy := relay content deposit position count 0 t
    run.1.map (·.1) = Outcome.ofExcept copy.1 ∧ Reached related copy run.2 := by
  intro run copy
  apply pump_ends (pull_rounds pulls copy)
  exact ⟨length_freshChunk count, t, before, rfl⟩

end

end SharedBytes.Transfer
