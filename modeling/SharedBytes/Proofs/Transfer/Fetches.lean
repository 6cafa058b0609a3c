import SharedBytes.Proofs.Transfer.Rounds
import SharedBytes.Proofs.Transfer.Watched

/-!
# What a source is asked for and gives

A source is honest if it reports no more than the slice it was offered. What it gives is then what
the slice holds, up to the number reported, and a transfer deposits just that: nothing of the chunk
beyond the slice. Between two calls of the source there is one deposit, and the last call may have
none, which ends the transfer. That is said once here, for any kind of deposit.
-/

namespace SharedBytes

variable {σ ω : Type}

def Source.Honest (source : Source σ) : Prop :=
  ∀ slice s n, (source slice s).1.report = .ok n → n ≤ slice.length

theorem Source.Honest.watched {source : Source σ} (honest : source.Honest) {slice bytes : Bytes}
    {n : Nat} {w next : Watched σ (Fetch σ)}
    (asked : source.watched slice w = (⟨.ok n, bytes⟩, next)) : n ≤ slice.length :=
  honest slice w.state n (congrArg (·.1.report) asked)

/-- The bytes that a source gives: those at the front of the slice, as many as it reports. -/
def Fetch.given (fetch : Fetch σ) : Bytes :=
  (Bytes.overlay fetch.supply.bytes fetch.slice).take (fetch.supply.report.toOption.getD 0)

theorem Fetch.length_given_le (fetch : Fetch σ) : fetch.given.length ≤ fetch.slice.length := by
  rw [given, List.length_take, Bytes.length_overlay]
  exact Nat.min_le_right _ _

namespace Transfer

def given (fetches : List (Fetch σ)) : Bytes :=
  fetches.flatMap Fetch.given

@[simp] theorem given_nil : given ([] : List (Fetch σ)) = [] := rfl

@[simp] theorem given_cons (fetch : Fetch σ) (fetches : List (Fetch σ)) :
    given (fetch :: fetches) = fetch.given ++ given fetches := by
  simp [given]

@[simp] theorem given_append (earlier later : List (Fetch σ)) :
    given (earlier ++ later) = given earlier ++ given later := by
  simp [given]

def Asked (count : Nat) (fetches : List (Fetch σ)) : Prop :=
  ∀ i fetch, fetches[i]? = some fetch →
    fetch.slice.length = min chunkSize (count - (given (fetches.take i)).length)

/-- The fetches one after the other, each dealt with before the next: it begins where the one before
it was left, after so many bytes, and is left in a state to which it is related. -/
def InTurn (left : Nat → Fetch σ → σ → Prop) : Nat → σ → List (Fetch σ) → σ → Prop
  | _, s, [], final => final = s
  | moved, s, fetch :: fetches, final =>
    fetch.before = s ∧ ∃ next, left moved fetch next ∧
      InTurn left (moved + fetch.given.length) next fetches final

/-- How a transfer ends that has dealt with `total` bytes and stands in the state `mid`: the count
is reached, or one more call of the source gives nothing, fails, or gives what is refused. -/
inductive Ends {α : Type} (count total : Nat) (mid : σ) (answer : σ → α)
    (refuses : Fetch σ → StoreFailure → σ → Prop) :
    List (Fetch σ) → Outcome StoreFailure α → σ → Prop
  | full (reached : total = count) : Ends count total mid answer refuses [] (.ok (answer mid)) mid
  | dry (fetch : Fetch σ) (more : total < count) (next : fetch.before = mid)
      (nothing : fetch.supply.report = .ok 0) :
      Ends count total mid answer refuses [fetch] (.ok (answer fetch.after)) fetch.after
  | failed (fetch : Fetch σ) (kind : FailureKind) (more : total < count)
      (next : fetch.before = mid) (failed : fetch.supply.report = .error kind) :
      Ends count total mid answer refuses [fetch] (.error (.source kind)) fetch.after
  | refused (fetch : Fetch σ) (error : StoreFailure) (final : σ) (more : total < count)
      (next : fetch.before = mid) (some : fetch.given ≠ []) (refused : refuses fetch error final) :
      Ends count total mid answer refuses [fetch] (.error error) final

section

variable {left : Nat → Fetch σ → σ → Prop} {moved : Nat} {s mid : σ} {fetches : List (Fetch σ)}

theorem InTurn.concat (inTurn : InTurn left moved s fetches mid) {fetch : Fetch σ} {next : σ}
    (begins : fetch.before = mid) (leaves : left (moved + (given fetches).length) fetch next) :
    InTurn left moved s (fetches ++ [fetch]) next := by
  induction fetches generalizing moved s with
  | nil =>
    cases inTurn
    exact ⟨begins, next, leaves, rfl⟩
  | cons first fetches ih =>
    obtain ⟨starts, between, leavesFirst, rest⟩ := inTurn
    refine ⟨starts, between, leavesFirst, ih rest ?_⟩
    rwa [given_cons, List.length_append, ← Nat.add_assoc] at leaves

theorem InTurn.imp {right : Nat → Fetch σ → σ → Prop} (inTurn : InTurn left moved s fetches mid)
    (imp : ∀ moved, ∀ fetch ∈ fetches, ∀ next, left moved fetch next → right moved fetch next) :
    InTurn right moved s fetches mid := by
  induction fetches generalizing moved s with
  | nil => exact inTurn
  | cons first fetches ih =>
    obtain ⟨starts, between, leaves, rest⟩ := inTurn
    refine ⟨starts, between, imp _ _ List.mem_cons_self _ leaves, ih rest ?_⟩
    intro moved fetch member next
    exact imp moved fetch (List.mem_cons_of_mem _ member) next

theorem InTurn.getLast? (inTurn : InTurn left moved s fetches mid) {last : Fetch σ}
    (isLast : fetches.getLast? = some last) : ∃ moved, left moved last mid := by
  induction fetches generalizing moved s with
  | nil => cases isLast
  | cons first fetches ih =>
    obtain ⟨_, next, leaves, rest⟩ := inTurn
    cases fetches with
    | nil =>
      cases rest
      cases isLast
      exact ⟨moved, leaves⟩
    | cons second fetches => exact ih rest isLast

theorem InTurn.start_eq {right : Nat → Fetch σ → σ → Prop} {s' : σ}
    (inTurn : InTurn left moved s fetches mid) (again : InTurn right moved s' fetches mid) :
    s = s' := by
  cases fetches with
  | nil => exact inTurn.symm.trans again
  | cons first fetches => exact inTurn.1.symm.trans again.1

theorem InTurn.congr {right right' : Nat → Fetch σ → σ → Prop}
    (inTurn : InTurn left moved s fetches mid)
    (iff : ∀ moved fetch next, left moved fetch next →
      (right moved fetch next ↔ right' moved fetch next)) :
    InTurn right moved s fetches mid ↔ InTurn right' moved s fetches mid := by
  induction fetches generalizing moved s with
  | nil => exact Iff.rfl
  | cons first fetches ih =>
    obtain ⟨starts, next, leaves, rest⟩ := inTurn
    constructor
    · rintro ⟨_, next', holds, rest'⟩
      cases rest.start_eq rest'
      exact ⟨starts, next, (iff _ _ _ leaves).mp holds, (ih rest).mp rest'⟩
    · rintro ⟨_, next', holds, rest'⟩
      cases rest.start_eq rest'
      exact ⟨starts, next, (iff _ _ _ leaves).mpr holds, (ih rest).mpr rest'⟩

end

theorem Ends.map {α β : Type} {count total : Nat} {mid final : σ} {answer : σ → α}
    {refuses : Fetch σ → StoreFailure → σ → Prop} {rest : List (Fetch σ)}
    {outcome : Outcome StoreFailure α}
    (ends : Ends count total mid answer refuses rest outcome final)
    (f : σ → α → β) :
    Ends count total mid (fun t => f t (answer t)) refuses rest (outcome.map (f final)) final := by
  cases ends with
  | full reached => exact .full reached
  | dry fetch more next nothing => exact .dry fetch more next nothing
  | failed fetch kind more next failed => exact .failed fetch kind more next failed
  | refused fetch error final more next some refused =>
    exact .refused fetch error final more next some refused

theorem Ends.imp {α : Type} {count total : Nat} {mid final : σ} {answer : σ → α}
    {refuses refuses' : Fetch σ → StoreFailure → σ → Prop} {rest : List (Fetch σ)}
    {outcome : Outcome StoreFailure α}
    (ends : Ends count total mid answer refuses rest outcome final)
    (imp : ∀ fetch ∈ rest, fetch.given ≠ [] → fetch.before = mid → ∀ error final,
      refuses fetch error final → refuses' fetch error final) :
    Ends count total mid answer refuses' rest outcome final := by
  cases ends with
  | full reached => exact .full reached
  | dry fetch more next nothing => exact .dry fetch more next nothing
  | failed fetch kind more next failed => exact .failed fetch kind more next failed
  | refused fetch error final more next some refused =>
    exact .refused fetch error final more next some
      (imp fetch (List.mem_singleton.mpr rfl) some next error final refused)

/-- There is one more call at most, and only while some of the count is left. -/
theorem Ends.room {α : Type} {count total : Nat} {mid final : σ} {answer : σ → α}
    {refuses : Fetch σ → StoreFailure → σ → Prop} {rest : List (Fetch σ)}
    {outcome : Outcome StoreFailure α}
    (ends : Ends count total mid answer refuses rest outcome final) :
    total + rest.length ≤ count := by
  cases ends with
  | full reached => exact Nat.le_of_eq reached
  | dry _ more | failed _ _ more | refused _ _ _ more => exact more

theorem length_le_given {fetches : List (Fetch σ)} (some : ∀ fetch ∈ fetches, fetch.given ≠ []) :
    fetches.length ≤ (given fetches).length := by
  induction fetches with
  | nil => exact Nat.le_refl _
  | cons first fetches ih =>
    have head := List.length_pos_iff.mpr (some first List.mem_cons_self)
    have rest := ih fun fetch member => some fetch (List.mem_cons_of_mem _ member)
    rw [List.length_cons, given_cons, List.length_append]
    omega

/-- What the source has given until now was deposited, each time with such an answer as the last. -/
structure Intake (source : Source σ) (deposit : Nat → Bytes → Action σ (Except StoreFailure ω))
    (count : Nat) (s : σ) (fetches : List (Fetch σ)) (mid : σ) (last : Option ω) : Prop where
  answered : ∀ fetch ∈ fetches, source fetch.slice fetch.before = (fetch.supply, fetch.after)
  asked : Asked count fetches
  whole : ∀ fetch ∈ fetches, fetch.given ≠ []
  within : (given fetches).length ≤ count
  inTurn : InTurn (fun moved fetch next =>
    ∃ answer, deposit moved fetch.given fetch.after = (.ok answer, next)) 0 s fetches mid
  latest : ∀ answer ∈ last, ∃ moved bytes before, deposit moved bytes before = (.ok answer, mid)
  fresh : last = none ↔ fetches = []

structure Told (source : Source σ) (deposit : Nat → Bytes → Action σ (Except StoreFailure ω))
    (count : Nat) (s : σ) (outcome : Outcome StoreFailure (Nat × Option ω))
    (w : Watched σ (Fetch σ)) (stored rest : List (Fetch σ)) (mid : σ) (last : Option ω) :
    Prop where
  seen : w.seen = stored ++ rest
  answered : ∀ fetch ∈ w.seen, source fetch.slice fetch.before = (fetch.supply, fetch.after)
  asked : Asked count w.seen
  intake : Intake source deposit count s stored mid last
  ends : Ends count (given stored).length mid (fun _ => ((given stored).length, last))
    (fun fetch error final =>
      deposit (given stored).length fetch.given fetch.after = (.error error, final))
    rest outcome w.state

theorem Told.calls_le {source : Source σ} {deposit : Nat → Bytes → Action σ (Except StoreFailure ω)}
    {count : Nat} {s : σ} {outcome : Outcome StoreFailure (Nat × Option ω)}
    {w : Watched σ (Fetch σ)} {stored rest : List (Fetch σ)} {mid : σ} {last : Option ω}
    (told : Told source deposit count s outcome w stored rest mid last) :
    w.seen.length ≤ count := by
  have calls := length_le_given told.intake.whole
  have room := told.ends.room
  rw [told.seen, List.length_append]
  omega

section

variable {source : Source σ} {deposit : Nat → Bytes → Action σ (Except StoreFailure ω)}
  {count : Nat} {s : σ} {w next : Watched σ (Fetch σ)} {last : Option ω} {chunk : Bytes}

theorem Intake.fetch (intake : Intake source deposit count s w.seen w.state last)
    (full : chunk.length = min count chunkSize) {supply : Supply}
    (asked : source.watched (slice count (given w.seen).length chunk) w = (supply, next)) :
    ∃ fetch : Fetch σ, next.seen = w.seen ++ [fetch] ∧ fetch.before = w.state ∧
      fetch.slice = slice count (given w.seen).length chunk ∧ fetch.supply = supply ∧
      fetch.after = next.state ∧ Asked count next.seen ∧
      ∀ fetch ∈ next.seen, source fetch.slice fetch.before = (fetch.supply, fetch.after) := by
  cases asked
  refine ⟨_, rfl, rfl, rfl, rfl, rfl, ?_, ?_⟩
  · refine forall_getElem?_concat
      (P := fun earlier (fetch : Fetch σ) =>
        fetch.slice.length = min chunkSize (count - (given earlier).length)) intake.asked ?_
    rw [length_slice, full]
    omega
  · exact List.forall_mem_append.mpr ⟨intake.answered, List.forall_mem_singleton.mpr rfl⟩

/-- An honest source is believed in no more than it has put into its slice. -/
theorem given_eq {moved : Nat} {fetch : Fetch σ} {bytes : Bytes} {n : Nat}
    (offered : fetch.slice = slice count moved chunk) (supplied : fetch.supply = ⟨.ok n, bytes⟩)
    (fits : n ≤ (slice count moved chunk).length) :
    (refilled count moved chunk bytes).take n = fetch.given ∧ fetch.given.length = n := by
  have length : n ≤ (Bytes.overlay bytes (slice count moved chunk)).length := by
    rwa [Bytes.length_overlay]
  have given : fetch.given = (Bytes.overlay bytes (slice count moved chunk)).take n := by
    rw [Fetch.given, offered, supplied]
    rfl
  rw [given]
  exact ⟨List.take_append_of_le_length length, List.length_take_of_le length⟩

theorem fetch_rounds (honest : source.Honest) :
    Rounds source.watched (fun moved bytes => (deposit moved bytes).unseen) count
      (fun chunk moved last w => chunk.length = min count chunkSize ∧
        moved = (given w.seen).length ∧ Intake source deposit count s w.seen w.state last)
      (fun outcome w => ∃ stored rest mid last,
        Told source deposit count s outcome w stored rest mid last) where
  finished := by
    rintro chunk _ last w ⟨_, rfl, intake⟩ reached
    have whole := Nat.le_antisymm intake.within reached
    exact ⟨w.seen, [], w.state, last, (List.append_nil _).symm, intake.answered, intake.asked,
      intake, .full whole⟩
  failed := by
    rintro chunk _ last w kind bytes next ⟨full, rfl, intake⟩ more answered
    obtain ⟨fetch, seen, begins, _, supplied, after, asked, calls⟩ := intake.fetch full answered
    refine ⟨w.seen, [fetch], w.state, last, seen, calls, asked, intake, ?_⟩
    rw [← after]
    exact .failed fetch kind more begins (by rw [supplied])
  ended := by
    rintro chunk _ last w bytes next ⟨full, rfl, intake⟩ more answered
    obtain ⟨fetch, seen, begins, _, supplied, after, asked, calls⟩ := intake.fetch full answered
    refine ⟨w.seen, [fetch], w.state, last, seen, calls, asked, intake, ?_⟩
    rw [← after]
    exact .dry fetch more begins (by rw [supplied])
  overrun := by
    rintro chunk _ last w n bytes next ⟨_, rfl, _⟩ _ answered short
    have fits := honest.watched answered
    rw [length_slice] at fits
    omega
  refused := by
    rintro chunk _ last w n bytes next error final ⟨full, rfl, intake⟩ more answered _ refusal
    obtain ⟨fetch, seen, begins, offered, supplied, after, asked, calls⟩ :=
      intake.fetch full answered
    obtain ⟨deposited, length⟩ := given_eq offered supplied (honest.watched answered)
    obtain ⟨refused, same⟩ := Action.unseen_eq refusal
    rw [deposited, ← after] at refused
    have some : fetch.given ≠ [] := List.ne_nil_of_length_eq_add_one length
    exact ⟨w.seen, [fetch], w.state, last, same.trans seen, same ▸ calls, same ▸ asked, intake,
      .refused fetch error final.state more begins some refused⟩
  stored := by
    rintro chunk _ last w n bytes next answer final ⟨full, rfl, intake⟩ more answered _ storage
    obtain ⟨fetch, seen, begins, offered, supplied, after, asked, calls⟩ :=
      intake.fetch full answered
    have fits := honest.watched answered
    obtain ⟨deposited, length⟩ := given_eq offered supplied fits
    obtain ⟨stored, same⟩ := Action.unseen_eq storage
    rw [deposited, ← after] at stored
    have total : given (w.seen ++ [fetch]) = given w.seen ++ fetch.given := by
      rw [given_append, given_cons, given_nil, List.append_nil]
    have counted : (given (w.seen ++ [fetch])).length = (given w.seen).length + (n + 1) := by
      rw [total, List.length_append, length]
    have some : fetch.given ≠ [] := List.ne_nil_of_length_eq_add_one length
    rw [length_slice] at fits
    rw [seen] at calls asked
    rw [same, seen]
    refine ⟨by rw [length_refilled, full], counted.symm, calls, asked, ?_, ?_, ?_, ?_, ?_⟩
    · exact List.forall_mem_append.mpr ⟨intake.whole, List.forall_mem_singleton.mpr some⟩
    · rw [counted]
      omega
    · exact intake.inTurn.concat begins ⟨answer, by rwa [Nat.zero_add]⟩
    · rintro _ ⟨⟩
      exact ⟨_, _, _, stored⟩
    · simp

theorem pump_fetches (honest : source.Honest)
    (deposit : Nat → Bytes → Action σ (Except StoreFailure ω)) (count : Nat) (s : σ) :
    let run := pump source.watched (fun moved bytes => (deposit moved bytes).unseen) count
      (freshChunk count) 0 none { state := s }
    ∃ stored rest mid last, Told source deposit count s run.1 run.2 stored rest mid last := by
  apply pump_ends (fetch_rounds honest)
  exact ⟨length_freshChunk count, rfl, nofun, nofun, nofun, Nat.zero_le count, rfl, nofun, by simp⟩

end

end Transfer

end SharedBytes
