import SharedBytes.Proofs.Transfer.Laying

/-!
# Transfers from a source that leaves the buffer alone

What a transfer stores at a position is what the source has given, as far as the buffer admits it:
the fetches that were stored are laid one behind the other from the position on, whatever their
sizes. The transfer ends at the first fetch that gives nothing, fails or is refused, and of that one
nothing is stored.
-/

namespace SharedBytes.Transfer

section

variable {σ : Type} [Memory] {place : Place σ} {source : Source σ} {position count moved : Nat}
  {s mid : σ} {fetches stored rest : List (Fetch σ)}

/-- A transfer that has stored some fetches from a position on, each admitted by the buffer that the
transfer has found, and has ended with the rest. -/
structure StoredAt (place : Place σ) (position count : Nat) (s : σ)
    (outcome : Outcome StoreFailure Nat) (final : σ) (stored rest : List (Fetch σ)) : Prop where
  whole : ∀ fetch ∈ stored, fetch.given ≠ []
  reported : ∀ fetch ∈ stored, fetch.supply.report = .ok fetch.given.length
  admitted : ∀ i < stored.length,
    (place.look s).Admits (position + (given (stored.take (i + 1))).length)
  within : (given stored).length ≤ count
  content : place.look final =
    { place.look s with bytes := (place.look s).bytes.splice position (given stored) }
  ends : ∃ mid, Ends count (given stored).length mid (fun _ => (given stored).length)
    (fun fetch error _ =>
      let stop := position + (given stored).length + fetch.given.length
      ¬ (place.look s).Admits stop ∧
        error = .capacityExceeded ((place.look s).limit.getD maxPosition) stop)
    rest outcome final

/-- By induction over the fetches, with the position going on past each. -/
theorem InTurn.spliced
    (apart : ∀ fetch ∈ fetches, place.look fetch.after = place.look fetch.before)
    (inside : position + moved ≤ (place.look s).size)
    (inTurn : InTurn (fun moved fetch => Laid place (position + moved) fetch) moved s fetches mid) :
    place.look mid =
        { place.look s with
          bytes := (place.look s).bytes.splice (position + moved) (given fetches) } ∧
      ∀ i < fetches.length,
        (place.look s).Admits (position + moved + (given (fetches.take (i + 1))).length) := by
  induction fetches generalizing moved s with
  | nil =>
    cases inTurn
    rw [given_nil, Bytes.splice_nil inside]
    exact ⟨rfl, nofun⟩
  | cons first fetches ih =>
    obtain ⟨rfl, next, ⟨admitted, after⟩, remaining⟩ := inTurn
    rw [apart first List.mem_cons_self] at admitted after
    have further : position + (moved + first.given.length) ≤ (place.look next).size := by
      rw [after, Buffer.size, Bytes.length_splice]
      omega
    obtain ⟨content, admits⟩ := ih
      (fun fetch member => apart fetch (List.mem_cons_of_mem _ member)) further remaining
    rw [← Nat.add_assoc, after] at content
    constructor
    · rw [content, given_cons, ← Bytes.splice_append]
    · intro i bound
      cases i with
      | zero => simpa using admitted
      | succ i =>
        have later := admits i (Nat.lt_of_succ_lt_succ bound)
        rw [after, Buffer.admits_splice_iff admitted] at later
        rwa [List.take_succ_cons, given_cons, List.length_append, ← Nat.add_assoc,
          Nat.add_assoc position]

theorem stop_admitted (inside : position ≤ (place.look s).size)
    (admitted : ∀ i < stored.length,
      (place.look s).Admits (position + (given (stored.take (i + 1))).length)) :
    (place.look s).Admits (position + (given stored).length) := by
  rcases Nat.eq_zero_or_pos stored.length with none | some
  · rw [List.eq_nil_of_length_eq_zero none]
    exact .inl inside
  · have last := admitted (stored.length - 1) (by omega)
    rwa [List.take_of_length_le (by omega)] at last

theorem Interleaved.storedAt {outcome : Outcome StoreFailure Nat} {final : σ}
    (interleaved : Interleaved place (fun moved _ => position + moved) count s
      (fun _ => (given stored).length) outcome final stored rest mid)
    (untouched : ∀ fetch ∈ stored ++ rest, place.look fetch.after = place.look fetch.before)
    (asked : Asked count (stored ++ rest)) (fits : (place.look s).size ≤ maxPosition)
    (inside : position ≤ (place.look s).size) :
    StoredAt place position count s outcome final stored rest := by
  obtain ⟨content, admitted⟩ := interleaved.inTurn.spliced
    (fun fetch member => untouched fetch (List.mem_append_left rest member)) inside
  rw [Nat.add_zero] at content admitted
  have reaches := stop_admitted inside admitted
  have same : place.look final = place.look mid := by
    rcases interleaved.look_final with same | ⟨fetch, member, begins, same⟩
    · exact same
    · rw [same, untouched fetch (List.mem_append_right stored member), begins]
  refine ⟨interleaved.whole, interleaved.reported, admitted, interleaved.within,
    same.trans content, mid, ?_⟩
  apply interleaved.ends.imp
  intro fetch member some begins error final refused
  have found := untouched fetch (List.mem_append_right stored member)
  rw [begins, content] at found
  obtain ⟨beyond, failure, _⟩ := refused
  rw [found] at beyond failure
  rw [Buffer.admits_splice_iff reaches] at beyond
  -- The chunk that is refused ends at most a chunk's size behind a position, and so within a word.
  have word : position + (given stored).length + fetch.given.length ≤ maxWord := by
    have held := reaches.inRange fits
    obtain ⟨i, at_i⟩ := List.getElem?_of_mem (List.mem_append_right stored member)
    have offered := asked i fetch at_i
    have length := fetch.length_given_le
    rw [maxPosition] at held
    rw [chunkSize] at offered
    rw [maxWord]
    omega
  rw [Buffer.overflow, Nat.min_eq_left word] at failure
  exact ⟨beyond, failure⟩

/-- What a source gives that leaves the buffer alone is stored at a position, fetch by fetch. No
content that fits into memory is longer than `maxPosition`. -/
theorem copyIn_stores (faithful : place.Faithful) (honest : source.Honest)
    (apart : ∀ slice s, place.look (source slice s).2 = place.look s)
    (fits : (place.look s).size ≤ maxPosition) (position count : Nat) :
    let run := place.watched.copyIn source.watched position count { state := s }
    (run.1, run.2.state) = place.copyIn source position count s ∧
      ((place.look s).size < position → run = (.ok 0, { state := s })) ∧
      (position ≤ (place.look s).size →
        Asked count run.2.seen ∧ run.2.seen.length ≤ count ∧
          ∃ stored rest, run.2.seen = stored ++ rest ∧
            StoredAt place position count s run.1 run.2.state stored rest) := by
  refine ⟨place.copyIn_watched source position count s, ?_, ?_⟩
  · intro beyond
    exact Place.copyIn_beyond _ _ count beyond
  · intro inside
    obtain ⟨stored, rest, mid, last, told⟩ := pump_fetches honest
      (fun moved bytes => place.write (position + moved) [bytes]) count s
    rw [Place.copyIn_within place.watched source.watched count (s := { state := s }) inside]
    have interleaved := told.interleaved honest (faithful.writes_lay position) fun _ result =>
      result.1
    have untouched : ∀ fetch ∈ stored ++ rest,
        place.look fetch.after = place.look fetch.before := by
      intro fetch member
      have same := apart fetch.slice fetch.before
      rwa [told.answered fetch (told.seen ▸ member)] at same
    exact ⟨told.asked, told.calls_le, stored, rest, told.seen,
      interleaved.storedAt untouched (told.seen ▸ told.asked) fits inside⟩

end

theorem sipping_stores :
    let s : Buffer × Bytes := ({ bytes := [1, 2, 3], limit := some 7 }, [7, 8, 9, 10, 11, 12])
    let run := besideBytes.watched.copyIn (sipping id).watched 2 10 { state := s }
    run.1 = .error (.capacityExceeded 7 8) ∧ run.2.state.1.bytes = [1, 2, 7, 8, 9, 10] ∧
      ∃ stored rest, run.2.seen = stored ++ rest ∧
        @StoredAt _ .standard besideBytes 2 10 s run.1 run.2.state stored rest := by
  intro s run
  have fits : (besideBytes.look s).size ≤ maxPosition := by decide
  obtain ⟨_, _, within⟩ := @copyIn_stores _ .standard besideBytes (sipping id) s
    besideBytes_faithful (sipping_honest id) (fun _ _ => rfl) fits 2 10
  refine ⟨?_, ?_, (within (by decide)).2.2⟩
  all_goals
    simp only [run, s]
    decide +kernel

end SharedBytes.Transfer
