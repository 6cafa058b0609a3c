import SharedBytes.Proofs.Transfer.Laying

/-!
# Gaps that a source makes

A transfer to a position compares it with the size of the buffer once, before the source is asked
for the first time. Each chunk is then laid at its offset in the buffer as the source has left it,
which may have become shorter. So a chunk joins on to the content just if the source has not left
the buffer short of the offset; else zeros that nobody has put there fill the gap. If all chunks
join on, it is known of each byte where it comes from.
-/

namespace SharedBytes

/-- Each byte there is after bytes were laid at an offset was there before, or was laid. -/
def Bytes.Seamless (before : Bytes) (offset : Nat) (laid after : Bytes) : Prop :=
  ∀ i byte, after[i]? = some byte →
    before[i]? = some byte ∨ offset ≤ i ∧ laid[i - offset]? = some byte

theorem Bytes.seamless_splice_iff (before : Bytes) (offset : Nat) (laid : Bytes) :
    Seamless before offset laid (before.splice offset laid) ↔ offset ≤ before.length := by
  constructor
  · intro seamless
    apply Nat.le_of_not_lt
    intro short
    have zero : (before.splice offset laid)[before.length]? = some 0 := by
      rw [getElem?_splice, if_neg (by omega), if_neg (Nat.lt_irrefl _), if_pos short]
    rcases seamless _ _ zero with there | ⟨behind, _⟩
    · rw [List.getElem?_eq_none (Nat.le_refl _)] at there
      cases there
    · omega
  · intro joined i byte found
    rw [getElem?_splice] at found
    by_cases covered : offset ≤ i ∧ i < offset + laid.length
    · rw [if_pos covered] at found
      exact .inr ⟨covered.1, found⟩
    · rw [if_neg covered] at found
      by_cases old : i < before.length
      · rw [if_pos old] at found
        exact .inl found
      · rw [if_neg old, if_neg (by omega)] at found
        cases found

namespace Transfer

section

variable {σ : Type} {place : Place σ} {position moved i : Nat} {s mid final : σ}
  {stored rest : List (Fetch σ)} {byte : UInt8}

def Joined (place : Place σ) (position : Nat) : Nat → σ → List (Fetch σ) → σ → Prop :=
  InTurn fun moved fetch _ => position + moved ≤ (place.look fetch.after).size

def Seamless (place : Place σ) (position : Nat) : Nat → σ → List (Fetch σ) → σ → Prop :=
  InTurn fun moved fetch next =>
    (place.look fetch.after).bytes.Seamless (position + moved) fetch.given (place.look next).bytes

/-- Where a byte comes from: it was there at the start, or the source has put it there while it was
called, or has given it for this very place. -/
inductive Known (place : Place σ) (position : Nat) (s : σ) (stored rest : List (Fetch σ)) (i : Nat)
    (byte : UInt8) : Prop
  | old (there : (place.look s).bytes[i]? = some byte)
  | put (fetch : Fetch σ) (member : fetch ∈ stored ++ rest)
      (new : (place.look fetch.before).bytes[i]? ≠ some byte)
      (there : (place.look fetch.after).bytes[i]? = some byte)
  | given (behind : position ≤ i) (there : (given stored)[i - position]? = some byte)

theorem Known.of_after {fetch : Fetch σ} (member : fetch ∈ stored ++ rest)
    (there : (place.look fetch.after).bytes[i]? = some byte) :
    Known place position fetch.before stored rest i byte := by
  by_cases old : (place.look fetch.before).bytes[i]? = some byte
  · exact .old old
  · exact .put fetch member old there

/-- By induction over the fetches, from the last to the first: what is old after a fetch is stored
was old before, or the fetch has brought it. -/
theorem Seamless.known (seamless : Seamless place position moved s stored mid)
    (last : place.look final = place.look mid ∨
      ∃ fetch ∈ rest, fetch.before = mid ∧ place.look final = place.look fetch.after)
    (there : (place.look final).bytes[i]? = some byte) :
    Known place (position + moved) s stored rest i byte := by
  induction stored generalizing moved s with
  | nil =>
    cases seamless
    rcases last with same | ⟨fetch, member, rfl, same⟩
    · rw [same] at there
      exact .old there
    · rw [same] at there
      exact .of_after member there
  | cons first stored ih =>
    obtain ⟨rfl, next, joins, remaining⟩ := seamless
    have head : first ∈ first :: stored ++ rest := List.mem_cons_self
    cases ih remaining with
    | old held =>
      rcases joins i byte held with before | ⟨behind, brought⟩
      · exact .of_after head before
      · refine .given behind ?_
        have bound : i - (position + moved) < first.given.length :=
          (List.getElem?_eq_some_iff.mp brought).1
        rwa [given_cons, List.getElem?_append_left bound]
    | put fetch member new held => exact .put fetch (List.mem_cons_of_mem first member) new held
    | given behind brought =>
      refine .given (by omega) ?_
      rw [given_cons, List.getElem?_append_right (by omega)]
      rwa [show i - (position + moved) - first.given.length =
        i - (position + (moved + first.given.length)) by omega]

variable [Memory] {source : Source σ}

/-- A source that never shortens the buffer leaves no gap to be filled. -/
theorem InTurn.joined
    (inTurn : InTurn (fun moved fetch => Laid place (position + moved) fetch) moved s stored mid)
    (inside : position + moved ≤ (place.look s).size)
    (grows : ∀ fetch ∈ stored, (place.look fetch.before).size ≤ (place.look fetch.after).size) :
    Joined place position moved s stored mid := by
  induction stored generalizing moved s with
  | nil => exact inTurn
  | cons first stored ih =>
    obtain ⟨rfl, next, laid, remaining⟩ := inTurn
    have joins := Nat.le_trans inside (grows first List.mem_cons_self)
    have further : position + (moved + first.given.length) ≤ (place.look next).size := by
      rw [laid.content, Buffer.size, Bytes.length_splice]
      omega
    exact ⟨rfl, next, joins,
      ih remaining further fun fetch member => grows fetch (List.mem_cons_of_mem first member)⟩

/-- When a transfer from a source that works on the buffer leaves no gap: just if each time the
source has left the buffer no shorter than up to the offset. -/
theorem copyIn_seamless_iff (faithful : place.Faithful) (honest : source.Honest)
    (position count : Nat) (s : σ) :
    let run := place.watched.copyIn source.watched position count { state := s }
    (run.1, run.2.state) = place.copyIn source position count s ∧
      ((place.look s).size < position → run = (.ok 0, { state := s })) ∧
      (position ≤ (place.look s).size →
        ∃ stored rest mid, run.2.seen = stored ++ rest ∧
          Interleaved place (fun moved _ => position + moved) count s
            (fun _ => (given stored).length) run.1 run.2.state stored rest mid ∧
          (Seamless place position 0 s stored mid ↔ Joined place position 0 s stored mid) ∧
          (Joined place position 0 s stored mid →
            ∀ i byte, (place.look run.2.state).bytes[i]? = some byte →
              Known place position s stored rest i byte) ∧
          ((∀ fetch ∈ stored, (place.look fetch.before).size ≤ (place.look fetch.after).size) →
            Joined place position 0 s stored mid)) := by
  refine ⟨place.copyIn_watched source position count s, ?_, ?_⟩
  · intro beyond
    exact Place.copyIn_beyond _ _ count beyond
  · intro inside
    obtain ⟨stored, rest, mid, last, told⟩ := pump_fetches honest
      (fun moved bytes => place.write (position + moved) [bytes]) count s
    rw [Place.copyIn_within place.watched source.watched count (s := { state := s }) inside]
    have interleaved := told.interleaved honest (faithful.writes_lay position) fun _ result =>
      result.1
    have iff : Seamless place position 0 s stored mid ↔ Joined place position 0 s stored mid := by
      apply interleaved.inTurn.congr
      intro moved fetch next laid
      rw [laid.content]
      exact Bytes.seamless_splice_iff _ _ _
    refine ⟨stored, rest, mid, told.seen, interleaved, iff, ?_, ?_⟩
    · intro joined i byte there
      exact (iff.mpr joined).known interleaved.look_final there
    · exact interleaved.inTurn.joined inside

end

theorem growing_seamless :
    let source := sipping fun buffer => { buffer with bytes := buffer.bytes ++ [255] }
    let s : Buffer × Bytes := (.ofBytes [1, 2, 3], [7, 8, 9])
    let run := besideBytes.watched.copyIn source.watched 3 3 { state := s }
    run.1 = .ok 3 ∧ run.2.state.1.bytes = [1, 2, 3, 7, 8, 9] ∧
      ∃ stored rest mid, run.2.seen = stored ++ rest ∧ Seamless besideBytes 3 0 s stored mid ∧
        ∀ i byte, run.2.state.1.bytes[i]? = some byte →
          Known besideBytes 3 s stored rest i byte := by
  intro source s run
  obtain ⟨_, _, within⟩ := @copyIn_seamless_iff _ besideBytes .standard source
    besideBytes_faithful (sipping_honest _) 3 3 s
  obtain ⟨stored, rest, mid, calls, _, iff, known, grows⟩ := within (by decide)
  have longer : ∀ fetch ∈ run.2.seen, fetch.before.1.size ≤ fetch.after.1.size := by
    simp only [run, source, s]
    decide +kernel
  have joined : Joined besideBytes 3 0 s stored mid := by
    apply grows
    intro fetch member
    apply longer fetch
    rw [show run.2.seen = stored ++ rest from calls]
    exact List.mem_append_left rest member
  refine ⟨?_, ?_, stored, rest, mid, calls, iff.mpr joined, known joined⟩
  all_goals
    simp only [run, source, s]
    decide +kernel

theorem cutting_not_seamless :
    let source := sipping (·.truncate 1)
    let s : Buffer × Bytes := (.ofBytes [1, 2, 3, 4, 5, 6], [7, 8])
    let run := besideBytes.watched.copyIn source.watched 4 2 { state := s }
    source.Honest ∧ besideBytes.copyIn source 4 2 s = (.ok 2, .ofBytes [1, 0, 0, 0, 7, 8], []) ∧
      ¬ Seamless besideBytes 4 0 s run.2.seen run.2.state ∧
      ¬ Known besideBytes 4 s run.2.seen [] 1 0 := by
  intro source s run
  have stored : besideBytes.copyIn source 4 2 s = (.ok 2, .ofBytes [1, 0, 0, 0, 7, 8], []) := by
    simp only [source, s]
    decide +kernel
  have zero : run.2.state.1.bytes[1]? = some 0 := by
    have same : run.2.state = _ := congrArg Prod.snd
      ((besideBytes.copyIn_watched source 4 2 s).trans stored)
    rw [same]
    rfl
  have left : run.2.seen.map (·.after.1.bytes) = [[1]] := by
    simp only [run, source, s]
    decide +kernel
  obtain ⟨fetch, calls, cut⟩ := List.map_eq_singleton_iff.mp left
  rw [calls]
  refine ⟨sipping_honest _, stored, ?_, ?_⟩
  · rintro ⟨_, next, seamless, rfl⟩
    rcases seamless 1 0 zero with old | ⟨behind, _⟩
    · rw [show (besideBytes.look fetch.after).bytes = [1] from cut] at old
      cases old
    · omega
  · rintro (old | ⟨put, member, _, there⟩ | ⟨behind, _⟩)
    · cases old
    · rw [List.append_nil] at member
      rw [List.mem_singleton.mp member, show (besideBytes.look fetch.after).bytes = [1] from cut]
        at there
      cases there
    · omega

end Transfer

end SharedBytes
