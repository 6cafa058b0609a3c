import SharedBytes.Proofs.Checked.Steps
import SharedBytes.Proofs.Transfer.Fetches

/-!
# Transfers, step by step

A transfer counts the bytes that it has moved. It adds the count to its position to know where it
stands, and takes it away from what it was asked for to know what is left. Here each of these steps
is checked, and so is each slice that is taken of the content or of the chunk. The peer may do to
the content what it likes as long as memory holds it: what was moved last had its place in the
content as it was then, and that bounds the next sum. Only a source has to be honest. One that
reports more than its slice may make the transfer take a piece of the chunk that is not there.
-/

namespace SharedBytes.Checked

variable {σ ω : Type}

inductive Offered where
  | complete (moved : Nat)
  | stopped (moved : Nat)
  | failed (kind : FailureKind)

def offer (sink : Sink σ) (moved : Nat) (pending : Bytes) (s : σ) : Option (Offered × σ) :=
  if pending = [] then some (.complete moved, s)
  else
    match sink pending s with
    | (.error kind, s) => some (.failed kind, s)
    | (.ok 0, s) => some (.stopped moved, s)
    | (.ok (n + 1), s) =>
      if pending.length < n + 1 then some (.failed .invalidData, s)
      else do
        let ⟨further, _⟩ ← sum moved (n + 1)
        offer sink further (pending.drop (n + 1)) s
termination_by pending.length
decreasing_by
  simp only [List.length_drop]
  omega

/-- The ending of an offer of `length` bytes, made when `moved` bytes had been moved. -/
def Offered.of (moved length : Nat) : Transfer.Delivery → Offered
  | .complete => .complete (moved + length)
  | .stopped taken => .stopped (moved + taken)
  | .failed kind => .failed kind

theorem offer_complete {sink : Sink σ} {moved reached : Nat} {pending : Bytes} {s next : σ}
    (done : offer sink moved pending s = some (.complete reached, next)) :
    reached = moved + pending.length := by
  fun_induction offer sink moved pending s with
  | case1 moved s =>
    cases done
    rfl
  | case2 | case3 | case4 => cases done
  | case5 moved pending s _ n _ _ fits induction =>
    obtain ⟨⟨further, counted⟩, _, rest⟩ := Option.bind_eq_some_iff.mp done
    rw [induction further counted rest, counted, List.length_drop]
    omega

theorem offer_eq (sink : Sink σ) (moved taken : Nat) (pending : Bytes) (s : σ)
    (fits : moved + (taken + pending.length) ≤ maxWord) :
    offer sink (moved + taken) pending s =
      some (.of moved (taken + pending.length) (Transfer.offer sink taken pending s).1,
        (Transfer.offer sink taken pending s).2) := by
  fun_induction Transfer.offer sink taken pending s with
  | case1 taken s =>
    rw [offer, if_pos rfl]
    rfl
  | case2 taken pending s nonempty kind next asked =>
    rw [offer, if_neg nonempty, asked]
    rfl
  | case3 taken pending s nonempty next asked =>
    rw [offer, if_neg nonempty, asked]
    rfl
  | case4 taken pending s nonempty n next asked tooMany =>
    rw [offer, if_neg nonempty, asked]
    simp only [if_pos tooMany]
    rfl
  | case5 taken pending s nonempty n next asked enough induction =>
    have rest : taken + (n + 1) + (pending.drop (n + 1)).length = taken + pending.length := by
      rw [List.length_drop]
      omega
    have further : moved + taken + (n + 1) ≤ maxWord := by omega
    rw [rest] at induction
    rw [offer, if_neg nonempty, asked]
    simp only [if_neg enough, sum_eq further, Option.bind_eq_bind, Option.bind_some]
    rw [Nat.add_assoc]
    exact induction fits

def drain (place : Place σ) (sink : Sink σ) (position count moved : Nat) (s : σ) :
    Option (Except StoreFailure Nat × σ) :=
  if _more : moved < count then do
    let content := (place.look s).bytes
    let ⟨start, _⟩ ← sum position moved
    if _inside : start < content.length then do
      let ⟨remaining, _⟩ ← difference count moved
      let ⟨left, _⟩ ← difference content.length start
      let ⟨stop, _⟩ ← sum start (min (min remaining chunkSize) left)
      let ⟨chunk, _⟩ ← piece content start stop
      match _done : offer sink moved chunk s with
      | none => none
      | some (.complete reached, next) => drain place sink position count reached next
      | some (.stopped reached, next) => return (.ok reached, next)
      | some (.failed kind, next) => return (.error (.sink kind), next)
    else return (.ok moved, s)
  else return (.ok moved, s)
termination_by count - moved
decreasing_by
  have reached := offer_complete _done
  have length : chunk.length = stop - start := by
    subst chunk
    rw [List.length_take, List.length_drop]
    omega
  simp only [chunkSize] at *
  omega

theorem length_nextChunk (content : Bytes) (start remaining : Nat) :
    (Transfer.nextChunk content start remaining).length =
      min (min remaining chunkSize) (content.length - start) := by
  rw [Transfer.nextChunk, List.length_take, List.length_drop]

theorem nextChunk_eq_nil_iff {content : Bytes} {start remaining : Nat} :
    Transfer.nextChunk content start remaining = [] ↔
      remaining = 0 ∨ content.length ≤ start := by
  rw [← List.length_eq_zero_iff, length_nextChunk, chunkSize]
  omega

section

variable {place : Place σ} {sink : Sink σ} {position count moved remaining : Nat} {s : σ}

theorem drain_finished (reached : count ≤ moved) :
    drain place sink position count moved s = some (.ok moved, s) := by
  rw [drain, dif_neg (Nat.not_lt_of_le reached)]
  rfl

theorem drain_beyond (start : position + moved ≤ maxWord)
    (beyond : (place.look s).bytes.length ≤ position + moved) :
    drain place sink position count moved s = some (.ok moved, s) := by
  by_cases more : moved < count
  · rw [drain, dif_pos more, sum_eq start]
    simp only [Option.bind_eq_bind, Option.bind_some]
    rw [dif_neg (Nat.not_lt_of_le beyond)]
    rfl
  · exact drain_finished (Nat.le_of_not_lt more)

/-- The chunk ends in the content, which is why its end is a word. -/
theorem drain_offers (more : moved < count)
    (inside : position + moved < (place.look s).bytes.length)
    (fits : (place.look s).bytes.length ≤ maxWord) :
    drain place sink position count moved s =
      match offer sink moved
        (Transfer.nextChunk (place.look s).bytes (position + moved) (count - moved)) s with
      | none => none
      | some (.complete reached, next) => drain place sink position count reached next
      | some (.stopped reached, next) => some (.ok reached, next)
      | some (.failed kind, next) => some (.error (.sink kind), next) := by
  have reach : position + moved + min (min (count - moved) chunkSize)
      ((place.look s).bytes.length - (position + moved)) ≤ (place.look s).bytes.length := by
    omega
  have chunk : ((place.look s).bytes.drop (position + moved)).take (min (min (count - moved)
      chunkSize) ((place.look s).bytes.length - (position + moved))) =
        Transfer.nextChunk (place.look s).bytes (position + moved) (count - moved) := by
    rw [Transfer.nextChunk, ← List.length_drop, ← List.take_eq_take_min]
  rw [drain, dif_pos more, sum_eq (by omega)]
  simp only [Option.bind_eq_bind, Option.bind_some]
  rw [dif_pos inside]
  simp only [difference_eq (Nat.le_of_lt more), difference_eq (Nat.le_of_lt inside),
    sum_eq (Nat.le_trans reach fits), piece_eq (Nat.le_add_right _ _) reach, Option.bind_some,
    Nat.add_sub_cancel_left, chunk]
  rcases offer sink moved _ s with _ | ⟨_ | _ | _, next⟩ <;> rfl

/-- The chunk lies within the content and within what is left of the count. -/
theorem drain_round (words : count ≤ maxWord) (fits : (place.look s).bytes.length ≤ maxWord)
    (whole : moved + remaining = count)
    (nonempty : Transfer.nextChunk (place.look s).bytes (position + moved) remaining ≠ []) :
    drain place sink position count moved s =
      match Transfer.offer sink 0
        (Transfer.nextChunk (place.look s).bytes (position + moved) remaining) s with
      | (.complete, next) =>
        drain place sink position count
          (moved + (Transfer.nextChunk (place.look s).bytes (position + moved) remaining).length)
          next
      | (.stopped taken, next) => some (.ok (moved + taken), next)
      | (.failed kind, next) => some (.error (.sink kind), next) := by
  obtain ⟨more, inside⟩ := not_or.mp (mt nextChunk_eq_nil_iff.mpr nonempty)
  have left : count - moved = remaining := by omega
  rw [drain_offers (by omega) (Nat.lt_of_not_le inside) fits, left]
  have within := Transfer.length_nextChunk_le (place.look s).bytes (position + moved) remaining
  have offered := offer_eq sink moved 0
    (Transfer.nextChunk (place.look s).bytes (position + moved) remaining) s (by omega)
  rw [Nat.add_zero, Nat.zero_add] at offered
  rw [offered]
  rcases Transfer.offer sink 0 _ s with ⟨_ | _ | _, next⟩ <;> rfl

/-- What was moved so far had its place in the content as it was last looked at. -/
theorem drain_eq {kept : σ → Prop} (fits : ∀ s, kept s → (place.look s).size ≤ maxPosition)
    (peer : sink.Keeps kept) (words : count ≤ maxWord) (whole : moved + remaining = count)
    (start : position + moved ≤ maxWord) (before : kept s) :
    drain place sink position count moved s =
      some (Transfer.drain place sink position moved remaining s) := by
  have room {s} (held : kept s) : (place.look s).bytes.length ≤ maxWord :=
    Nat.le_of_lt (Nat.lt_of_le_of_lt (fits s held) maxPosition_lt_maxWord)
  fun_induction Transfer.drain place sink position moved remaining s with
  | case1 moved remaining s chunk exhausted =>
    rcases nextChunk_eq_nil_iff.mp exhausted with finished | beyond
    · exact drain_finished (by omega)
    · exact drain_beyond start beyond
  | case2 moved remaining s chunk nonempty next offered induction =>
    have after := Transfer.offer_keeps peer 0 chunk s before
    have length : chunk.length =
        min (min remaining chunkSize) ((place.look s).bytes.length - (position + moved)) :=
      length_nextChunk _ _ _
    have progress := List.length_pos_iff.mpr nonempty
    have held := room before
    rw [offered] at after
    rw [drain_round words held whole nonempty, offered]
    exact induction (by omega) (by omega) after
  | case3 moved remaining s chunk nonempty taken next offered =>
    rw [drain_round words (room before) whole nonempty, offered]
  | case4 moved remaining s chunk nonempty kind next offered =>
    rw [drain_round words (room before) whole nonempty, offered]

end

def pump (source : Source σ) (deposit : Nat → Bytes → σ → Option (Except StoreFailure ω × σ))
    (count : Nat) (chunk : Bytes) (moved : Nat) (last : Option ω) (s : σ) :
    Option (Except StoreFailure (Nat × Option ω) × σ) :=
  if _more : moved < count then do
    let ⟨remaining, _⟩ ← difference count moved
    let want := min remaining chunkSize
    let ⟨slice, _⟩ ← piece chunk 0 want
    match source slice s with
    | (⟨.error kind, _⟩, s) => return (.error (.source kind), s)
    | (⟨.ok 0, _⟩, s) => return (.ok (moved, last), s)
    | (⟨.ok (n + 1), bytes⟩, s) =>
      let ⟨filled, _⟩ ← put (Bytes.overlay bytes slice) 0 want chunk
      let ⟨stored, _⟩ ← piece filled 0 (n + 1)
      match ← deposit moved stored s with
      | (.error error, s) => return (.error error, s)
      | (.ok answer, s) =>
        let ⟨reached, _⟩ ← sum moved (n + 1)
        pump source deposit count filled reached (some answer) s
  else return (.ok (moved, last), s)
termination_by count - moved

section

variable {source : Source σ} {deposit : Nat → Bytes → σ → Option (Except StoreFailure ω × σ)}
  {count moved : Nat} {chunk : Bytes} {last : Option ω} {s : σ}

theorem pump_finished (reached : count ≤ moved) :
    pump source deposit count chunk moved last s = some (.ok (moved, last), s) := by
  rw [pump, dif_neg (Nat.not_lt_of_le reached)]
  rfl

variable (full : chunk.length = min count chunkSize)

include full

theorem piece_slice :
    piece chunk 0 (min (count - moved) chunkSize) =
      some ⟨Transfer.slice count moved chunk, rfl⟩ :=
  piece_eq (Nat.zero_le _) (by omega)

theorem put_refilled (bytes : Bytes) :
    put (Bytes.overlay bytes (Transfer.slice count moved chunk)) 0 (min (count - moved) chunkSize)
      chunk = some ⟨Transfer.refilled count moved chunk bytes, rfl⟩ := by
  have length : (Bytes.overlay bytes (Transfer.slice count moved chunk)).length =
      min (count - moved) chunkSize := by
    rw [Bytes.length_overlay, Transfer.length_slice]
    omega
  exact put_eq ((Nat.zero_add _).trans length) (by omega)

variable (more : moved < count)

include more

theorem pump_asks :
    pump source deposit count chunk moved last s =
      match source (Transfer.slice count moved chunk) s with
      | (⟨.error kind, _⟩, s) => some (.error (.source kind), s)
      | (⟨.ok 0, _⟩, s) => some (.ok (moved, last), s)
      | (⟨.ok (n + 1), bytes⟩, s) => (do
        let filled := Transfer.refilled count moved chunk bytes
        let ⟨stored, _⟩ ← piece filled 0 (n + 1)
        match ← deposit moved stored s with
        | (.error error, s) => return (.error error, s)
        | (.ok answer, s) =>
          let ⟨reached, _⟩ ← sum moved (n + 1)
          pump source deposit count filled reached (some answer) s) := by
  rw [pump, dif_pos more, difference_eq (Nat.le_of_lt more)]
  simp only [Option.bind_eq_bind, Option.bind_some, piece_slice full, put_refilled full]
  rfl

theorem pump_failed {kind : FailureKind} {bytes : Bytes} {next : σ}
    (asked : source (Transfer.slice count moved chunk) s = (⟨.error kind, bytes⟩, next)) :
    pump source deposit count chunk moved last s = some (.error (.source kind), next) := by
  rw [pump_asks full more, asked]

theorem pump_ended {bytes : Bytes} {next : σ}
    (asked : source (Transfer.slice count moved chunk) s = (⟨.ok 0, bytes⟩, next)) :
    pump source deposit count chunk moved last s = some (.ok (moved, last), next) := by
  rw [pump_asks full more, asked]

theorem pump_deposits {n : Nat} {bytes : Bytes} {next final : σ} {answer : Except StoreFailure ω}
    (asked : source (Transfer.slice count moved chunk) s = (⟨.ok (n + 1), bytes⟩, next))
    (fits : n + 1 ≤ chunk.length) (word : moved + (n + 1) ≤ maxWord)
    (deposited : deposit moved ((Transfer.refilled count moved chunk bytes).take (n + 1)) next =
      some (answer, final)) :
    pump source deposit count chunk moved last s =
      match answer with
      | .error error => some (.error error, final)
      | .ok answer =>
        pump source deposit count (Transfer.refilled count moved chunk bytes) (moved + (n + 1))
          (some answer) final := by
  have stored : piece (Transfer.refilled count moved chunk bytes) 0 (n + 1) =
      some ⟨(Transfer.refilled count moved chunk bytes).take (n + 1), rfl⟩ :=
    piece_eq (Nat.zero_le _) (by rwa [Transfer.length_refilled])
  rw [pump_asks full more, asked]
  simp only [Option.bind_eq_bind, Option.bind_some, stored, deposited, sum_eq word]
  cases answer <;> rfl

end

section

variable {kept : σ → Prop} {reach : Nat → Prop} {source : Source σ}
  {checked : Nat → Bytes → σ → Option (Except StoreFailure ω × σ)}
  {deposit : Nat → Bytes → Action σ (Except StoreFailure ω)} {count : Nat}
  {goal : Option (Except StoreFailure (Nat × Option ω) × σ)}

/-- Deposits that go well after as many bytes as `reach` allows, and then come to the same whether
they are checked or not. What they store is allowed for as well. -/
structure Sure (kept : σ → Prop) (reach : Nat → Prop)
    (checked : Nat → Bytes → σ → Option (Except StoreFailure ω × σ))
    (deposit : Nat → Bytes → Action σ (Except StoreFailure ω)) : Prop where
  same : ∀ moved bytes s, kept s → reach moved → bytes.length ≤ maxWord →
    checked moved bytes s = some (deposit moved bytes s)
  keeps : ∀ moved bytes, Action.Keeps kept (deposit moved bytes)
  further : ∀ moved bytes s answer, kept s → reach moved → bytes ≠ [] →
    (deposit moved bytes s).1 = .ok answer → reach (moved + bytes.length)

theorem kept_asked (peer : source.Keeps kept) {slice : Bytes} {supply : Supply} {s next : σ}
    (before : kept s) (asked : source slice s = (supply, next)) : kept next := by
  have after := peer slice s before
  rwa [asked] at after

theorem reported_within (honest : source.Honest) {moved n : Nat} {chunk bytes : Bytes} {s next : σ}
    (asked : source (Transfer.slice count moved chunk) s = (⟨.ok (n + 1), bytes⟩, next)) :
    moved + (n + 1) ≤ count ∧ n + 1 ≤ chunk.length := by
  have fits := honest _ s (n + 1) (congrArg (·.1.report) asked)
  rw [Transfer.length_slice] at fits
  omega

theorem Sure.same_refilled (deposits : Sure kept reach checked deposit) (words : count ≤ maxWord)
    {moved n : Nat} {chunk bytes : Bytes} {next final : σ} {answer : Except StoreFailure ω}
    (held : kept next) (reached : reach moved) (full : chunk.length = min count chunkSize)
    (deposited : deposit moved ((Transfer.refilled count moved chunk bytes).take (n + 1)) next =
      (answer, final)) :
    checked moved ((Transfer.refilled count moved chunk bytes).take (n + 1)) next =
      some (answer, final) := by
  rw [← deposited]
  apply deposits.same moved _ next held reached
  rw [List.length_take, Transfer.length_refilled]
  omega

/-- Between the rounds the checked transfer has still to come to its end. -/
structure Abreast (kept : σ → Prop) (reach : Nat → Prop) (source : Source σ)
    (checked : Nat → Bytes → σ → Option (Except StoreFailure ω × σ)) (count : Nat)
    (goal : Option (Except StoreFailure (Nat × Option ω) × σ)) (chunk : Bytes) (moved : Nat)
    (last : Option ω) (s : σ) : Prop where
  full : chunk.length = min count chunkSize
  reached : reach moved
  held : kept s
  same : pump source checked count chunk moved last s = goal

theorem pump_rounds (deposits : Sure kept reach checked deposit) (honest : source.Honest)
    (peer : source.Keeps kept) (words : count ≤ maxWord) :
    Transfer.Rounds source deposit count (Abreast kept reach source checked count goal)
      (fun outcome s => ∃ answer, goal = some (answer, s) ∧ outcome = .ofExcept answer) where
  finished := by
    intro chunk moved last s between finished
    rw [← between.same, pump_finished finished]
    exact ⟨_, rfl, rfl⟩
  failed := by
    intro chunk moved last s kind bytes next between more asked
    rw [← between.same, pump_failed between.full more asked]
    exact ⟨_, rfl, rfl⟩
  ended := by
    intro chunk moved last s bytes next between more asked
    rw [← between.same, pump_ended between.full more asked]
    exact ⟨_, rfl, rfl⟩
  overrun := by
    intro chunk moved last s n bytes next _ _ asked short
    exact absurd (reported_within honest asked).2 (Nat.not_le_of_lt short)
  refused := by
    intro chunk moved last s n bytes next error final between more asked fits refusal
    have word := Nat.le_trans (reported_within honest asked).1 words
    have held := kept_asked peer between.held asked
    rw [← between.same, pump_deposits between.full more asked fits word
      (deposits.same_refilled words held between.reached between.full refusal)]
    exact ⟨_, rfl, rfl⟩
  stored := by
    intro chunk moved last s n bytes next answer final between more asked fits storage
    have word := Nat.le_trans (reported_within honest asked).1 words
    have held := kept_asked peer between.held asked
    have length : ((Transfer.refilled count moved chunk bytes).take (n + 1)).length = n + 1 := by
      rw [List.length_take, Transfer.length_refilled, Nat.min_eq_left fits]
    have after := deposits.keeps moved
      ((Transfer.refilled count moved chunk bytes).take (n + 1)) next held
    have further := deposits.further moved _ next answer held between.reached
      (List.ne_nil_of_length_eq_add_one length) (congrArg Prod.fst storage)
    rw [storage] at after
    rw [length] at further
    refine ⟨by rw [Transfer.length_refilled, between.full], further, after, ?_⟩
    rw [← between.same, pump_deposits between.full more asked fits word
      (deposits.same_refilled words held between.reached between.full storage)]

theorem pump_eq (deposits : Sure kept reach checked deposit) (honest : source.Honest)
    (peer : source.Keeps kept) (words : count ≤ maxWord) (reached : reach 0) {s : σ}
    (before : kept s) :
    ∃ answer next,
      pump source checked count (Transfer.freshChunk count) 0 none s = some (answer, next) ∧
        Transfer.pump source deposit count (Transfer.freshChunk count) 0 none s =
          (.ofExcept answer, next) := by
  obtain ⟨answer, goes, same⟩ := Transfer.pump_ends (pump_rounds deposits honest peer words) _ 0
    none s ⟨Transfer.length_freshChunk count, reached, before, rfl⟩
  exact ⟨answer, _, goes, Prod.ext same rfl⟩

end

section

variable (place : Place σ) (room : σ → Memory)

/-- Writes at the place, if each step of the write to the buffer there goes well. -/
def writeAt (position : Nat) (payload : List Bytes) (s : σ) :
    Option (Except StoreFailure Nat × σ) := do
  let _ ← @write (room s) (place.look s) position payload
  return place.write position payload s

def appendAt (payload : List Bytes) (s : σ) : Option (Except StoreFailure Receipt × σ) := do
  let _ ← @append (room s) (place.look s) payload
  return place.append payload s

def writeBehind (position moved : Nat) (bytes : Bytes) (s : σ) :
    Option (Except StoreFailure Nat × σ) := do
  let ⟨start, _⟩ ← sum position moved
  writeAt place room start [bytes] s

def copyOut (position count : Nat) (sink : Sink σ) (s : σ) : Option (Except StoreFailure Nat × σ) :=
  drain place sink position count 0 s

def copyIn (source : Source σ) (position count : Nat) (s : σ) :
    Option (Except StoreFailure Nat × σ) :=
  if (place.look s).size < position then some (.ok 0, s)
  else do
    let deposit := writeBehind place room position
    let (answer, s) ← pump source deposit count (Transfer.freshChunk count) 0 none s
    return (answer.map (·.1), s)

def copyInAtEnd (source : Source σ) (count : Nat) (s : σ) :
    Option (Except StoreFailure Receipt × σ) := do
  let deposit := fun _ bytes => appendAt place room [bytes]
  let (answer, s) ← pump source deposit count (Transfer.freshChunk count) 0 none s
  let size := (place.look s).size
  return (answer.map fun result => ⟨result.1, (result.2.map (·.size)).getD size⟩, s)

structure Fitting (kept : σ → Prop) : Prop where
  work : place.Keeps kept
  fits : ∀ s, kept s → (place.look s).size ≤ maxPosition
  answers : ∀ position payload s,
    (place.write position payload s).1 = (@Buffer.write (room s) (place.look s) position payload).1

end

section

variable {place : Place σ} {room : σ → Memory} {kept : σ → Prop} (fitting : Fitting place room kept)
  {position count : Nat} {s : σ}

include fitting

theorem writeAt_eq {payload : List Bytes} (words : payload.flatten.length ≤ maxWord)
    (before : kept s) :
    writeAt place room position payload s = some (place.write position payload s) := by
  rw [writeAt, @write_eq (room s) _ (fitting.fits s before) position payload words]
  rfl

theorem appendAt_eq {payload : List Bytes} (words : payload.flatten.length ≤ maxWord)
    (before : kept s) : appendAt place room payload s = some (place.append payload s) := by
  rw [appendAt, @append_eq (room s) _ (fitting.fits s before) payload words]
  rfl

/-- What was written has its place in the content as it was then. -/
theorem written_inRange {bytes : Bytes} {written : Nat} (some : bytes ≠ []) (before : kept s)
    (done : (place.write position [bytes] s).1 = .ok written) :
    position + bytes.length ≤ maxPosition := by
  rw [fitting.answers] at done
  rcases @Buffer.write_deposit (room s) bytes (place.look s) some position with
    ⟨admitted, _⟩ | ⟨_, refused⟩
  · exact @Buffer.Admits.inRange (room s) _ _ admitted (fitting.fits s before)
  · rw [refused] at done
    cases done

theorem copyOut_eq {sink : Sink σ} (peer : sink.Keeps kept) (start : position ≤ maxWord)
    (words : count ≤ maxWord) (before : kept s) :
    copyOut place position count sink s = some (place.copyOut position count sink s) :=
  drain_eq fitting.fits peer words (Nat.zero_add count) start before

theorem writeBehind_sure (position : Nat) :
    Sure kept (fun moved => position + moved ≤ maxPosition) (writeBehind place room position)
      (fun moved bytes => place.write (position + moved) [bytes]) where
  same := by
    intro moved bytes s held reached short
    have above := maxPosition_lt_maxWord
    rw [writeBehind, sum_eq (by omega)]
    exact writeAt_eq fitting (by rwa [List.flatten_singleton]) held
  keeps := by
    intro moved bytes
    exact fitting.work.write (position + moved) [bytes]
  further := by
    intro moved bytes s written held _ some done
    rw [← Nat.add_assoc]
    exact written_inRange fitting some held done

theorem appendAt_sure :
    Sure kept (fun _ => True) (fun _ bytes => appendAt place room [bytes])
      (fun _ bytes => place.append [bytes]) where
  same := by
    intro moved bytes s held _ short
    exact appendAt_eq fitting (by rwa [List.flatten_singleton]) held
  keeps := by
    intro moved bytes
    exact fitting.work.append [bytes]
  further := by
    intros
    trivial

theorem copyIn_eq {source : Source σ} (honest : source.Honest) (peer : source.Keeps kept)
    (position : Nat) (words : count ≤ maxWord) (before : kept s) :
    ∃ answer next, copyIn place room source position count s = some (answer, next) ∧
      place.copyIn source position count s = (.ofExcept answer, next) := by
  by_cases beyond : (place.look s).size < position
  · exact ⟨.ok 0, s, if_pos beyond, if_pos beyond⟩
  · have within : position ≤ (place.look s).size := Nat.le_of_not_lt beyond
    have reached : position + 0 ≤ maxPosition := Nat.le_trans within (fitting.fits s before)
    obtain ⟨answer, next, goes, same⟩ :=
      pump_eq (writeBehind_sure fitting position) honest peer words reached before
    refine ⟨answer.map (·.1), next, ?_, ?_⟩
    · rw [copyIn, if_neg beyond]
      simp only [goes, Option.bind_eq_bind, Option.bind_some]
      rfl
    · rw [place.copyIn_within source count within, same]
      cases answer <;> rfl

theorem copyInAtEnd_eq {source : Source σ} (honest : source.Honest) (peer : source.Keeps kept)
    (words : count ≤ maxWord) (before : kept s) :
    ∃ answer next, copyInAtEnd place room source count s = some (answer, next) ∧
      place.copyInAtEnd source count s = (.ofExcept answer, next) := by
  obtain ⟨answer, next, goes, same⟩ :=
    pump_eq (appendAt_sure fitting) honest peer words trivial before
  refine ⟨answer.map fun result =>
    ⟨result.1, (result.2.map (·.size)).getD (place.look next).size⟩, next, ?_, ?_⟩
  · rw [copyInAtEnd]
    simp only [goes, Option.bind_eq_bind, Option.bind_some]
    rfl
  · rw [Place.copyInAtEnd, same]
    cases answer <;> rfl

end

end SharedBytes.Checked
