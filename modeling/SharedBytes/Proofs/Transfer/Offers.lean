import SharedBytes.Proofs.Transfer.Watched

/-!
# What a sink is offered

A sink may do to the buffer what it likes while it is called, and answer what it likes. Still each
slice it is offered goes on where the slices before it were taken to, and shows the content as it
was when the chunk of the slice was copied: right after the last offer that used up its chunk. The
watched state is followed through the two loops, offer by offer; the sink decides how a loop is
left, and each way out names the offer that it hangs on.
-/

namespace SharedBytes

variable {σ : Type}

namespace Offer

def taken (offer : Offer σ) : Nat :=
  offer.answer.toOption.getD 0

def accepted (offer : Offer σ) : Bytes :=
  offer.offered.take offer.taken

def Takes (offer : Offer σ) : Prop :=
  ∃ n, offer.answer = .ok n ∧ 0 < n ∧ n ≤ offer.offered.length

/-- The sink has failed, or says that it has taken more than it was offered. -/
def Fails (kind : FailureKind) (offer : Offer σ) : Prop :=
  offer.answer = .error kind ∨
    kind = .invalidData ∧ ∃ n, offer.answer = .ok n ∧ offer.offered.length < n

theorem taken_ok {offer : Offer σ} {n : Nat} (answered : offer.answer = .ok n) :
    offer.taken = n := by
  rw [taken, answered]
  rfl

theorem Takes.bounds {offer : Offer σ} (takes : offer.Takes) :
    0 < offer.taken ∧ offer.taken ≤ offer.offered.length := by
  obtain ⟨n, answered, some, fits⟩ := takes
  rw [taken_ok answered]
  exact ⟨some, fits⟩

theorem Takes.not_fails {offer : Offer σ} (takes : offer.Takes) (kind : FailureKind) :
    ¬ offer.Fails kind := by
  obtain ⟨n, answered, _, fits⟩ := takes
  rintro (failed | ⟨_, m, reported, beyond⟩)
  · rw [answered] at failed
    cases failed
  · rw [answered] at reported
    cases reported
    omega

theorem Fails.unique {offer : Offer σ} {kind again : FailureKind} (fails : offer.Fails kind)
    (failsAgain : offer.Fails again) : kind = again := by
  rcases fails with failed | ⟨rfl, n, answered, _⟩ <;>
    rcases failsAgain with failed' | ⟨rfl, m, answered', _⟩ <;> simp_all

end Offer

namespace Transfer

def taken : List (Offer σ) → Nat
  | [] => 0
  | offer :: offers => offer.taken + taken offers

def accepted (offers : List (Offer σ)) : Bytes :=
  offers.flatMap Offer.accepted

/-- The state in which the chunk on offer after these offers was copied: that after the last of them
to use up its chunk. -/
def copiedAt (s : σ) (offers : List (Offer σ)) : σ :=
  offers.foldl
    (fun copied offer => if offer.taken = offer.offered.length then offer.after else copied) s

def Follow : σ → List (Offer σ) → σ → Prop
  | s, [], final => final = s
  | s, offer :: offers, final => offer.before = s ∧ Follow offer.after offers final

@[simp] theorem taken_cons (offer : Offer σ) (offers : List (Offer σ)) :
    taken (offer :: offers) = offer.taken + taken offers :=
  rfl

@[simp] theorem taken_concat (offers : List (Offer σ)) (offer : Offer σ) :
    taken (offers ++ [offer]) = taken offers + offer.taken := by
  induction offers with
  | nil => exact Nat.add_comm _ _
  | cons first offers ih => rw [List.cons_append, taken_cons, taken_cons, ih, Nat.add_assoc]

theorem accepted_cons (offer : Offer σ) (offers : List (Offer σ)) :
    accepted (offer :: offers) = offer.accepted ++ accepted offers := by
  simp [accepted]

theorem copiedAt_concat (s : σ) (offers : List (Offer σ)) (offer : Offer σ) :
    copiedAt s (offers ++ [offer]) =
      if offer.taken = offer.offered.length then offer.after else copiedAt s offers := by
  rw [copiedAt, List.foldl_append]
  rfl

theorem Follow.concat {s : σ} {offers : List (Offer σ)} {mid : σ} (follow : Follow s offers mid)
    {offer : Offer σ} (next : offer.before = mid) : Follow s (offers ++ [offer]) offer.after := by
  induction offers generalizing s with
  | nil =>
    cases follow
    exact ⟨next, rfl⟩
  | cons first offers ih => exact ⟨follow.1, ih follow.2⟩

theorem length_le_taken {offers : List (Offer σ)} (takes : ∀ offer ∈ offers, offer.Takes) :
    offers.length ≤ taken offers := by
  induction offers with
  | nil => exact Nat.le_refl _
  | cons first offers ih =>
    have some := (takes first List.mem_cons_self).bounds.1
    have rest := ih fun offer member => takes offer (List.mem_cons_of_mem _ member)
    rw [List.length_cons, taken_cons]
    omega

structure Pending (place : Place σ) (position count : Nat) (s : σ) (earlier : List (Offer σ))
    (pending : Bytes) : Prop where
  length_le : pending.length ≤ min chunkSize (count - taken earlier)
  bytes : pending =
    ((place.look (copiedAt s earlier)).bytes.drop (position + taken earlier)).take pending.length

structure Due (place : Place σ) (position count : Nat) (s : σ) (earlier : List (Offer σ))
    (offered : Bytes) : Prop extends Pending place position count s earlier offered where
  nonempty : offered ≠ []

/-- The offers tell what has happened: what the sink did to the state and has answered, with nothing
between two offers, and each offer as it was due. -/
structure Traced (place : Place σ) (sink : Sink σ) (position count : Nat) (s : σ)
    (w : Watched σ (Offer σ)) : Prop where
  answered : ∀ offer ∈ w.seen, sink offer.offered offer.before = (offer.answer, offer.after)
  follow : Follow s w.seen w.state
  due : ∀ i offer, w.seen[i]? = some offer →
    Due place position count s (w.seen.take i) offer.offered

variable {place : Place σ} {sink : Sink σ} {position count : Nat} {s : σ}
  {w : Watched σ (Offer σ)}

theorem Traced.offer (traced : Traced place sink position count s w) {offered : Bytes}
    (due : Due place position count s w.seen offered) {answer : Except FailureKind Nat}
    {next : Watched σ (Offer σ)} (asked : sink.watched offered w = (answer, next)) :
    Traced place sink position count s next ∧
      ∃ offer, next.seen = w.seen ++ [offer] ∧ offer.offered = offered ∧ offer.answer = answer ∧
        offer.after = next.state := by
  cases asked
  refine ⟨?_, _, rfl, rfl, rfl, rfl⟩
  constructor
  · exact List.forall_mem_append.mpr ⟨traced.answered, List.forall_mem_singleton.mpr rfl⟩
  · exact traced.follow.concat rfl
  · exact forall_getElem?_concat
      (P := fun earlier offer => Due place position count s earlier offer.offered) traced.due due

structure Steady (place : Place σ) (sink : Sink σ) (position count : Nat) (s : σ)
    (w : Watched σ (Offer σ)) : Prop extends Traced place sink position count s w where
  takes : ∀ offer ∈ w.seen, offer.Takes
  within : taken w.seen ≤ count

structure Cut (place : Place σ) (sink : Sink σ) (position count : Nat) (s : σ)
    (last : Offer σ → Prop) (w : Watched σ (Offer σ)) : Prop
    extends Traced place sink position count s w where
  cut : ∃ earlier offer, w.seen = earlier ++ [offer] ∧ (∀ taking ∈ earlier, taking.Takes) ∧
    last offer

section

variable {offered : Bytes} {next : Watched σ (Offer σ)}

theorem Steady.cut (steady : Steady place sink position count s w)
    (due : Due place position count s w.seen offered) {answer : Except FailureKind Nat}
    (asked : sink.watched offered w = (answer, next)) (last : Offer σ → Prop)
    (ended : ∀ offer, offer.offered = offered → offer.answer = answer → last offer) :
    Cut place sink position count s last next ∧
      ∃ offer, next.seen = w.seen ++ [offer] ∧ offer.answer = answer := by
  obtain ⟨traced, offer, seen, slice, answered, _⟩ := steady.offer due asked
  exact ⟨⟨traced, w.seen, offer, seen, steady.takes, ended offer slice answered⟩,
    offer, seen, answered⟩

/-- The sink takes some of an offer. What it leaves of the chunk is to be offered next, and if it
leaves nothing the next chunk is copied in the state that it has left. -/
theorem Steady.take (steady : Steady place sink position count s w)
    (due : Due place position count s w.seen offered) {n : Nat} (some : 0 < n)
    (fits : n ≤ offered.length) (asked : sink.watched offered w = (.ok n, next)) :
    Steady place sink position count s next ∧ taken next.seen = taken w.seen + n ∧
      Pending place position count s next.seen (offered.drop n) ∧
      (offered.drop n = [] → copiedAt s next.seen = next.state) := by
  obtain ⟨traced, offer, seen, slice, answered, after⟩ := steady.offer due asked
  have counted : taken next.seen = taken w.seen + n := by
    rw [seen, taken_concat, Offer.taken_ok answered]
  have length := due.length_le
  refine ⟨⟨traced, ?_, by omega⟩, counted, ⟨?_, ?_⟩, ?_⟩
  · have takes : offer.Takes := ⟨n, answered, some, slice ▸ fits⟩
    rw [seen]
    exact List.forall_mem_append.mpr ⟨steady.takes, List.forall_mem_singleton.mpr takes⟩
  · rw [List.length_drop]
    omega
  · rw [seen, copiedAt_concat, Offer.taken_ok answered, slice, ← seen, counted]
    by_cases whole : n = offered.length
    · rw [List.drop_of_length_le (Nat.le_of_eq whole.symm), List.length_nil, List.take_zero]
    · rw [if_neg whole, List.length_drop, ← Nat.add_assoc, ← List.drop_drop, ← List.drop_take,
        ← due.bytes]
  · intro used
    have whole : n = offered.length := Nat.le_antisymm fits (List.drop_eq_nil_iff.mp used)
    rw [seen, copiedAt_concat, Offer.taken_ok answered, slice, if_pos whole, after]

end

/-- How the offer of a chunk is left, if `moved` bytes were taken before it and `goal` are at its
end. -/
inductive Handed (place : Place σ) (sink : Sink σ) (position count : Nat) (s : σ)
    (moved goal : Nat) : Delivery → Watched σ (Offer σ) → Prop
  | complete {w : Watched σ (Offer σ)} (steady : Steady place sink position count s w)
      (reached : taken w.seen = goal) (copied : copiedAt s w.seen = w.state) :
      Handed place sink position count s moved goal .complete w
  | stopped {n : Nat} {w : Watched σ (Offer σ)}
      (cut : Cut place sink position count s (fun last => last.answer = .ok 0) w)
      (reached : taken w.seen = moved + n) :
      Handed place sink position count s moved goal (.stopped n) w
  | failed {kind : FailureKind} {w : Watched σ (Offer σ)}
      (cut : Cut place sink position count s (Offer.Fails kind) w) :
      Handed place sink position count s moved goal (.failed kind) w

theorem offer_handed {moved goal : Nat} (n : Nat) (pending : Bytes) (w : Watched σ (Offer σ))
    (steady : Steady place sink position count s w)
    (left : Pending place position count s w.seen pending)
    (used : pending = [] → copiedAt s w.seen = w.state) (progress : taken w.seen = moved + n)
    (ahead : taken w.seen + pending.length = goal) :
    Handed place sink position count s moved goal (offer sink.watched n pending w).1
      (offer sink.watched n pending w).2 := by
  induction n, pending, w using offer.induct sink.watched with
  | case1 n w =>
    rw [offer, if_pos rfl]
    exact .complete steady ahead (used rfl)
  | case2 n pending w nonempty kind next answered =>
    obtain ⟨cut, _⟩ := steady.cut ⟨left, nonempty⟩ answered (Offer.Fails kind)
      fun _ _ failed => .inl failed
    rw [offer, if_neg nonempty, answered]
    exact .failed cut
  | case3 n pending w nonempty next answered =>
    obtain ⟨cut, last, seen, nothing⟩ := steady.cut ⟨left, nonempty⟩ answered
      (fun last => last.answer = .ok 0) fun _ _ nothing => nothing
    rw [offer, if_neg nonempty, answered]
    refine .stopped cut ?_
    rw [seen, taken_concat, Offer.taken_ok nothing, Nat.add_zero, progress]
  | case4 n pending w nonempty m next answered tooMany =>
    obtain ⟨cut, _⟩ := steady.cut ⟨left, nonempty⟩ answered (Offer.Fails .invalidData)
      fun last slice reported => .inr ⟨rfl, m + 1, reported, slice ▸ tooMany⟩
    rw [offer, if_neg nonempty, answered]
    simp only [if_pos tooMany]
    exact .failed cut
  | case5 n pending w nonempty m next answered fits induction =>
    have within : m + 1 ≤ pending.length := Nat.le_of_not_lt fits
    obtain ⟨steadily, counted, rest, renewed⟩ :=
      steady.take ⟨left, nonempty⟩ (Nat.succ_pos m) within answered
    rw [offer, if_neg nonempty, answered]
    simp only [if_neg fits]
    refine induction steadily rest renewed (by omega) ?_
    rw [List.length_drop]
    omega

structure Delivered (place : Place σ) (sink : Sink σ) (position count : Nat) (s : σ)
    (outcome : Except StoreFailure Nat) (w : Watched σ (Offer σ)) : Prop
    extends Traced place sink position count s w where
  calls_le : w.seen.length ≤ count
  failed : ∀ offer ∈ w.seen, ∀ kind, offer.Fails kind → outcome = .error (.sink kind)
  moved : (∀ offer ∈ w.seen, ∀ kind, ¬ offer.Fails kind) →
    outcome = .ok (taken w.seen) ∧ taken w.seen ≤ count ∧
      (taken w.seen < count → (∃ offer ∈ w.seen, offer.answer = .ok 0) ∨
        (place.look w.state).size ≤ position + taken w.seen)

theorem Steady.delivered (steady : Steady place sink position count s w)
    (short : taken w.seen < count → (place.look w.state).size ≤ position + taken w.seen) :
    Delivered place sink position count s (.ok (taken w.seen)) w where
  toTraced := steady.toTraced
  calls_le := Nat.le_trans (length_le_taken steady.takes) steady.within
  failed := by
    intro offer member kind fails
    exact absurd fails ((steady.takes offer member).not_fails kind)
  moved _ := ⟨rfl, steady.within, fun ahead => .inr (short ahead)⟩

/-- The last offer is made while some of the count is left, and each one before it took some. -/
theorem Cut.bounds {last : Offer σ → Prop} (cut : Cut place sink position count s last w) :
    ∃ earlier offer, w.seen = earlier ++ [offer] ∧ (∀ taking ∈ earlier, taking.Takes) ∧
      last offer ∧ earlier.length < count ∧ taken earlier < count := by
  obtain ⟨earlier, offer, seen, takes, ends⟩ := cut.cut
  have due := cut.due earlier.length offer (by rw [seen, List.getElem?_concat_length])
  rw [seen, List.take_left] at due
  have some := List.length_pos_iff.mpr due.nonempty
  have ahead : taken earlier < count := by
    have length := due.length_le
    omega
  exact ⟨earlier, offer, seen, takes, ends,
    Nat.lt_of_le_of_lt (length_le_taken takes) ahead, ahead⟩

theorem Cut.stopped_delivered
    (cut : Cut place sink position count s (fun last => last.answer = .ok 0) w) :
    Delivered place sink position count s (.ok (taken w.seen)) w := by
  obtain ⟨earlier, last, seen, takes, nothing, calls, ahead⟩ := cut.bounds
  have counted : taken w.seen = taken earlier := by
    rw [seen, taken_concat, Offer.taken_ok nothing, Nat.add_zero]
  refine ⟨cut.toTraced, ?_, ?_, ?_⟩
  · rw [seen, List.length_append, List.length_singleton]
    exact calls
  · intro offer member kind fails
    rw [seen] at member
    rcases List.mem_append.mp member with before | now
    · exact absurd fails ((takes offer before).not_fails kind)
    · rw [List.mem_singleton.mp now, Offer.Fails, nothing] at fails
      simp at fails
  · intro _
    refine ⟨rfl, by omega, fun _ => .inl ⟨last, ?_, nothing⟩⟩
    rw [seen]
    exact List.mem_append_right _ (List.mem_singleton.mpr rfl)

theorem Cut.failed_delivered {kind : FailureKind}
    (cut : Cut place sink position count s (Offer.Fails kind) w) :
    Delivered place sink position count s (.error (.sink kind)) w := by
  obtain ⟨earlier, last, seen, takes, fails, calls, _⟩ := cut.bounds
  refine ⟨cut.toTraced, ?_, ?_, ?_⟩
  · rw [seen, List.length_append, List.length_singleton]
    exact calls
  · intro offer member again failsAgain
    rw [seen] at member
    rcases List.mem_append.mp member with before | now
    · exact absurd failsAgain ((takes offer before).not_fails again)
    · rw [List.mem_singleton.mp now] at failsAgain
      rw [fails.unique failsAgain]
  · intro none
    refine absurd fails (none last ?_ kind)
    rw [seen]
    exact List.mem_append_right _ (List.mem_singleton.mpr rfl)

theorem Steady.handed (steady : Steady place sink position count s w)
    (copied : copiedAt s w.seen = w.state) {chunk : Bytes} (nonempty : chunk ≠ [])
    (next : chunk =
      nextChunk (place.look w.state).bytes (position + taken w.seen) (count - taken w.seen)) :
    Handed place sink position count s (taken w.seen) (taken w.seen + chunk.length)
      (offer sink.watched 0 chunk w).1 (offer sink.watched 0 chunk w).2 := by
  have pending : Pending place position count s w.seen chunk := by
    constructor
    · rw [next, nextChunk, List.length_take]
      omega
    · rw [copied, next, nextChunk, List.length_take, List.take_eq_take_min]
  exact offer_handed 0 chunk w steady pending (fun empty => absurd empty nonempty) rfl rfl

theorem size_le_of_exhausted {content : Bytes} {start remaining : Nat}
    (exhausted : nextChunk content start remaining = []) (more : 0 < remaining) :
    content.length ≤ start := by
  have length := congrArg List.length exhausted
  rw [nextChunk, List.length_take, List.length_drop, List.length_nil, chunkSize] at length
  omega

theorem drain_delivered (moved remaining : Nat) (w : Watched σ (Offer σ))
    (steady : Steady place sink position count s w) (copied : copiedAt s w.seen = w.state)
    (progress : taken w.seen = moved) (left : count - moved = remaining) :
    Delivered place sink position count s
      (drain place.watched sink.watched position moved remaining w).1
      (drain place.watched sink.watched position moved remaining w).2 := by
  induction moved, remaining, w using drain.induct place.watched sink.watched position with
  | case1 moved remaining w chunk exhausted =>
    subst progress left
    rw [drain, dif_pos exhausted]
    exact steady.delivered fun ahead => size_le_of_exhausted exhausted (by omega)
  | case2 moved remaining w chunk nonempty next offered induction =>
    subst progress left
    have handed := steady.handed copied nonempty rfl
    rw [drain, dif_neg nonempty, offered]
    rw [offered] at handed
    cases handed with
    | complete steadily reached renewed =>
      exact induction steadily renewed reached (by omega)
  | case3 moved remaining w chunk nonempty n next offered =>
    subst progress left
    have handed := steady.handed copied nonempty rfl
    rw [drain, dif_neg nonempty, offered]
    rw [offered] at handed
    cases handed with
    | stopped cut reached =>
      have delivered := cut.stopped_delivered
      rwa [reached] at delivered
  | case4 moved remaining w chunk nonempty kind next offered =>
    subst progress left
    have handed := steady.handed copied nonempty rfl
    rw [drain, dif_neg nonempty, offered]
    rw [offered] at handed
    cases handed with
    | failed cut => exact cut.failed_delivered

theorem copiedAt_induct {P : σ → Prop} {offers : List (Offer σ)} (start : P s)
    (left : ∀ offer ∈ offers, P offer.after) : P (copiedAt s offers) := by
  induction offers generalizing s with
  | nil => exact start
  | cons first offers ih =>
    rw [copiedAt, List.foldl_cons, ← copiedAt]
    have rest := fun offer member => left offer (List.mem_cons_of_mem first member)
    by_cases whole : first.taken = first.offered.length
    · rw [if_pos whole]
      exact ih (left first List.mem_cons_self) rest
    · rw [if_neg whole]
      exact ih start rest

theorem Follow.untouched (content : σ → Bytes) {offers : List (Offer σ)} {final : σ}
    (follow : Follow s offers final)
    (untouched : ∀ offer ∈ offers, content offer.after = content offer.before) :
    content final = content s ∧ ∀ offer ∈ offers, content offer.after = content s := by
  induction offers generalizing s with
  | nil =>
    cases follow
    exact ⟨rfl, nofun⟩
  | cons first offers ih =>
    obtain ⟨rfl, follow⟩ := follow
    have same := untouched first List.mem_cons_self
    obtain ⟨last, rest⟩ :=
      ih follow fun offer member => untouched offer (List.mem_cons_of_mem _ member)
    refine ⟨last.trans same, ?_⟩
    intro offer member
    rcases List.mem_cons.mp member with rfl | later
    · exact same
    · exact (rest offer later).trans same

/-- Offers that show one content, each from where those before it were taken to, are accepted
without a gap. -/
theorem accepted_eq {content : Bytes} {offers : List (Offer σ)}
    (shown : ∀ i offer, offers[i]? = some offer → offer.taken ≤ offer.offered.length ∧
      offer.offered =
        (content.drop (position + taken (offers.take i))).take offer.offered.length) :
    accepted offers = (content.drop position).take (taken offers) ∧
      (accepted offers).length = taken offers := by
  induction offers generalizing position with
  | nil => exact ⟨List.take_zero.symm, rfl⟩
  | cons first offers ih =>
    obtain ⟨fits, slice⟩ := shown 0 first rfl
    have front : first.accepted = (content.drop position).take first.taken := by
      rw [Offer.accepted, slice, List.take_take, Nat.min_eq_left fits]
      rfl
    have length : first.accepted.length = first.taken := by
      rw [Offer.accepted, List.length_take, Nat.min_eq_left fits]
    have further (i : Nat) (offer : Offer σ) (found : offers[i]? = some offer) :
        offer.taken ≤ offer.offered.length ∧ offer.offered =
          (content.drop (position + first.taken + taken (offers.take i))).take
            offer.offered.length := by
      have later := shown (i + 1) offer found
      rwa [List.take_succ_cons, taken_cons, ← Nat.add_assoc] at later
    obtain ⟨rest, restLength⟩ := ih further
    rw [accepted_cons, taken_cons]
    constructor
    · rw [front, rest, List.take_add, List.drop_drop]
    · rw [List.length_append, length, restLength]

theorem Delivered.undisturbed {outcome : Except StoreFailure Nat}
    (delivered : Delivered place sink position count s outcome w)
    (untouched : ∀ offer ∈ w.seen,
      (place.look offer.after).bytes = (place.look offer.before).bytes)
    (takes : ∀ offer ∈ w.seen, offer.Takes) :
    let n := min count ((place.look s).size - position)
    outcome = .ok n ∧ accepted w.seen = ((place.look s).bytes.drop position).take n ∧
      (place.look w.state).bytes = (place.look s).bytes := by
  obtain ⟨same, throughout⟩ :=
    delivered.follow.untouched (fun s => (place.look s).bytes) untouched
  obtain ⟨answer, within, short⟩ :=
    delivered.moved fun offer member kind => (takes offer member).not_fails kind
  have shown (i : Nat) (offer : Offer σ) (found : w.seen[i]? = some offer) :
      offer.taken ≤ offer.offered.length ∧ offer.offered =
        ((place.look s).bytes.drop (position + taken (w.seen.take i))).take
          offer.offered.length := by
    have copied : (place.look (copiedAt s (w.seen.take i))).bytes = (place.look s).bytes :=
      copiedAt_induct (P := fun t => (place.look t).bytes = (place.look s).bytes) rfl
        fun earlier member => throughout earlier (List.mem_of_mem_take member)
    have due := (delivered.due i offer found).bytes
    rw [copied] at due
    exact ⟨(takes offer (List.mem_of_getElem? found)).bounds.2, due⟩
  obtain ⟨bytes, length⟩ := accepted_eq shown
  have total : taken w.seen = min count ((place.look s).size - position) := by
    rw [bytes, List.length_take, List.length_drop, ← Buffer.size] at length
    by_cases reached : taken w.seen = count
    · omega
    · rcases short (by omega) with ⟨offer, member, nothing⟩ | ended
      · have some := (takes offer member).bounds.1
        rw [Offer.taken_ok nothing] at some
        omega
      · rw [Buffer.size, same, ← Buffer.size] at ended
        omega
  rw [← total]
  exact ⟨answer, bytes, same⟩

/-- What goes into a sink, be it one that works on the buffer as well or that answers at will. -/
theorem copyOut_delivers (place : Place σ) (sink : Sink σ) (position count : Nat) (s : σ) :
    let run := place.watched.copyOut position count sink.watched { state := s }
    (run.1, run.2.state) = place.copyOut position count sink s ∧
      Delivered place sink position count s run.1 run.2 ∧
      ((∀ offer ∈ run.2.seen, (place.look offer.after).bytes = (place.look offer.before).bytes) →
        (∀ offer ∈ run.2.seen, offer.Takes) →
        let n := min count ((place.look s).size - position)
        run.1 = .ok n ∧ accepted run.2.seen = ((place.look s).bytes.drop position).take n ∧
          (place.look run.2.state).bytes = (place.look s).bytes) := by
  intro run
  have start : Steady place sink position count s { state := s } :=
    ⟨⟨nofun, rfl, nofun⟩, nofun, Nat.zero_le count⟩
  have delivered : Delivered place sink position count s run.1 run.2 :=
    drain_delivered 0 count { state := s } start rfl rfl rfl
  exact ⟨place.copyOut_watched sink position count s, delivered, delivered.undisturbed⟩

def nibbler : Sink Buffer := fun offered buffer => (.ok (min 2 offered.length), buffer)

theorem nibbler_takes_rest :
    let place := @Place.ofPart Buffer .standard (fun buffer => buffer) fun buffer _ => buffer
    let run := place.watched.copyOut 1 9 nibbler.watched { state := .ofBytes [1, 2, 3, 4, 5, 6] }
    run.1 = .ok 5 ∧ accepted run.2.seen = [2, 3, 4, 5, 6] ∧
      run.2.state.bytes = [1, 2, 3, 4, 5, 6] := by
  intro place run
  obtain ⟨_, delivered, undisturbed⟩ :=
    copyOut_delivers place nibbler 1 9 (.ofBytes [1, 2, 3, 4, 5, 6])
  apply undisturbed
  · intro offer member
    have answered := delivered.answered offer member
    exact congrArg (fun result => (place.look result.2).bytes) answered.symm
  · intro offer member
    have answered := delivered.answered offer member
    obtain ⟨i, at_i⟩ := List.getElem?_of_mem member
    have some := List.length_pos_iff.mpr (delivered.due i offer at_i).nonempty
    refine ⟨min 2 offer.offered.length, congrArg Prod.fst answered.symm, ?_, Nat.min_le_right _ _⟩
    omega

end Transfer

end SharedBytes
