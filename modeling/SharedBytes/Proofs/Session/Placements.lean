import Mathlib.Data.List.Pairwise
import SharedBytes.Proofs.Session.Moves

/-!
# Writes at positions that are apart

Channels that do not append write at positions of one buffer, and no two of the ranges overlap. Each
write is answered as if it were the only one: what the others have made of the buffer only lets it
grow to where it may grow anyhow. Two writes that are accepted change different bytes, and a gap
that one of them has filled with zeros is there for the other to write into. So neither the answers
nor the content depend on the order.
-/

namespace SharedBytes

/-- Writes to disjoint ranges change places, also where they leave gaps. -/
theorem Bytes.splice_comm (content : Bytes) {p q : Nat} {a b : Bytes}
    (apart : p + a.length ≤ q ∨ q + b.length ≤ p) :
    (content.splice p a).splice q b = (content.splice q b).splice p a := by
  apply List.ext_getElem?
  intro i
  simp only [getElem?_splice, length_splice]
  grind

namespace Buffer

variable [Memory] {buffer next : Buffer}

structure Grown (buffer next : Buffer) : Prop where
  limit : next.limit = buffer.limit
  size : buffer.size ≤ next.size
  within : ∀ stop, stop ≤ next.size → stop ≤ buffer.size ∨ buffer.refusal? stop = none

theorem refusal?_mono {stop further : Nat} (less : stop ≤ further)
    (accepted : buffer.refusal? further = none) : buffer.refusal? stop = none := by
  rw [refusal?_eq_none_iff] at accepted ⊢
  obtain ⟨limits, roomy⟩ := accepted
  refine ⟨fun limit limited => Nat.le_trans less (limits limit limited), ?_⟩
  rcases roomy with inside | roomy
  · exact .inl (Nat.le_trans less inside)
  · exact .inr (Nat.le_trans less roomy)

theorem write_grown (position : Nat) (payload : List Bytes) :
    buffer.Grown (buffer.write position payload).2 := by
  have same : buffer.Grown buffer := ⟨rfl, Nat.le_refl _, fun _ inside => .inl inside⟩
  rcases buffer.write_cases position payload with
    ⟨_, written⟩ | ⟨_, accepted, written⟩ | ⟨_, _, error, _, written⟩
  · rwa [written]
  · rw [written]
    refine ⟨rfl, ?_, ?_⟩
    · simp only [size, Bytes.length_splice]
      exact Nat.le_max_left _ _
    · intro stop inside
      by_cases old : stop ≤ buffer.size
      · exact .inl old
      · have covered : stop ≤ position + payload.flatten.length := by
          simp only [size, Bytes.length_splice] at inside old
          omega
        rcases accepted with within | accepted
        · exact .inl (Nat.le_trans covered within)
        · exact .inr (refusal?_mono covered accepted)
  · rwa [written]

theorem refusal?_congr {stop : Nat} (limit : next.limit = buffer.limit)
    (beyond : buffer.size < stop) (beyondToo : next.size < stop) :
    next.refusal? stop = buffer.refusal? stop := by
  simp only [refusal?, limit, beyond, beyondToo]

/-- A buffer that has grown answers a write as it did before. -/
theorem Grown.answer (grown : buffer.Grown next) (position : Nat) (payload : List Bytes) :
    (next.write position payload).1 = (buffer.write position payload).1 := by
  simp only [write]
  by_cases empty : payload.flatten = []
  · rw [if_pos empty, if_pos empty]
  · rw [if_neg empty, if_neg empty]
    by_cases old : position + payload.flatten.length ≤ buffer.size
    · rw [if_pos old, if_pos (Nat.le_trans old grown.size)]
    · rw [if_neg old]
      by_cases new : position + payload.flatten.length ≤ next.size
      · rw [if_pos new, (grown.within _ new).resolve_left old]
      · rw [if_neg new, refusal?_congr grown.limit (Nat.lt_of_not_le old) (Nat.lt_of_not_le new)]
        cases buffer.refusal? (position + payload.flatten.length) <;> rfl

def left (buffer : Buffer) (position : Nat) (bytes : Bytes) : Except StoreFailure Nat → Buffer
  | .ok _ =>
    if bytes = [] then buffer else { buffer with bytes := buffer.bytes.splice position bytes }
  | .error _ => buffer

theorem write_left (buffer : Buffer) (position : Nat) (payload : List Bytes) :
    (buffer.write position payload).2 =
      buffer.left position payload.flatten (buffer.write position payload).1 := by
  rcases buffer.write_cases position payload with
    ⟨empty, written⟩ | ⟨nonempty, _, written⟩ | ⟨_, _, error, _, written⟩
  · rw [written, left, if_pos empty]
  · rw [written, left, if_neg nonempty]
  · rw [written, left]

omit [Memory] in
theorem left_comm (buffer : Buffer) {p q : Nat} {a b : Bytes}
    (first second : Except StoreFailure Nat)
    (apart : a = [] ∨ b = [] ∨ p + a.length ≤ q ∨ q + b.length ≤ p) :
    (buffer.left p a first).left q b second = (buffer.left q b second).left p a first := by
  cases first with
  | error _ => rfl
  | ok _ =>
    cases second with
    | error _ => rfl
    | ok _ =>
      simp only [left]
      by_cases emptyA : a = []
      · rw [if_pos emptyA, if_pos emptyA]
      · by_cases emptyB : b = []
        · rw [if_pos emptyB, if_pos emptyB]
        · rw [if_neg emptyA, if_neg emptyA, if_neg emptyB, if_neg emptyB]
          have ranges := (apart.resolve_left emptyA).resolve_left emptyB
          rw [Bytes.splice_comm buffer.bytes ranges]

theorem write_comm (buffer : Buffer) {p q : Nat} {a b : List Bytes}
    (apart : a.flatten = [] ∨ b.flatten = [] ∨ p + a.flatten.length ≤ q ∨
      q + b.flatten.length ≤ p) :
    ((buffer.write p a).2.write q b).2 = ((buffer.write q b).2.write p a).2 := by
  have first := (buffer.write_grown q b).answer p a
  have second := (buffer.write_grown p a).answer q b
  rw [write_left, second, write_left buffer p a, left_comm buffer _ _ apart, write_left, first,
    write_left buffer q b]

end Buffer

structure Placement where
  id : Nat
  position : Nat
  payload : Bytes
deriving DecidableEq, Repr

namespace Placement

def op (placement : Placement) : Op :=
  .channel placement.id (.request (.writeAt placement.payload placement.position))

/-- Two ranges that do not meet, or one of them is empty. -/
def Apart (first second : Placement) : Prop :=
  first.payload = [] ∨ second.payload = [] ∨
    first.position + first.payload.length ≤ second.position ∨
    second.position + second.payload.length ≤ first.position

variable [Memory]

def put (placement : Placement) (buffer : Buffer) : Except ChannelFailure Nat × Buffer :=
  if placement.position ≤ maxPosition then
    let written := buffer.write placement.position [placement.payload]
    (written.1.mapError .store, written.2)
  else (.error (.invalidArgument "position" placement.position), buffer)

def outcome (placement : Placement) (buffer : Buffer) : Outcome StepFailure Value :=
  ((Outcome.ofExcept (placement.put buffer).1).map .number).mapError fun failure =>
    .call (.channel failure)

theorem put_answer (first second : Placement) (buffer : Buffer) :
    (second.put (first.put buffer).2).1 = (second.put buffer).1 := by
  have answer := (buffer.write_grown first.position [first.payload]).answer second.position
    [second.payload]
  simp only [put]
  by_cases inRange : first.position ≤ maxPosition
  · by_cases inRangeToo : second.position ≤ maxPosition
    · simp only [if_pos inRange, if_pos inRangeToo, answer]
    · simp only [if_neg inRangeToo]
  · simp only [if_neg inRange]

def Commute (first second : Placement) : Prop :=
  ∀ buffer : Buffer, (second.put (first.put buffer).2).2 = (first.put (second.put buffer).2).2

instance : Std.Symm Commute where
  symm _ _ comm buffer := (comm buffer).symm

theorem Apart.commute {first second : Placement} (apart : first.Apart second) :
    first.Commute second := by
  intro buffer
  have comm := @Buffer.write_comm _ buffer first.position second.position [first.payload]
    [second.payload] (by simpa only [List.flatten_singleton, Apart] using apart)
  simp only [put]
  by_cases inRange : first.position ≤ maxPosition
  · by_cases inRangeToo : second.position ≤ maxPosition
    · simpa only [if_pos inRange, if_pos inRangeToo] using comm
    · simp only [if_pos inRange, if_neg inRangeToo]
  · simp only [if_neg inRange]

end Placement

namespace Session

section

variable [Memory] {session : Session} {index : Nat} {channel : Channel}

/-- A store that answers for itself writes to its buffer, and leaves no more than a note. -/
theorem unprobed_write {slot : Slot} (unprobed : slot.fixed = {}) (id position : Nat)
    (payload : List Bytes) :
    let answer := (slot.store id).write position payload
      (({ session with log := [] } : Session), ())
    let written := (session.bufferAt slot.buffer).write position payload
    answer.1 = written.1 ∧
      answer.2.1.buffers = session.buffers.modify slot.buffer (fun _ => written.2) ∧
      ∀ other, answer.2.1.bareSlot? other = session.bareSlot? other := by
  rw [store_eq unprobed]
  refine ⟨rfl, rfl, ?_⟩
  intro other
  exact bareSlot_note (.write position (payload.map List.length)) ({ session with log := [] }, ())

/-- A step with a placement changes the one buffer as the placement does, and no channel. -/
theorem step_places {placement : Placement} (bears : session.Bears placement.id channel index)
    (isOpen : channel.isOpen = true) (writable : channel.capabilities.isWritable = true)
    (positional : channel.capabilities.isAppending = false) :
    let stepped := session.step placement.op
    stepped.1.outcome = placement.outcome (session.bufferAt index) ∧
      session.Turned placement.id channel
        (session.buffers.modify index fun buffer => (placement.put buffer).2) stepped.2 := by
  obtain ⟨slot, found, rfl, rfl, unprobed⟩ := bears
  obtain ⟨id, position, payload⟩ := placement
  have step {later buffers} :=
    @step_request session id _ slot found (.writeAt payload position) later buffers
  rw [← modify_bufferAt]
  by_cases inRange : position ≤ maxPosition
  · have allowed : slot.channel.refusal? .writable [("position", position)] = none :=
      slot.channel.writable_allowed isOpen writable (by simpa using inRange)
    obtain ⟨result, same, state⟩ := Channel.writeAt_positional (slot.store id) allowed positional
      payload (({ session with log := [] } : Session), ())
    obtain ⟨answer, buffers, bare⟩ := @unprobed_write _ session slot unprobed id position
      [payload]
    have stored : (Placement.mk id position payload).put (session.bufferAt slot.buffer) =
        (((session.bufferAt slot.buffer).write position [payload]).1.mapError .store,
          ((session.bufferAt slot.buffer).write position [payload]).2) := if_pos inRange
    rw [answer] at result
    refine ⟨(@step slot.channel []).1.trans ?_, step.2 same ?_ ?_⟩
    · rw [Placement.outcome, stored, ← result]
      exact number_reported _ session.locks.length
    · rw [stored]
      exact (congrArg (·.1.buffers) state).trans buffers
    · intro other
      exact (congrArg (·.1.bareSlot? other) state).trans (bare other)
  · have refused : slot.channel.refusal? .writable [("position", position)] =
        some (.invalidArgument "position" position) := by
      simp [Channel.refusal?, Nat.lt_of_not_le inRange]
    have unmoved := Channel.perform_refused (slot.store id)
      (({ session with log := [] } : Session), ())
      (rfl : (Call.request (.writeAt payload position)).terms? = _) refused
    have stored : (Placement.mk id position payload).put (session.bufferAt slot.buffer) =
        (.error (.invalidArgument "position" position), session.bufferAt slot.buffer) :=
      if_neg inRange
    rw [replyTo, unmoved] at step
    refine ⟨(@step slot.channel []).1.trans ?_, step.2 rfl ?_ fun _ => rfl⟩
    · rw [Placement.outcome, stored]
      rfl
    · rw [stored]
      exact (session.modify_bufferAt_self slot.buffer).symm

def Places (session : Session) (id index : Nat) : Prop :=
  ∃ channel, session.Bears id channel index ∧ channel.isOpen = true ∧
    channel.capabilities.isWritable = true ∧ channel.capabilities.isAppending = false

structure Placed (session : Session) (index : Nat) (placements : List Placement) : Prop where
  outcomes : (session.run (placements.map Placement.op)).1.map (·.outcome) =
    placements.map fun placement => placement.outcome (session.bufferAt index)
  buffers : (session.run (placements.map Placement.op)).2.buffers =
    session.buffers.modify index fun buffer =>
      placements.foldl (fun buffer placement => (placement.put buffer).2) buffer
  bare : ∀ id, (session.run (placements.map Placement.op)).2.bareSlot? id = session.bareSlot? id

omit [Memory] in
theorem Turned.unchanged {s : Session} {id : Nat} {buffers : List Buffer}
    (turned : session.Turned id channel buffers s) (bears : session.Bears id channel index)
    (other : Nat) : s.bareSlot? other = session.bareSlot? other := by
  rw [turned.bareSlot_eq]
  by_cases own : other = id
  · obtain ⟨slot, found, same, _⟩ := (session.bears_iff_bare id channel index).mp bears
    rw [if_pos own, own, found, ← same]
    rfl
  · rw [if_neg own]

theorem run_placed {placements : List Placement} (there : index < session.buffers.length)
    (places : ∀ placement ∈ placements, session.Places placement.id index) :
    session.Placed index placements := by
  -- The later placements are answered by a buffer that the first one has let grow.
  induction placements generalizing session with
  | nil =>
    exact
      { outcomes := rfl
        buffers := (List.modify_id _ _).symm
        bare := fun _ => rfl }
  | cons placement placements induction =>
    obtain ⟨first, others⟩ := List.forall_mem_cons.mp places
    obtain ⟨channel, bears, isOpen, writable, positional⟩ := first
    obtain ⟨outcome, turned⟩ := step_places bears isOpen writable positional
    have same := turned.unchanged bears
    have rest : (session.step placement.op).2.Placed index placements := by
      apply induction
      · rw [turned.buffers_eq, List.length_modify]
        exact there
      · intro next member
        obtain ⟨channel, bears, able⟩ := others next member
        refine ⟨channel, ?_, able⟩
        rw [bears_iff_bare, same, ← bears_iff_bare]
        exact bears
    have grown : (session.step placement.op).2.bufferAt index =
        (placement.put (session.bufferAt index)).2 := by
      rw [bufferAt, turned.buffers_eq, bufferAt, List.getD_eq_getElem?_getD,
        List.getElem?_modify_eq, List.getD_eq_getElem?_getD, List.getElem?_eq_getElem there]
      rfl
    constructor
    · have answers (next : Placement) :
          next.outcome (placement.put (session.bufferAt index)).2 =
            next.outcome (session.bufferAt index) := by
        rw [Placement.outcome, Placement.put_answer, ← Placement.outcome]
      simp only [List.map_cons, run, outcome, rest.outcomes, grown, answers]
    · simp only [List.map_cons, run, rest.buffers, turned.buffers_eq, List.foldl_cons,
        List.modify_modify_eq]
      rfl
    · intro id
      exact (rest.bare id).trans (same id)

theorem placements_commute {placements order : List Placement}
    (there : index < session.buffers.length)
    (places : ∀ placement ∈ placements, session.Places placement.id index)
    (apart : placements.Pairwise Placement.Apart) (reordered : order.Perm placements) :
    let alone placement := (session.step (Placement.op placement)).1.outcome
    let first := session.run (placements.map Placement.op)
    let second := session.run (order.map Placement.op)
    first.1.map (·.outcome) = placements.map alone ∧
      second.1.map (·.outcome) = order.map alone ∧
      second.2.buffers = first.2.buffers ∧
      ∀ id, second.2.channel? id = first.2.channel? id := by
  intro alone first second
  have placesToo : ∀ placement ∈ order, session.Places placement.id index :=
    fun placement member => places placement (reordered.mem_iff.mp member)
  have placed := run_placed there places
  have placedToo := run_placed there placesToo
  have answered : ∀ placement ∈ placements,
      placement.outcome (session.bufferAt index) = alone placement := by
    intro placement member
    obtain ⟨channel, bears, isOpen, writable, positional⟩ := places placement member
    exact (step_places bears isOpen writable positional).1.symm
  have commute : ∀ earlier ∈ placements, ∀ later ∈ placements, earlier.Commute later := by
    intro earlier member later memberToo
    exact (apart.imp Placement.Apart.commute).forall_of_forall (fun _ _ _ => rfl) member memberToo
  refine ⟨?_, ?_, ?_, ?_⟩
  · exact placed.outcomes.trans (List.map_congr_left answered)
  · exact placedToo.outcomes.trans (List.map_congr_left fun placement member =>
      answered placement (reordered.mem_iff.mp member))
  · rw [placed.buffers, placedToo.buffers]
    congr 1
    funext buffer
    apply reordered.foldl_eq'
    intro earlier member later memberToo buffer
    exact commute earlier (reordered.mem_iff.mp member) later (reordered.mem_iff.mp memberToo)
      buffer
  · intro id
    rw [channel_eq_bare, placedToo.bare, channel_eq_bare, placed.bare]

end

def workshop : Session :=
  let slot : Slot := { channel := .opened { write := true }, handle := 0, buffer := 0 }
  { buffers := [{ bytes := [1, 2, 3], limit := some 10, holders := 3 }]
    handles := [some 0]
    slots := [some slot, some slot] }

/-- Parts past the end, across the end, beyond the limit and in a gap. -/
def parts : List Placement :=
  [⟨0, 8, [9, 9]⟩, ⟨1, 2, [5, 6]⟩, ⟨0, 12, [7]⟩, ⟨1, 5, [8]⟩]

theorem parts_commute :
    let first := @run .standard workshop (parts.map Placement.op)
    let second := @run .standard workshop (parts.reverse.map Placement.op)
    first.2.contents = [some [1, 2, 5, 6, 0, 8, 0, 0, 9, 9]] ∧
      (@step .standard workshop (Placement.op ⟨0, 12, [7]⟩)).1.outcome =
        .error (.call (.channel (.store (.capacityExceeded 10 13)))) ∧
      second.1.map (·.outcome) = parts.reverse.map
        (fun part => (@step .standard workshop part.op).1.outcome) ∧
      second.2.buffers = first.2.buffers := by
  intro first second
  have places : ∀ part ∈ parts, workshop.Places part.id 0 := by
    have one : workshop.Places 0 0 := ⟨_, ⟨_, rfl, rfl, rfl, rfl⟩, rfl, rfl, rfl⟩
    have other : workshop.Places 1 0 := ⟨_, ⟨_, rfl, rfl, rfl, rfl⟩, rfl, rfl, rfl⟩
    simp [parts, one, other]
  have apart : parts.Pairwise Placement.Apart := by
    simp [parts, Placement.Apart]
  obtain ⟨_, answers, buffers, _⟩ :=
    @placements_commute .standard workshop 0 parts parts.reverse (by decide) places apart
      (List.reverse_perm parts)
  exact ⟨by decide +kernel, by decide +kernel, answers, buffers⟩

end Session

end SharedBytes
