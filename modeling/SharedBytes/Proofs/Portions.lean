import Mathlib.Algebra.GroupWithZero.Nat
import SharedBytes.Proofs.AtEnd
import SharedBytes.Proofs.Channel.Runs
import SharedBytes.Proofs.Writes

/-!
# Payloads written in portions

A payload may be handed to a channel in one write or in several, with empty ones among them. A write
goes there where the one before it has ended, at the cursor or at the end of the content, and it is
accepted if the content may reach to its end. So all the portions are accepted if the whole payload
is, since the last of them that is not empty ends where the whole ends; and what they leave behind
is what the whole leaves.
-/

namespace SharedBytes

namespace Buffer

variable [Memory] {buffer : Buffer} {position : Nat} {payload : List Bytes} {first second : Bytes}

def Accepts (buffer : Buffer) (position : Nat) (bytes : Bytes) : Prop :=
  bytes = [] ∨ buffer.Admits (position + bytes.length)

theorem write_accepted (accepted : buffer.Accepts position payload.flatten) :
    (buffer.write position payload).1 = .ok payload.flatten.length := by
  by_cases nothing : payload.flatten = []
  · rw [buffer.write_nothing position payload nothing, nothing]
    rfl
  · rw [write_admitted nothing (accepted.resolve_left nothing)]

theorem accepts_of_write {count : Nat} (written : (buffer.write position payload).1 = .ok count) :
    buffer.Accepts position payload.flatten := by
  by_cases nothing : payload.flatten = []
  · exact .inl nothing
  · by_cases admitted : buffer.Admits (position + payload.flatten.length)
    · exact .inr admitted
    · rw [write_beyond nothing admitted] at written
      cases written

theorem accepts_append_iff :
    buffer.Accepts position (first ++ second) ↔
      buffer.Accepts position first ∧
        (buffer.write position [first]).2.Accepts (position + first.length) second := by
  by_cases none : second = []
  · simp [Accepts, none]
  by_cases blank : first = []
  · rw [blank, buffer.write_nothing position [[]] List.flatten_singleton]
    simp [Accepts]
  · have whole : first ++ second ≠ [] := by simp [none]
    simp only [Accepts, none, blank, whole, false_or, List.length_append, ← Nat.add_assoc]
    constructor
    · intro admitted
      exact ⟨admitted.mono (Nat.le_add_right _ _), admitted.write position [first]⟩
    · rintro ⟨fits, further⟩
      rw [write_admitted (by simpa using blank) (by simpa using fits)] at further
      exact (admits_splice_iff (by simpa using fits) _).mp further

theorem write_rest (accepted : buffer.Accepts position (first ++ second)) :
    ((buffer.write position [first]).2.write (position + first.length) [second]).2 =
      (buffer.write position [first ++ second]).2 := by
  rcases accepted with nothing | admitted
  · obtain ⟨rfl, rfl⟩ := List.append_eq_nil_iff.mp nothing
    rw [buffer.write_nothing position _ List.flatten_singleton]
    exact congrArg Prod.snd (buffer.write_nothing _ _ List.flatten_singleton)
  · rw [write_write admitted]

theorem write_at_end_size (accepted : buffer.Accepts buffer.size payload.flatten) :
    (buffer.write buffer.size payload).2.size = buffer.size + payload.flatten.length := by
  by_cases nothing : payload.flatten = []
  · rw [buffer.write_nothing _ payload nothing, nothing]
    rfl
  · rw [write_admitted nothing (accepted.resolve_left nothing), size, Bytes.length_splice, ← size]
    omega

theorem Sound.write (sound : buffer.Sound) (position : Nat) (payload : List Bytes) :
    (buffer.write position payload).2.Sound :=
  Scene.sound_lasting.write buffer [] position payload sound

end Buffer

namespace Channel

variable {σ : Type} {channel : Channel} {s : σ}

def writeCalls (portions : List (List Bytes)) : List (Call σ) :=
  portions.map fun portion => .request (.write portion)

variable [Memory] {place : Place σ}

/-- Where the next write goes if the content has this size. -/
def outset (channel : Channel) (size : Nat) : Nat :=
  if channel.capabilities.isAppending then size else channel.position

/-- A channel of either kind writes at its outset, and its cursor moves past what it has written. -/
theorem write_at_outset (faithful : place.Faithful) (sound : (place.look s).Sound)
    (isOpen : channel.isOpen = true) (writable : channel.capabilities.isWritable = true)
    (payload : List Bytes) :
    let start := channel.outset (place.look s).size
    let reply := channel.write place.store payload s
    let written := (place.look s).write start payload
    reply.result = written.1.mapError .store ∧ place.look reply.state = written.2 ∧
      reply.channel = channel.answered written.1 (start + ·) := by
  intro start reply written
  have allowed : channel.refusal? .writable [] = none :=
    channel.writable_allowed isOpen writable (List.forall_mem_nil _)
  cases mode : channel.capabilities.isAppending with
  | true =>
    have here : start = (place.look s).size := if_pos mode
    obtain ⟨result, moved, state⟩ := write_appending place.store allowed mode payload s
    have receipt : (place.append payload s).1 =
        written.1.map fun count => ⟨count, start + count⟩ := by
      rw [(faithful.append payload s).1, sound.append payload, ← here]
    have content : place.look (place.append payload s).2 = written.2 := by
      rw [(faithful.append payload s).2, sound.append payload, ← here]
    refine ⟨result.trans ?_, (congrArg place.look state).trans content, moved.trans ?_⟩
    · change ((place.append payload s).1.map (·.written)).mapError ChannelFailure.store = _
      rw [receipt]
      cases written.1 <;> rfl
    · change channel.answered (place.append payload s).1 (·.size) = _
      rw [receipt]
      cases written.1 <;> rfl
  | false =>
    have here : start = channel.position := if_neg (by simp [mode])
    obtain ⟨result, moved, state⟩ := write_positional place.store allowed mode payload s
    obtain ⟨answer, content⟩ := faithful.write channel.position payload s
    rw [← here] at answer content result moved state
    refine ⟨result.trans ?_, (congrArg place.look state).trans content, moved.trans ?_⟩
    · exact congrArg (Except.mapError ChannelFailure.store) answer
    · exact congrArg (channel.answered · (start + ·)) answer

/-- A write succeeds if the buffer accepts it, and the next one goes there where it has ended. -/
theorem write_accepts (faithful : place.Faithful) (sound : (place.look s).Sound)
    (isOpen : channel.isOpen = true) (writable : channel.capabilities.isWritable = true)
    (payload : List Bytes) :
    let start := channel.outset (place.look s).size
    let reply := channel.write place.store payload s
    ((∃ count, reply.result = .ok count) ↔ (place.look s).Accepts start payload.flatten) ∧
      place.look reply.state = ((place.look s).write start payload).2 ∧
      ((place.look s).Accepts start payload.flatten →
        reply.result = .ok payload.flatten.length ∧
          reply.channel = channel.moveTo (start + payload.flatten.length) ∧
          reply.channel.outset (place.look reply.state).size = start + payload.flatten.length) := by
  intro start reply
  obtain ⟨answer, content, moved⟩ := write_at_outset faithful sound isOpen writable payload
  have result : reply.result = ((place.look s).write start payload).1.mapError .store := answer
  have after : place.look reply.state = ((place.look s).write start payload).2 := content
  refine ⟨⟨?_, ?_⟩, after, ?_⟩
  · rintro ⟨count, succeeded⟩
    rw [result] at succeeded
    cases written : ((place.look s).write start payload).1 with
    | ok count => exact Buffer.accepts_of_write written
    | error failure =>
      rw [written] at succeeded
      cases succeeded
  · intro accepted
    rw [Buffer.write_accepted accepted] at result
    exact ⟨_, result⟩
  · intro accepted
    rw [Buffer.write_accepted accepted] at result moved
    have here : reply.channel = channel.moveTo (start + payload.flatten.length) := moved
    refine ⟨result, here, ?_⟩
    rw [here, after, outset, moveTo_capabilities]
    cases mode : channel.capabilities.isAppending with
    | true =>
      have atEnd : start = (place.look s).size := if_pos mode
      rw [atEnd] at accepted ⊢
      rw [if_pos rfl, Buffer.write_at_end_size accepted]
    | false => exact if_neg Bool.false_ne_true

theorem run_writeCalls (faithful : place.Faithful) (sound : (place.look s).Sound)
    (isOpen : channel.isOpen = true) (writable : channel.capabilities.isWritable = true)
    (portions : List (List Bytes)) :
    let start := channel.outset (place.look s).size
    let payload := portions.flatten.flatten
    let final := channel.run place.store s (writeCalls portions)
    (channel.Completes place.store s (writeCalls portions) ↔
        (place.look s).Accepts start payload) ∧
      ((place.look s).Accepts start payload →
        channel.answers place.store s (writeCalls portions) =
            portions.map (fun portion => .ok (.number portion.flatten.length)) ∧
          place.look final.2 = ((place.look s).write start [payload]).2 ∧
          (portions ≠ [] → final.1 = channel.moveTo (start + payload.length))) := by
  induction portions generalizing channel s with
  | nil =>
    refine ⟨iff_of_true (channel.completes_nil s) (.inl rfl), fun _ => ⟨rfl, ?_, absurd rfl⟩⟩
    exact (congrArg Prod.snd (Buffer.write_nothing _ _ _ List.flatten_singleton)).symm
  | cons portion portions induction =>
    intro start payload final
    let reply := channel.write place.store portion s
    let after := ((place.look s).write start [portion.flatten]).2
    let stop := start + portion.flatten.length
    let rest := portions.flatten.flatten
    have cut : payload = portion.flatten ++ rest := by
      simp only [payload, rest, List.flatten_cons, List.flatten_append]
    obtain ⟨succeeds, content, goesOn⟩ := write_accepts faithful sound isOpen writable portion
    rw [← Buffer.write_flatten] at content
    -- After the first portion, if it is accepted, the others start where it ends.
    have later (first : (place.look s).Accepts start portion.flatten) :
        (reply.channel.Completes place.store reply.state (writeCalls portions) ↔
            after.Accepts stop rest) ∧
          (after.Accepts stop rest →
            reply.channel.answers place.store reply.state (writeCalls portions) =
                portions.map (fun portion => .ok (.number portion.flatten.length)) ∧
              place.look final.2 = (after.write stop [rest]).2 ∧
              final.1 = channel.moveTo (stop + rest.length)) := by
      obtain ⟨_, moved, next⟩ := goesOn first
      have soundAfter : (place.look reply.state).Sound := by
        rw [content]
        exact sound.write start [portion.flatten]
      have stillOpen : reply.channel.isOpen = true := by
        rw [moved]
        exact isOpen
      have stillWritable : reply.channel.capabilities.isWritable = true := by
        rw [moved]
        exact writable
      obtain ⟨completes, goes⟩ := induction soundAfter stillOpen stillWritable
      rw [next, content] at completes goes
      refine ⟨completes, fun accepted => ?_⟩
      obtain ⟨answers, left, cursor⟩ := goes accepted
      refine ⟨answers, left, ?_⟩
      cases portions with
      | nil => exact moved
      | cons _ _ =>
        have landed : final.1 = reply.channel.moveTo (stop + rest.length) :=
          cursor (List.cons_ne_nil _ _)
        have stands : reply.channel = channel.moveTo stop := moved
        rw [landed, stands, moveTo_moveTo]
    rw [cut]
    constructor
    · calc
        channel.Completes place.store s (writeCalls (portion :: portions))
          ↔ (∃ answer, (channel.perform place.store s (.request (.write portion))).result =
                .ok answer) ∧
              reply.channel.Completes place.store reply.state (writeCalls portions) :=
            completes_cons channel s _ _
        _ ↔ (place.look s).Accepts start portion.flatten ∧
              reply.channel.Completes place.store reply.state (writeCalls portions) :=
            and_congr_left' ((reply.answering_ok_iff .number).trans succeeds)
        _ ↔ (place.look s).Accepts start portion.flatten ∧ after.Accepts stop rest :=
            and_congr_right fun first => (later first).1
        _ ↔ (place.look s).Accepts start (portion.flatten ++ rest) :=
            Buffer.accepts_append_iff.symm
    · intro accepted
      obtain ⟨first, further⟩ := Buffer.accepts_append_iff.mp accepted
      obtain ⟨result, _, _⟩ := goesOn first
      obtain ⟨answers, left, cursor⟩ := (later first).2 further
      refine ⟨?_, ?_, fun _ => ?_⟩
      · exact List.cons_eq_cons.mpr ⟨Reply.answering_ok result .number, answers⟩
      · rw [left, Buffer.write_rest accepted]
      · rw [cursor, List.length_append, Nat.add_assoc]

end Channel

/-- However a payload is cut into writes, they all succeed if one write of the whole does, and then
come to the same. -/
theorem write_in_portions {σ : Type} [Memory] {place : Place σ} (faithful : place.Faithful) {s : σ}
    (reachable : (place.look s).Reachable) {channel : Channel} (isOpen : channel.isOpen = true)
    (writable : channel.capabilities.isWritable = true) {payload : Bytes}
    {portions : List (List Bytes)} (cut : portions.flatten.flatten = payload)
    (some : portions ≠ []) :
    let calls := Channel.writeCalls portions
    let final := channel.run place.store s calls
    let whole := channel.write place.store [payload] s
    (channel.Completes place.store s calls ↔ ∃ count, whole.result = .ok count) ∧
      ∀ count, whole.result = .ok count →
        channel.answers place.store s calls =
            portions.map (fun portion => .ok (.number portion.flatten.length)) ∧
          (portions.map fun portion => portion.flatten.length).sum = count ∧
          place.look final.2 = place.look whole.state ∧ final.1 = whole.channel := by
  intro calls final whole
  subst cut
  have sound := reachable.sound
  obtain ⟨completes, goes⟩ := Channel.run_writeCalls faithful sound isOpen writable portions
  obtain ⟨succeeds, content, goesOn⟩ := Channel.write_accepts faithful sound isOpen writable
    [portions.flatten.flatten]
  rw [List.flatten_singleton] at succeeds goesOn
  refine ⟨completes.trans succeeds.symm, ?_⟩
  intro count succeeded
  have accepted := succeeds.mp ⟨count, succeeded⟩
  obtain ⟨result, moved, _⟩ := goesOn accepted
  obtain ⟨answers, left, cursor⟩ := goes accepted
  have total : portions.flatten.flatten.length = count :=
    Except.ok.inj (result.symm.trans succeeded)
  refine ⟨answers, ?_, left.trans content.symm, (cursor some).trans moved.symm⟩
  rw [← total, List.flatten_flatten, List.length_flatten, List.map_map]
  rfl

/-- Three bytes across a gap, in four portions of which two are empty: the empty one in front leaves
the gap alone. -/
theorem gap_written_in_portions :
    let s : Buffer × Bytes := ({ bytes := [1, 2, 3], limit := some 8 }, [])
    let writer : Channel := { capabilities := { write := true }, position := 5 }
    let portions : List (List Bytes) := [[[]], [[4], [], [5]], [], [[6]]]
    let final := writer.run besideBytes.store s (Channel.writeCalls portions)
    s.1.Reachable ∧ portions.flatten.flatten = [4, 5, 6] ∧
      (writer.write besideBytes.store [[4, 5, 6]] s).result = .ok 3 ∧
      writer.Completes besideBytes.store s (Channel.writeCalls portions) ∧
      final.1.position = 8 ∧
      besideBytes.look final.2 = { bytes := [1, 2, 3, 0, 0, 4, 5, 6], limit := some 8 } := by
  intro s writer portions final
  have course : Scene.Course (fun _ => .standard) (.ofBuffer (Origin.bounded 8).buffer ()) _ :=
    .append _ [[1, 2], [3]]
  have reachable : s.1.Reachable := .left (.bounded 8) (Nat.zero_le _) course
  have written : (writer.write besideBytes.store [[4, 5, 6]] s).result = .ok 3 := rfl
  obtain ⟨completes, same⟩ := @write_in_portions _ .standard besideBytes besideBytes_faithful s
    reachable writer rfl rfl [4, 5, 6] portions rfl (List.cons_ne_nil _ _)
  obtain ⟨_, _, content, channel⟩ := same 3 written
  have cursor : (writer.write besideBytes.store [[4, 5, 6]] s).channel.position = 8 := rfl
  have stored : besideBytes.look (writer.write besideBytes.store [[4, 5, 6]] s).state =
      { bytes := [1, 2, 3, 0, 0, 4, 5, 6], limit := some 8 } := rfl
  refine ⟨reachable, rfl, written, completes.mpr ⟨3, written⟩, ?_, ?_⟩
  · exact (congrArg Channel.position channel).trans cursor
  · exact content.trans stored

end SharedBytes
