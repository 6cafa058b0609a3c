import SharedBytes.Proofs.Scene
import SharedBytes.Proofs.Writes

/-!
# The growth limit

A bounded buffer never grows past its limit, whatever its users do. As long as it has not, the limit
has nothing against a write inside the content nor against an empty payload.
-/

namespace SharedBytes

namespace Buffer

variable [Memory] (buffer : Buffer)

theorem write_inside (position : Nat) (payload : List Bytes)
    (inside : position + payload.flatten.length ≤ buffer.size) :
    (buffer.write position payload).1 = .ok payload.flatten.length := by
  rcases buffer.write_cases position payload with
    ⟨empty, written⟩ | ⟨_, _, written⟩ | ⟨_, outside, _⟩
  · rw [written, empty]
    rfl
  · rw [written]
  · omega

theorem append_nothing (payload : List Bytes) (nothing : payload.flatten = [])
    (bounded : ∀ limit, buffer.limit = some limit → buffer.size ≤ limit) :
    buffer.append payload = (.ok ⟨0, buffer.size⟩, buffer) := by
  have accepted : buffer.refusal? buffer.size = none :=
    (buffer.refusal?_eq_none_iff _).mpr ⟨bounded, .inl (Nat.le_refl _)⟩
  simp only [append, nothing, List.length_nil, Nat.add_zero, accepted, List.append_nil]

section

variable {buffer} {bound : Nat} (fits : buffer.size ≤ bound)

include fits

/-- A bound on what is accepted is a bound on what a write leaves. -/
theorem write_size_le (accepts : ∀ stop, buffer.refusal? stop = none → stop ≤ bound)
    (position : Nat) (payload : List Bytes) : (buffer.write position payload).2.size ≤ bound := by
  rcases buffer.write_cases position payload with
    ⟨_, written⟩ | ⟨_, accepted, written⟩ | ⟨_, _, error, _, written⟩
  · rwa [written]
  · have reach : position + payload.flatten.length ≤ bound := by
      rcases accepted with inside | accepted
      · exact Nat.le_trans inside fits
      · exact accepts _ accepted
    rw [written, size, Bytes.length_splice]
    exact Nat.max_le.mpr ⟨fits, reach⟩
  · rwa [written]

theorem append_size_le (accepts : ∀ stop, buffer.refusal? stop = none → stop ≤ bound)
    (payload : List Bytes) : (buffer.append payload).2.size ≤ bound := by
  rcases buffer.append_cases payload with ⟨accepted, appended⟩ | ⟨error, _, appended⟩
  · rw [appended, size, List.length_append]
    exact accepts _ accepted
  · rwa [appended]

omit [Memory] in
theorem truncate_size_le (size : Nat) : (buffer.truncate size).size ≤ bound := by
  have shorter : (buffer.truncate size).size ≤ buffer.size := List.length_take_le' _ _
  exact Nat.le_trans shorter fits

end

theorem write_limit (position : Nat) (payload : List Bytes) :
    (buffer.write position payload).2.limit = buffer.limit := by
  rcases buffer.write_cases position payload with
    ⟨_, written⟩ | ⟨_, _, written⟩ | ⟨_, _, error, _, written⟩ <;> rw [written]

theorem append_limit (payload : List Bytes) :
    (buffer.append payload).2.limit = buffer.limit := by
  rcases buffer.append_cases payload with ⟨_, appended⟩ | ⟨error, _, appended⟩ <;> rw [appended]

end Buffer

namespace Scene

def WithinLimit (limit : Nat) (buffer : Buffer) (_ : List Change) : Prop :=
  buffer.limit = some limit ∧ buffer.size ≤ limit

theorem withinLimit_lasting (limit : Nat) : Lasting (WithinLimit limit) where
  write := by
    intro _ buffer history position payload before
    obtain ⟨limited, within⟩ := before
    refine ⟨(buffer.write_limit position payload).trans limited, ?_⟩
    apply Buffer.write_size_le within
    intro stop accepted
    exact ((buffer.refusal?_eq_none_iff stop).mp accepted).1 limit limited
  append := by
    intro _ buffer history payload before
    obtain ⟨limited, within⟩ := before
    refine ⟨(buffer.append_limit payload).trans limited, ?_⟩
    apply Buffer.append_size_le within
    intro stop accepted
    exact ((buffer.refusal?_eq_none_iff stop).mp accepted).1 limit limited
  truncate := by
    intro buffer history size before
    exact ⟨before.1, Buffer.truncate_size_le before.2 size⟩
  holders := by
    intro buffer history holders before
    exact before

theorem bounded_course_within_limit {ω : Type} {room : Scene ω → Memory} {limit : Nat} {world : ω}
    {s : Scene ω} (course : Course room (ofBuffer (.bounded limit) world) s) :
    s.buffer.size ≤ limit ∧
      (∀ [Memory] position payload, position + payload.flatten.length ≤ s.buffer.size →
        (s.buffer.write position payload).1 = .ok payload.flatten.length) ∧
      (∀ [Memory] position payload, payload.flatten = [] →
        s.buffer.write position payload = (.ok 0, s.buffer)) ∧
      ∀ [Memory] payload, payload.flatten = [] →
        s.buffer.append payload = (.ok ⟨0, s.buffer.size⟩, s.buffer) := by
  obtain ⟨limited, within⟩ := course.keeps (withinLimit_lasting limit) ⟨rfl, Nat.zero_le limit⟩
  refine ⟨within, ?_, ?_, ?_⟩
  · intro _ position payload inside
    exact s.buffer.write_inside position payload inside
  · intro _ position payload nothing
    exact s.buffer.write_nothing position payload nothing
  · intro _ payload nothing
    apply s.buffer.append_nothing payload nothing
    intro other found
    rw [limited] at found
    cases found
    exact within

def refusedOnce : Scene Unit :=
  let store := (place fun _ => Memory.standard).store
  (store.append [[4, 5]] (store.append [[1, 2], [3]] (ofBuffer (.bounded 4) ())).2).2

theorem refusedOnce_within_limit :
    Course (fun _ => Memory.standard) (ofBuffer (.bounded 4) ()) refusedOnce ∧
      refusedOnce.buffer.size ≤ 4 ∧
      (@Buffer.write .standard refusedOnce.buffer 1 [[9, 9]]).1 = .ok 2 ∧
      @Buffer.append .standard refusedOnce.buffer [[]] = (.ok ⟨0, 3⟩, refusedOnce.buffer) := by
  have course : Course (fun _ => Memory.standard) (ofBuffer (.bounded 4) ()) refusedOnce :=
    .andThen (.append _ _) (.append _ _)
  obtain ⟨within, inside, _, nothing⟩ := bounded_course_within_limit course
  exact ⟨course, within, @inside .standard 1 [[9, 9]] (by decide), @nothing .standard [[]] rfl⟩

end Scene

end SharedBytes
