import SharedBytes.Proofs.Cursors
import SharedBytes.Proofs.Reads

/-!
# Work on a buffer, step by step

Numbers grow without end here, differences stop at zero, and slices end where the bytes end. In
words of 64 bits a sum may be too large, a difference negative, and a slice out of bounds. So the
work on a buffer is gone through once more with each such step checked: it has no result as soon as
one of them goes wrong. As long as the content is no longer than positions reach, none of them does,
and the result is that of the work itself.
-/

namespace SharedBytes.Checked

/-- The result of a step, if the step goes well. The type says which value that is, so that loops
can be seen to end which go on with it. -/
abbrev Step {α : Type} (value : α) : Type :=
  Option { result : α // result = value }

def step {α : Type} (good : Prop) [Decidable good] (value : α) : Step value :=
  if good then some ⟨value, rfl⟩ else none

def sum (a b : Nat) : Step (a + b) :=
  step (a + b ≤ maxWord) (a + b)

def difference (a b : Nat) : Step (a - b) :=
  step (b ≤ a) (a - b)

def piece (content : Bytes) (start stop : Nat) : Step ((content.drop start).take (stop - start)) :=
  step (start ≤ stop ∧ stop ≤ content.length) ((content.drop start).take (stop - start))

/-- Puts `bytes` in the place of those from `start` up to `stop`, which have to be there and to be
as many. -/
def put (bytes : Bytes) (start stop : Nat) (content : Bytes) :
    Step (content.take start ++ bytes ++ content.drop stop) :=
  step (start ≤ stop ∧ stop ≤ content.length ∧ bytes.length = stop - start)
    (content.take start ++ bytes ++ content.drop stop)

theorem maxPosition_lt_maxWord : maxPosition < maxWord := by decide

section

variable {a b start stop : Nat} {bytes content : Bytes}

theorem step_eq {α : Type} {good : Prop} [Decidable good] (holds : good) (value : α) :
    step good value = some ⟨value, rfl⟩ :=
  if_pos holds

theorem sum_eq (fits : a + b ≤ maxWord) : sum a b = some ⟨a + b, rfl⟩ :=
  step_eq fits _

theorem sum_eq_none (tooLarge : maxWord < a + b) : sum a b = none :=
  if_neg (Nat.not_le_of_lt tooLarge)

theorem difference_eq (enough : b ≤ a) : difference a b = some ⟨a - b, rfl⟩ :=
  step_eq enough _

theorem piece_eq (ordered : start ≤ stop) (inside : stop ≤ content.length) :
    piece content start stop = some ⟨(content.drop start).take (stop - start), rfl⟩ :=
  step_eq ⟨ordered, inside⟩ _

theorem put_eq (fits : start + bytes.length = stop) (inside : stop ≤ content.length) :
    put bytes start stop content =
      some ⟨content.take start ++ bytes ++ content.drop stop, rfl⟩ :=
  step_eq ⟨by omega, inside, by omega⟩ _

end

/-- Copies a content from an offset on into slices, and leaves off as soon as the content ends.
Gives the offset that it has come to. -/
def pour (content : Bytes) (offset : Nat) : List Bytes → Option (Nat × List Bytes)
  | [] => some (offset, [])
  | slice :: slices => do
    let ⟨left, _⟩ ← difference content.length offset
    let count := min slice.length left
    let ⟨reached, _⟩ ← sum offset count
    let ⟨bytes, _⟩ ← piece content offset reached
    let ⟨filled, _⟩ ← put bytes 0 count slice
    if reached = content.length then return (reached, filled :: slices)
    let (last, rest) ← pour content reached slices
    return (last, filled :: rest)

def read (buffer : Buffer) (position : Nat) (slices : List Bytes) :
    Option (Option Nat × List Bytes) :=
  if buffer.size ≤ position then some (none, slices)
  else do
    let (reached, filled) ← pour buffer.bytes position slices
    let ⟨count, _⟩ ← difference reached position
    return (some count, filled)

theorem overlay_fitting {bytes slice : Bytes} (fits : bytes.length ≤ slice.length) :
    slice.take 0 ++ bytes ++ slice.drop bytes.length = Bytes.overlay bytes slice := by
  rw [Bytes.overlay, List.take_of_length_le fits, List.take_zero, List.nil_append]

/-- By induction over the slices: the offset never passes the end of the content. -/
theorem pour_eq {content : Bytes} {offset : Nat} (inside : offset ≤ content.length)
    (fits : content.length ≤ maxWord) (slices : List Bytes) :
    pour content offset slices = some (content.pour offset slices) := by
  induction slices generalizing offset with
  | nil => rfl
  | cons slice slices induction =>
    rw [pour, Bytes.pour, difference_eq inside]
    simp only [Option.bind_eq_bind, Option.bind_some]
    generalize counted : min slice.length (content.length - offset) = count
    have further : offset + count ≤ content.length := by omega
    have length : ((content.drop offset).take count).length = count := by
      rw [List.length_take, List.length_drop]
      omega
    have short : ((content.drop offset).take count).length ≤ slice.length := by omega
    have filled := overlay_fitting short
    rw [length] at filled
    rw [sum_eq (Nat.le_trans further fits), Option.bind_some,
      piece_eq (Nat.le_add_right _ _) further, Option.bind_some, Nat.add_sub_cancel_left,
      put_eq ((Nat.zero_add _).trans length) (by omega), Option.bind_some, induction further]
    simp only [filled, Option.bind_some]
    split <;> rfl

theorem read_eq {buffer : Buffer} (fits : buffer.size ≤ maxPosition) (position : Nat)
    (slices : List Bytes) : read buffer position slices = some (buffer.read position slices) := by
  by_cases ended : buffer.size ≤ position
  · rw [read, if_pos ended, buffer.read_ended ended]
  · have inside : position < buffer.size := Nat.lt_of_not_le ended
    have words : buffer.bytes.length ≤ maxWord :=
      Nat.le_of_lt (Nat.lt_of_le_of_lt fits maxPosition_lt_maxWord)
    have reached : position ≤ (buffer.bytes.pour position slices).1 := by
      rw [buffer.bytes.pour_eq (Nat.le_of_lt inside)]
      exact Nat.le_add_right _ _
    rw [read, if_neg ended, pour_eq (Nat.le_of_lt inside) words, buffer.read_pours inside]
    simp only [Option.bind_eq_bind, Option.bind_some, difference_eq reached]
    rfl

def total (before : Nat) : List Bytes → Option Nat
  | [] => some before
  | bytes :: payload => do
    let ⟨length, _⟩ ← sum before bytes.length
    total length payload

def lay (content : Bytes) (offset : Nat) : List Bytes → Option Bytes
  | [] => some content
  | bytes :: payload => do
    let ⟨stop, _⟩ ← sum offset bytes.length
    let ⟨laid, _⟩ ← put bytes offset stop content
    lay laid stop payload

theorem total_eq {before : Nat} {payload : List Bytes}
    (fits : before + payload.flatten.length ≤ maxWord) :
    total before payload = some (before + payload.flatten.length) := by
  induction payload generalizing before with
  | nil => rfl
  | cons bytes payload induction =>
    rw [List.flatten_cons, List.length_append, ← Nat.add_assoc] at fits
    rw [total, sum_eq (Nat.le_trans (Nat.le_add_right _ _) fits)]
    simp only [Option.bind_eq_bind, Option.bind_some]
    rw [induction fits, List.flatten_cons, List.length_append, Nat.add_assoc]

theorem total_flatten {payload : List Bytes} (words : payload.flatten.length ≤ maxWord) :
    total 0 payload = some payload.flatten.length := by
  rw [total_eq (by rwa [Nat.zero_add]), Nat.zero_add]

theorem splice_inside {content : Bytes} {position : Nat} (inside : position ≤ content.length)
    (bytes : Bytes) :
    content.splice position bytes =
      content.take position ++ bytes ++ content.drop (position + bytes.length) := by
  rw [Bytes.splice, Nat.sub_eq_zero_of_le inside, Bytes.zeros, List.replicate_zero,
    List.append_nil]

theorem lay_eq {content : Bytes} {offset : Nat} {payload : List Bytes}
    (inside : offset + payload.flatten.length ≤ content.length)
    (fits : content.length ≤ maxWord) :
    lay content offset payload = some (content.splice offset payload.flatten) := by
  induction payload generalizing content offset with
  | nil => exact congrArg some (Bytes.splice_nil inside).symm
  | cons bytes payload induction =>
    rw [List.flatten_cons, List.length_append, ← Nat.add_assoc] at inside
    have within : offset + bytes.length ≤ content.length :=
      Nat.le_trans (Nat.le_add_right _ _) inside
    have length : (content.splice offset bytes).length = content.length := by
      rw [Bytes.length_splice, Nat.max_eq_left within]
    rw [lay, sum_eq (Nat.le_trans within fits)]
    simp only [Option.bind_eq_bind, Option.bind_some]
    rw [put_eq rfl within, Option.bind_some,
      ← splice_inside (Nat.le_trans (Nat.le_add_right _ _) within)]
    rw [induction (by rwa [length]) (by rwa [length]), Bytes.splice_append, List.flatten_cons]

variable [Memory]

def grown (buffer : Buffer) (stop : Nat) : Option (Except StoreFailure Bytes) :=
  if stop ≤ buffer.size then some (.ok buffer.bytes)
  else do
    let ⟨growth, _⟩ ← difference stop buffer.size
    match buffer.refusal? stop with
    | some error => return .error error
    | none => return .ok (buffer.bytes ++ Bytes.zeros growth)

/-- Where the end of the payload is no word, the write fails: that sum may be too large. -/
def write (buffer : Buffer) (position : Nat) (payload : List Bytes) :
    Option (Except StoreFailure Nat × Buffer) := do
  let length ← total 0 payload
  if length = 0 then return (.ok 0, buffer)
  match sum position length with
  | none => return (.error (buffer.overflow (position + length)), buffer)
  | some ⟨stop, _⟩ =>
    match ← grown buffer stop with
    | .error error => return (.error error, buffer)
    | .ok content =>
      let bytes ← lay content position payload
      return (.ok length, { buffer with bytes })

/-- The sum of the sizes stops at the largest word. -/
def append (buffer : Buffer) (payload : List Bytes) :
    Option (Except StoreFailure Receipt × Buffer) := do
  let length ← total 0 payload
  match buffer.refusal? (min (buffer.size + length) maxWord) with
  | some error => return (.error error, buffer)
  | none =>
    let bytes := buffer.bytes ++ payload.flatten
    return (.ok ⟨length, bytes.length⟩, { buffer with bytes })

section

variable {buffer : Buffer} (fits : buffer.size ≤ maxPosition)

theorem grown_eq (buffer : Buffer) (stop : Nat) :
    grown buffer stop =
      some (match if stop ≤ buffer.size then none else buffer.refusal? stop with
        | some error => .error error
        | none => .ok (buffer.bytes ++ Bytes.zeros (stop - buffer.size))) := by
  by_cases inside : stop ≤ buffer.size
  · rw [grown, if_pos inside, if_pos inside, Nat.sub_eq_zero_of_le inside]
    simp only [Bytes.zeros, List.replicate_zero, List.append_nil]
  · rw [grown, if_neg inside, if_neg inside, difference_eq (Nat.le_of_not_le inside)]
    simp only [Option.bind_eq_bind, Option.bind_some]
    cases buffer.refusal? stop <;> rfl

omit [Memory] in
theorem splice_grown (content : Bytes) (position : Nat) (bytes : Bytes) :
    (content ++ Bytes.zeros (position + bytes.length - content.length)).splice position bytes =
      content.splice position bytes := by
  apply List.ext_getElem?
  intro i
  simp only [Bytes.getElem?_splice, Bytes.zeros, List.getElem?_append, List.length_append,
    List.length_replicate, List.getElem?_replicate]
  grind

include fits

omit [Memory] in
theorem lay_grown {position : Nat} {payload : List Bytes}
    (word : position + payload.flatten.length ≤ maxWord) :
    lay (buffer.bytes ++ Bytes.zeros (position + payload.flatten.length - buffer.size)) position
      payload = some (buffer.bytes.splice position payload.flatten) := by
  have above := maxPosition_lt_maxWord
  have length : (buffer.bytes ++
      Bytes.zeros (position + payload.flatten.length - buffer.size)).length =
        max buffer.size (position + payload.flatten.length) := by
    rw [List.length_append, Bytes.length_zeros, ← Buffer.size]
    omega
  rw [lay_eq (by omega) (by omega)]
  exact congrArg some (splice_grown buffer.bytes position payload.flatten)

theorem refusal?_beyond {stop : Nat} (beyond : maxPosition < stop) :
    buffer.refusal? stop = some (buffer.overflow stop) := by
  rcases buffer.refusal?_growing (Nat.lt_of_le_of_lt fits beyond) with
    ⟨admitted, _⟩ | ⟨_, refused⟩
  · exact absurd (admitted.inRange fits) (Nat.not_le_of_lt beyond)
  · exact refused

theorem refusal?_saturated (stop : Nat) :
    buffer.refusal? (min stop maxWord) = buffer.refusal? stop := by
  have above := maxPosition_lt_maxWord
  rcases Nat.le_total stop maxWord with word | tooLarge
  · rw [Nat.min_eq_left word]
  · rw [Nat.min_eq_right tooLarge, refusal?_beyond fits above,
      refusal?_beyond fits (Nat.lt_of_lt_of_le above tooLarge), Buffer.overflow, Buffer.overflow,
      Nat.min_eq_right tooLarge, Nat.min_self]

theorem write_eq (position : Nat) {payload : List Bytes}
    (words : payload.flatten.length ≤ maxWord) :
    write buffer position payload = some (buffer.write position payload) := by
  rw [write, total_flatten words]
  simp only [Option.bind_eq_bind, Option.bind_some]
  by_cases nothing : payload.flatten = []
  · rw [buffer.write_nothing position payload nothing, nothing]
    rfl
  · rw [if_neg (mt List.eq_nil_of_length_eq_zero nothing)]
    by_cases word : position + payload.flatten.length ≤ maxWord
    · simp only [sum_eq word, grown_eq, Option.bind_some, Buffer.write, if_neg nothing]
      cases if position + payload.flatten.length ≤ buffer.size then none
        else buffer.refusal? (position + payload.flatten.length) with
      | some error => rfl
      | none =>
        simp only [lay_grown fits word, Option.bind_some]
        rfl
    · have tooLarge : maxWord < position + payload.flatten.length := Nat.lt_of_not_le word
      have beyond : ¬ buffer.Admits (position + payload.flatten.length) := by
        intro admitted
        have inRange := admitted.inRange fits
        have above := maxPosition_lt_maxWord
        omega
      simp only [sum_eq_none tooLarge, Buffer.write_beyond nothing beyond]
      rfl

theorem append_eq {payload : List Bytes} (words : payload.flatten.length ≤ maxWord) :
    append buffer payload = some (buffer.append payload) := by
  rw [append, total_flatten words]
  simp only [Option.bind_eq_bind, Option.bind_some, refusal?_saturated fits, Buffer.append]
  cases buffer.refusal? (buffer.size + payload.flatten.length) with
  | some error => rfl
  | none => simp only [List.length_append]; rfl

end

end SharedBytes.Checked
