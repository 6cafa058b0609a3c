import Mathlib.Data.List.GetD
import SharedBytes.Proofs.Scene

/-!
# The last writer wins

`Change.lastByte` reads a byte off the history of a content, without the content: of the changes
that are later than the last cut at or before the byte, the last that stored it decides. The main
statement is that every byte of a buffer is the last byte of its history, after any course.
-/

namespace SharedBytes

namespace Change

def byte? (i : Nat) : Change → Option UInt8
  | stored position bytes => if position ≤ i then bytes[i - position]? else none
  | cut _ => none

def cuts (i : Nat) : Change → Bool
  | stored _ _ => false
  | cut size => size ≤ i

/-- The byte that a history, oldest change first, leaves at an index. What was stored there last
counts, unless it was cut off since. An index at which nothing was stored since reads as zero if it
was ever cut off or lies past the initial content, and as in the initial content otherwise. -/
def lastByte (initial : Bytes) (history : List Change) (i : Nat) : UInt8 :=
  match (history.reverse.takeWhile fun change => !change.cuts i).findSome? (byte? i) with
  | some byte => byte
  | none => if history.any (cuts i) then 0 else initial.getD i 0

variable (initial : Bytes) (history : List Change) (position size i : Nat) (bytes : Bytes)

theorem lastByte_nil : lastByte initial [] i = initial.getD i 0 := by
  simp [lastByte]

theorem lastByte_stored :
    lastByte initial (history ++ [stored position bytes]) i =
      (byte? i (stored position bytes)).getD (lastByte initial history i) := by
  have uncut : cuts i (stored position bytes) = false := rfl
  cases covered : byte? i (stored position bytes) with
  | some byte => simp [lastByte, uncut, covered]
  | none => simp [lastByte, uncut, covered]

theorem lastByte_cut :
    lastByte initial (history ++ [cut size]) i =
      if size ≤ i then 0 else lastByte initial history i := by
  have uncovered : byte? i (cut size) = none := rfl
  by_cases gone : size ≤ i
  · have cutting : cuts i (cut size) = true := by simpa [cuts] using gone
    simp [lastByte, cutting, gone]
  · have sparing : cuts i (cut size) = false := by simpa [cuts] using gone
    simp [lastByte, sparing, uncovered, gone]

end Change

namespace Bytes

variable (content : Bytes) (position size i : Nat) (bytes : Bytes)

/-- Past its end a content counts as zeros, so that a gap is nothing special. -/
theorem getD_splice :
    (content.splice position bytes).getD i 0 =
      (Change.byte? i (.stored position bytes)).getD (content.getD i 0) := by
  simp only [List.getD_eq_getElem?_getD, getElem?_splice, Change.byte?]
  grind

theorem getD_append :
    (content ++ bytes).getD i 0 =
      (Change.byte? i (.stored content.length bytes)).getD (content.getD i 0) := by
  simp only [List.getD_eq_getElem?_getD, List.getElem?_append, Change.byte?]
  grind

theorem getD_take : (content.take size).getD i 0 = if size ≤ i then 0 else content.getD i 0 := by
  simp only [List.getD_eq_getElem?_getD, List.getElem?_take]
  grind

end Bytes

namespace Scene

/-- Each byte of a buffer is the last byte of its history, also past the end, where both are zero.
It has to hold past the end so that cut bytes stay away when the content grows again. -/
def Traceable (initial : Bytes) (buffer : Buffer) (history : List Change) : Prop :=
  ∀ i, buffer.bytes.getD i 0 = Change.lastByte initial history i

theorem traceable_lasting (initial : Bytes) : Lasting (Traceable initial) where
  write := by
    intro _ buffer history position payload before i
    rcases buffer.write_cases position payload with
      ⟨empty, written⟩ | ⟨_, _, written⟩ | ⟨_, _, error, _, written⟩
    · rw [written, Change.ofAnswer, Change.lastByte_stored, empty]
      simpa [Change.byte?] using before i
    · rw [written, Change.ofAnswer, Change.lastByte_stored, ← before i]
      exact Bytes.getD_splice buffer.bytes position i payload.flatten
    · rw [written, Change.ofAnswer, List.append_nil]
      exact before i
  append := by
    intro _ buffer history payload before i
    rcases buffer.append_cases payload with ⟨_, appended⟩ | ⟨error, _, appended⟩
    · rw [appended, Change.ofAnswer, Change.lastByte_stored, ← before i]
      exact Bytes.getD_append buffer.bytes i payload.flatten
    · rw [appended, Change.ofAnswer, List.append_nil]
      exact before i
  truncate := by
    intro buffer history size before i
    rw [Change.lastByte_cut, ← before i]
    exact Bytes.getD_take buffer.bytes size i
  holders := by
    intro buffer history holders before
    exact before

theorem course_last_writer_wins {ω : Type} {room : Scene ω → Memory} {start s : Scene ω}
    (fresh : start.history = []) (course : Course room start s) (i : Nat)
    (inside : i < s.buffer.bytes.length) :
    s.buffer.bytes[i] = Change.lastByte start.buffer.bytes s.history i := by
  have traceable : Traceable start.buffer.bytes s.buffer s.history := by
    apply course.keeps (traceable_lasting start.buffer.bytes)
    intro j
    rw [fresh, Change.lastByte_nil]
  have same := traceable i
  rwa [List.getD_eq_getElem _ _ inside] at same

def regrown : Scene Unit :=
  let store := (place fun _ => Memory.standard).store
  (store.write 3 [[9]] (store.truncate 1 (ofBuffer (.ofBytes [1, 2, 3]) ())).2).2

theorem regrown_last_writer_wins :
    Course (fun _ => Memory.standard) (ofBuffer (.ofBytes [1, 2, 3]) ()) regrown ∧
      regrown.history = [.cut 1, .stored 3 [9]] ∧
      ∃ inside : 1 < regrown.buffer.bytes.length,
        regrown.buffer.bytes[1] = Change.lastByte [1, 2, 3] regrown.history 1 := by
  have course : Course (fun _ => Memory.standard) (ofBuffer (.ofBytes [1, 2, 3]) ()) regrown :=
    .andThen (.truncate _ _) (.write _ _ _)
  exact ⟨course, by decide, by decide, course_last_writer_wins rfl course 1 (by decide)⟩

end Scene

end SharedBytes
