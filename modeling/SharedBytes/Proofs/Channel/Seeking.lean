import Mathlib.Algebra.Ring.Int.Defs
import SharedBytes.Proofs.Channel.Calls
import SharedBytes.Proofs.Channel.Runs
import SharedBytes.Store.Probe

/-!
# Seeking

A target stands for an exact number: an offset from the start, or a distance from the cursor or from
the end of the store, forwards or backwards. If a position has that number, the cursor moves to it;
if not, the failure names the number in full and the cursor stays. Distances from the cursor add up.
Whatever words of 64 bits are given, the number fits in 128 bits with a sign, so that nothing is lost
by computing it in words.

To seek an offset from the start is to set the position, as long as the channel is open. Setting
checks the offset before anything else, like all other calls; a seek looks at the channel first.
-/

namespace SharedBytes

/-- A target in words of 64 bits: an offset has no sign, a distance has one. -/
inductive SeekWord where
  | start (offset : UInt64)
  | current (delta : Int64)
  | ending (delta : Int64)
deriving DecidableEq

namespace SeekWord

def target : SeekWord → SeekTarget
  | start offset => .start offset.toNat
  | current delta => .current delta.toInt
  | ending delta => .ending delta.toInt

def exact (cursor size : UInt64) : SeekWord → Int
  | start offset => offset.toNat
  | current delta => cursor.toNat + delta.toInt
  | ending delta => size.toNat + delta.toInt

def wide (cursor size : UInt64) : SeekWord → BitVec 128
  | start offset => offset.toBitVec.setWidth 128
  | current delta => cursor.toBitVec.setWidth 128 + delta.toBitVec.signExtend 128
  | ending delta => size.toBitVec.setWidth 128 + delta.toBitVec.signExtend 128

theorem toInt_widened (word : UInt64) : (word.toBitVec.setWidth 128).toInt = word.toNat := by
  have bound := word.toNat_lt
  rw [BitVec.toInt_setWidth, UInt64.toNat_toBitVec]
  exact Int.bmod_eq_of_le (by omega) (by omega)

theorem toInt_widened_add (word : UInt64) (delta : Int64) :
    (word.toBitVec.setWidth 128 + delta.toBitVec.signExtend 128).toInt =
      word.toNat + delta.toInt := by
  have bound := word.toNat_lt
  have lower := delta.le_toInt
  have upper := delta.toInt_lt
  rw [BitVec.toInt_add, toInt_widened, BitVec.toInt_signExtend_of_le (by decide),
    Int64.toInt_toBitVec]
  exact Int.bmod_eq_of_le (by omega) (by omega)

theorem toInt_wide (cursor size : UInt64) (word : SeekWord) :
    (word.wide cursor size).toInt = word.exact cursor size := by
  cases word with
  | start offset => exact toInt_widened offset
  | current delta => exact toInt_widened_add cursor delta
  | ending delta => exact toInt_widened_add size delta

end SeekWord

namespace Channel

variable {σ : Type} {store : Store σ} {channel : Channel} {s : σ}

theorem seek_within (isOpen : channel.isOpen = true) {target : SeekTarget} {position : Nat}
    (leads : (channel.resolve store target s).1 = position) (within : position ≤ maxPosition) :
    channel.seek store target s =
      { result := .ok position, channel := channel.moveTo position,
        state := (channel.resolve store target s).2 } := by
  have inRange : (0 : Int) ≤ position ∧ (position : Int) ≤ maxPosition := by omega
  simp only [seek, attempt, channel.justOpen_allowed isOpen, leads, if_pos inRange,
    Int.toNat_natCast]

theorem seek_beyond (isOpen : channel.isOpen = true) {target : SeekTarget}
    (beyond : ¬ (0 ≤ (channel.resolve store target s).1 ∧
      (channel.resolve store target s).1 ≤ maxPosition)) :
    channel.seek store target s =
      { result := .error (.invalidArgument "position" (channel.resolve store target s).1), channel,
        state := (channel.resolve store target s).2 } := by
  simp only [seek, attempt, channel.justOpen_allowed isOpen, if_neg beyond]

theorem seek_closed (closed : channel.isOpen = false) (target : SeekTarget) :
    channel.seek store target s = { result := .error .notOpen, channel, state := s } := by
  simp [seek, attempt, refusal?, closed]

theorem seek_here (isOpen : channel.isOpen = true) (inRange : channel.position ≤ maxPosition)
    (store : Store σ) (s : σ) :
    channel.seek store (.current 0) s =
      { result := .ok channel.position, channel, state := s } :=
  seek_within isOpen (Int.add_zero _) inRange

theorem seek_back {position : Nat} (isOpen : channel.isOpen = true)
    (inRange : position ≤ maxPosition) (store : Store σ) (s : σ) :
    channel.seek store (.start position) s =
      { result := .ok position, channel := channel.moveTo position, state := s } :=
  seek_within isOpen rfl inRange

theorem setPosition_back {position : Nat} (isOpen : channel.isOpen = true)
    (inRange : position ≤ maxPosition) (s : σ) :
    channel.setPosition position s =
      { result := .ok (), channel := channel.moveTo position, state := s } := by
  simp [setPosition, attempt, refusal?, missing?, isOpen, Nat.not_lt_of_le inRange]

theorem setPosition_tooLarge {position : Nat} (tooLarge : maxPosition < position) (s : σ) :
    channel.setPosition position s =
      { result := .error (.invalidArgument "new_position" position), channel, state := s } := by
  simp [setPosition, attempt, refusal?, tooLarge]

theorem setPosition_closed {position : Nat} (closed : channel.isOpen = false)
    (inRange : position ≤ maxPosition) (s : σ) :
    channel.setPosition position s = { result := .error .notOpen, channel, state := s } := by
  simp [setPosition, attempt, refusal?, closed, Nat.not_lt_of_le inRange]

theorem seek_current_ok (isOpen : channel.isOpen = true) {delta : Int} {answer : Nat}
    (succeeded : (channel.seek store (.current delta) s).result = .ok answer) :
    (answer : Int) = channel.position + delta ∧ answer ≤ maxPosition ∧
      channel.seek store (.current delta) s =
        { result := .ok answer, channel := channel.moveTo answer, state := s } := by
  by_cases inRange : (0 : Int) ≤ channel.position + delta ∧ channel.position + delta ≤ maxPosition
  · obtain ⟨position, leads⟩ := Int.eq_ofNat_of_zero_le inRange.1
    have within : position ≤ maxPosition := by omega
    have sought : channel.seek store (.current delta) s =
        { result := .ok position, channel := channel.moveTo position, state := s } :=
      seek_within isOpen leads within
    rw [sought] at succeeded
    cases succeeded
    exact ⟨leads.symm, within, sought⟩
  · have sought : channel.seek store (.current delta) s = _ := seek_beyond isOpen inRange
    rw [sought] at succeeded
    cases succeeded

def seekCalls (deltas : List Int) : List (Call σ) :=
  deltas.map fun delta => .request (.seek (.current delta))

/-- The cursor moves by the sum of the distances, and the last seek answers where it has come to. -/
theorem run_seekCalls (isOpen : channel.isOpen = true) {deltas : List Int}
    (completes : channel.Completes store s (seekCalls deltas)) :
    ∃ position : Nat, (position : Int) = channel.position + deltas.sum ∧
      channel.run store s (seekCalls deltas) = (channel.moveTo position, s) ∧
      (deltas ≠ [] → position ≤ maxPosition ∧
        (channel.answers store s (seekCalls deltas)).getLast? = some (.ok (.number position))) := by
  induction deltas generalizing channel with
  | nil => exact ⟨channel.position, by simp, rfl, nofun⟩
  | cons delta deltas induction =>
    obtain ⟨first, rest⟩ := (completes_cons channel s _ _).mp completes
    obtain ⟨answer, succeeded⟩ := (Reply.answering_ok_iff _ _).mp first
    obtain ⟨here, within, sought⟩ := seek_current_ok isOpen succeeded
    have after : channel.perform store s (.request (.seek (.current delta))) =
        { result := .ok (.number answer), channel := channel.moveTo answer, state := s } := by
      rw [perform, serve, sought]
      rfl
    rw [after] at rest
    obtain ⟨position, there, ran, last⟩ := @induction (channel.moveTo answer) isOpen rest
    refine ⟨position, ?_, ?_, fun _ => ?_⟩
    · rw [there, moveTo_position, here, List.sum_cons, Int.add_assoc]
    · rw [seekCalls, List.map_cons, run, after]
      exact ran
    · rw [seekCalls, List.map_cons, answers, after, List.getLast?_cons]
      cases deltas with
      | nil =>
        have only : position = answer := Int.ofNat_inj.mp (by simpa using there)
        rw [only]
        exact ⟨within, rfl⟩
      | cons next deltas =>
        obtain ⟨inRange, answered⟩ := last (List.cons_ne_nil _ _)
        rw [seekCalls, List.map_cons] at answered
        exact ⟨inRange, by rw [List.map_cons, answered]; rfl⟩

/-- Where a seek leads, in full; and seeks from the cursor come to one seek by their sum. -/
theorem seek_exact (store : Store σ) {channel : Channel} (isOpen : channel.isOpen = true) (s : σ)
    {cursor size : UInt64} (held : channel.position = cursor.toNat)
    (sized : (store.size s).1 = size.toNat) (word : SeekWord) :
    let exact := word.exact cursor size
    let reply := channel.seek store word.target s
    let after := match word with
      | .ending _ => (store.size s).2
      | .start _ | .current _ => s
    (0 ≤ exact ∧ exact ≤ maxPosition ↔
        ∃ position : Nat, (position : Int) = exact ∧
          reply = { result := .ok position, channel := channel.moveTo position, state := after }) ∧
      (¬ (0 ≤ exact ∧ exact ≤ maxPosition) →
        reply = { result := .error (.invalidArgument "position" exact), channel,
                  state := after }) ∧
      (word.wide cursor size).toInt = exact ∧
      ∀ (deltas : List Int64) (sum : Int64), deltas ≠ [] →
        (deltas.map Int64.toInt).sum = sum.toInt →
        let calls := seekCalls (deltas.map Int64.toInt)
        channel.Completes store s calls →
          ∃ position : Nat,
            channel.seek store (.current sum.toInt) s =
                { result := .ok position, channel := channel.moveTo position, state := s } ∧
              channel.run store s calls = (channel.moveTo position, s) ∧
              (channel.answers store s calls).getLast? = some (.ok (.number position)) := by
  intro exact reply after
  have leads : channel.resolve store word.target s = (exact, after) := by
    cases word with
    | start offset => rfl
    | current delta => simp only [SeekWord.target, resolve, held]; rfl
    | ending delta => simp only [SeekWord.target, resolve, sized]; rfl
  have beyond : ¬ (0 ≤ exact ∧ exact ≤ maxPosition) →
      reply = { result := .error (.invalidArgument "position" exact), channel, state := after } := by
    intro outside
    have refused : channel.seek store word.target s = _ :=
      seek_beyond isOpen (by rw [leads]; exact outside)
    rw [leads] at refused
    exact refused
  refine ⟨⟨?_, ?_⟩, beyond, word.toInt_wide cursor size, ?_⟩
  · intro inRange
    obtain ⟨position, here⟩ := Int.eq_ofNat_of_zero_le inRange.1
    refine ⟨position, here.symm, ?_⟩
    have sought := seek_within isOpen (by rw [leads, here]) (show position ≤ maxPosition by omega)
    rw [leads] at sought
    exact sought
  · rintro ⟨position, _, sought⟩
    by_cases inRange : 0 ≤ exact ∧ exact ≤ maxPosition
    · exact inRange
    · have results := congrArg Reply.result (sought.symm.trans (beyond inRange))
      cases results
  · intro deltas sum some total calls completes
    obtain ⟨position, there, ran, last⟩ := run_seekCalls isOpen completes
    obtain ⟨within, answered⟩ := last (by simpa using some)
    rw [total] at there
    exact ⟨position, seek_within isOpen there.symm within, ran, answered⟩

/-- With the cursor and the size at the end of all words, the longest way back leads to the largest
position, and a byte less leads past it. -/
theorem longest_seek_exact :
    let store := (@Place.ofPart Buffer .standard id fun buffer _ => buffer).store.replying
      { size := some maxWord }
    let channel : Channel := { capabilities := {}, position := maxWord }
    let less : Int64 := Int64.minValue + 1
    let deltas : List Int64 := [Int64.minValue, -7, 7]
    channel.seek store (.ending Int64.minValue.toInt) .empty =
        { result := .ok maxPosition, channel := channel.moveTo maxPosition, state := .empty } ∧
      (channel.seek store (.current less.toInt) .empty).result =
        .error (.invalidArgument "position" (maxPosition + 1 : Nat)) ∧
      channel.run store .empty (seekCalls (deltas.map Int64.toInt)) =
        (channel.moveTo maxPosition, .empty) := by
  intro store channel less deltas
  have held : channel.position = (0xffffffffffffffff : UInt64).toNat := rfl
  have sized : (store.size .empty).1 = (0xffffffffffffffff : UInt64).toNat := rfl
  obtain ⟨within, _, _, chains⟩ := @seek_exact _ store channel rfl .empty _ _ held sized
    (.ending Int64.minValue)
  obtain ⟨_, beyond, _, _⟩ := @seek_exact _ store channel rfl .empty _ _ held sized (.current less)
  refine ⟨?_, ?_, ?_⟩
  · have number : (SeekWord.ending Int64.minValue).exact 0xffffffffffffffff 0xffffffffffffffff =
        (maxPosition : Nat) := by
      decide
    obtain ⟨position, here, sought⟩ := within.mp (by decide)
    rw [number, Int.ofNat_inj] at here
    rw [here] at sought
    exact sought
  · have number : (SeekWord.current less).exact 0xffffffffffffffff 0xffffffffffffffff =
        (maxPosition + 1 : Nat) := by
      decide
    have refused := beyond (by decide)
    rw [number] at refused
    exact congrArg Reply.result refused
  · have answered : channel.answers store .empty (seekCalls (deltas.map Int64.toInt)) =
        [.ok (.number maxPosition), .ok (.number (maxPosition - 7)), .ok (.number maxPosition)] := by
      decide +kernel
    have completes : channel.Completes store .empty (seekCalls (deltas.map Int64.toInt)) := by
      rw [Completes, answered]
      simp
    obtain ⟨position, _, ran, last⟩ := chains deltas Int64.minValue (List.cons_ne_nil _ _)
      (by decide) completes
    rw [answered] at last
    cases last
    exact ran

/-- Two failures of one kind, which may call the offset by different names. -/
inductive SameRefusal (offset : Nat) : ChannelFailure → ChannelFailure → Prop
  | argument (name other : String) :
    SameRefusal offset (.invalidArgument name offset) (.invalidArgument other offset)
  | closed : SameRefusal offset .notOpen .notOpen

/-- A seek of an offset from the start, and the position set to it: both succeed and leave the same,
or both fail in the same way and leave everything as it was. -/
structure MovesAlike (channel : Channel) (s : σ) (offset : Nat)
    (seeking : Reply σ (Except ChannelFailure Nat))
    (setting : Reply σ (Except ChannelFailure Unit)) : Prop where
  succeeds : (∃ position, seeking.result = .ok position) ↔ setting.result = .ok ()
  moved : setting.result = .ok () →
    seeking.channel = setting.channel ∧ seeking.state = setting.state
  refused : ∀ failure other, seeking.result = .error failure → setting.result = .error other →
    SameRefusal offset failure other
  stays : ∀ failure, seeking.result = .error failure → seeking.channel = channel ∧ seeking.state = s
  keeps : ∀ failure, setting.result = .error failure → setting.channel = channel ∧ setting.state = s

theorem MovesAlike.of_successes {offset position : Nat} {after : Channel} {t : σ} :
    MovesAlike channel s offset { result := .ok position, channel := after, state := t }
      { result := .ok (), channel := after, state := t } where
  succeeds := iff_of_true ⟨position, rfl⟩ rfl
  moved _ := ⟨rfl, rfl⟩
  refused := by rintro _ _ ⟨⟩
  stays := by rintro _ ⟨⟩
  keeps := by rintro _ ⟨⟩

theorem MovesAlike.of_failures {offset : Nat} {failure other : ChannelFailure}
    (same : SameRefusal offset failure other) :
    MovesAlike channel s offset { result := .error failure, channel, state := s }
      { result := .error other, channel, state := s } where
  succeeds := iff_of_false nofun nofun
  moved := nofun
  refused := by
    rintro _ _ ⟨⟩ ⟨⟩
    exact same
  stays _ _ := ⟨rfl, rfl⟩
  keeps _ _ := ⟨rfl, rfl⟩

/-- On an open channel, and for an offset in range, to seek it from the start is to set the position.
On a closed channel an offset out of range is refused twice over, and each names another reason. -/
theorem moves_alike_iff (store : Store σ) (channel : Channel) (s : σ) (offset : Nat) :
    let seeking := channel.seek store (.start offset) s
    let setting := channel.setPosition offset s
    (MovesAlike channel s offset seeking setting ↔
        channel.isOpen = true ∨ offset ≤ maxPosition) ∧
      (channel.isOpen = false → maxPosition < offset →
        seeking = { result := .error .notOpen, channel, state := s } ∧
          setting = { result := .error (.invalidArgument "new_position" offset), channel,
                      state := s }) := by
  intro seeking setting
  have apart : channel.isOpen = false → maxPosition < offset →
      seeking = { result := .error .notOpen, channel, state := s } ∧
        setting = { result := .error (.invalidArgument "new_position" offset), channel,
                    state := s } :=
    fun closed tooLarge => ⟨seek_closed closed _, setPosition_tooLarge tooLarge s⟩
  refine ⟨⟨?_, ?_⟩, apart⟩
  · intro alike
    by_cases isOpen : channel.isOpen = true
    · exact .inl isOpen
    · right
      by_cases inRange : offset ≤ maxPosition
      · exact inRange
      · obtain ⟨sought, set⟩ :=
          apart (by simpa using isOpen) (Nat.lt_of_not_le inRange)
        have same := alike.refused .notOpen _ (congrArg Reply.result sought)
          (congrArg Reply.result set)
        cases same
  · intro either
    by_cases inRange : offset ≤ maxPosition
    · cases isOpen : channel.isOpen with
      | true =>
        have sought : seeking = _ := seek_back isOpen inRange store s
        have set : setting = _ := setPosition_back isOpen inRange s
        rw [sought, set]
        exact .of_successes
      | false =>
        have sought : seeking = _ := seek_closed isOpen (.start offset)
        have set : setting = _ := setPosition_closed isOpen inRange s
        rw [sought, set]
        exact .of_failures .closed
    · have isOpen := either.resolve_right inRange
      have sought : seeking = _ := seek_beyond isOpen fun within => inRange (Int.ofNat_le.mp within.2)
      have set : setting = _ := setPosition_tooLarge (Nat.lt_of_not_le inRange) s
      rw [sought, set]
      exact .of_failures (.argument _ _)

theorem closed_not_moves_alike :
    let store := (@Place.ofPart Buffer .standard id fun buffer _ => buffer).store
    let channel : Channel := { capabilities := { read := true }, isOpen := false }
    let seeking := channel.seek store (.start (maxPosition + 1)) .empty
    let setting := channel.setPosition (maxPosition + 1) Buffer.empty
    seeking.result = .error .notOpen ∧
      setting.result = .error (.invalidArgument "new_position" (maxPosition + 1 : Nat)) ∧
      ¬ MovesAlike channel .empty (maxPosition + 1) seeking setting := by
  intro store channel seeking setting
  have sought : seeking.result = .error .notOpen := rfl
  have set : setting.result =
      .error (.invalidArgument "new_position" (maxPosition + 1 : Nat)) := rfl
  refine ⟨sought, set, ?_⟩
  intro alike
  have same := alike.refused _ _ sought set
  cases same

end Channel

end SharedBytes
