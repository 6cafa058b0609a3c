import SharedBytes.Proofs.Channel.Calls
import SharedBytes.Proofs.Text.Utf8
import SharedBytes.Proofs.Transfer.Relay
import SharedBytes.Walkthrough

/-!
# What a walk shows

The lines of an input up to the first that is blank or no text are entered, each without the blanks
at its ends. If that first line is blank, or if there is none, the walk shows how much was entered,
the front of it in quotes, all of it, and what it has held. If that line is no text, nothing is
shown but the prompt.

A walk is followed step by step on what is at hand: first the writer is at work, and then the
reader.
-/

namespace SharedBytes.Walkthrough

open Text Transfer

/-- To split an input at its line feeds gives its lines, and an empty one after a last line feed. -/
theorem splitOn_lines (input : Bytes) :
    ∃ after, input.splitOn 0x0a = splitLines input ++ after ∧ (after = [] ∨ after = [[]]) := by
  induction input with
  | nil => exact ⟨[[]], rfl, .inr rfl⟩
  | cons byte rest induction =>
    obtain ⟨after, split, empty⟩ := induction
    rw [List.splitOn_cons_eq_if_modifyHead, splitLines]
    by_cases feed : byte = 0x0a
    · simp only [feed, beq_self_eq_true, if_true, split]
      exact ⟨after, rfl, empty⟩
    · have other : (byte == 0x0a) = false := beq_false_of_ne feed
      simp only [other, Bool.false_eq_true, if_false, if_neg feed]
      have some := List.splitOn_ne_nil 0x0a rest
      rw [split] at some ⊢
      cases found : splitLines rest with
      | nil =>
        rw [found, List.nil_append] at some
        rcases empty with none | rfl
        · exact absurd none some
        · exact ⟨[], rfl, .inl rfl⟩
      | cons line lines => exact ⟨after, rfl, empty⟩

section

variable [Memory] {text : List Char} {line : Bytes} {lines : List Bytes}

theorem enter_blank (blank : trim text = []) : enter (Utf8.encode text :: lines) = pure () := by
  simp only [enter, Utf8.decode_encode, blank, if_true]

theorem enter_text (filled : trim text ≠ []) :
    enter (Utf8.encode text :: lines) = (do
      let _ ← onWriter fun store channel => channel.write store [Utf8.encode (trim text), [0x0a]]
      enter lines) := by
  simp only [enter, Utf8.decode_encode, if_neg filled]

theorem enter_broken (broken : ∀ text, line ≠ Utf8.encode text) :
    enter (line :: lines) = throw .notText := by
  have unread : Utf8.decode? line = none := by
    rw [Option.eq_none_iff_forall_ne_some]
    intro text read
    exact broken text ((Utf8.decode_eq_some_iff line text).mp read)
  simp only [enter, unread]

/-- By induction over the lines: an empty line at the end ends the entry like the end itself. -/
theorem enter_blank_end (lines : List Bytes) : enter (lines ++ [[]]) = enter lines := by
  induction lines with
  | nil =>
    have blank : trim [] = [] := rfl
    exact enter_blank blank
  | cons line lines induction =>
    rw [List.cons_append, enter, enter, induction]

theorem enter_splitOn (input : Bytes) : enter (splitLines input) = enter (input.splitOn 0x0a) := by
  obtain ⟨after, split, empty⟩ := splitOn_lines input
  rw [split]
  rcases empty with rfl | rfl
  · rw [List.append_nil]
  · rw [enter_blank_end]

end

variable {α β : Type} {desk next : Desk} {content shown : Bytes}

theorem bind_apply (step : WalkM α) (rest : α → WalkM β) (desk : Desk) :
    (step >>= rest) desk = ExceptT.bindCont rest (step desk).1 (step desk).2 := rfl

theorem bind_ok {step : WalkM α} {rest : α → WalkM β} {value : α}
    (done : step desk = (.ok value, next)) : (step >>= rest) desk = rest value next := by
  rw [bind_apply, done]
  rfl

theorem bind_error {step : WalkM α} {rest : α → WalkM β} {trouble : Trouble}
    (failed : step desk = (.error trouble, next)) :
    (step >>= rest) desk = (.error trouble, next) := by
  rw [bind_apply, failed]
  rfl

theorem get_apply : (get : WalkM Desk) desk = (.ok desk, desk) := rfl

def writing (content shown : Bytes) : Desk where
  buffer := { bytes := content, holders := 3 }
  writer := (Channel.opened { append := true }).moveTo content.length
  shown

def reading (content shown : Bytes) (cursor : Nat) : Desk where
  buffer := { bytes := content, holders := 2 }
  writer := { (Channel.opened { append := true }).moveTo content.length with isOpen := false }
  reader := (Channel.opened { read := true }).moveTo cursor
  shown

theorem say_writing (line : String) :
    say line (writing content shown) =
      (.ok (), writing content (shown ++ lineBytes line.toList)) := rfl

theorem say_reading (line : String) (cursor : Nat) :
    say line (reading content shown cursor) =
      (.ok (), reading content (shown ++ lineBytes line.toList) cursor) := rfl

variable [Memory]

theorem write_entry (entry : List Char)
    (room : (content ++ lineBytes entry).length ≤ Memory.capacity) :
    onWriter (fun store channel => channel.write store [Utf8.encode entry, [0x0a]])
        (writing content shown) =
      (.ok (lineBytes entry).length, writing (content ++ lineBytes entry) shown) := by
  have payload : [Utf8.encode entry, [0x0a]].flatten = lineBytes entry := by simp [lineBytes]
  rw [List.length_append] at room
  have admitted : (writing content shown).buffer.refusal?
      (content.length + (lineBytes entry).length) = none := by
    rw [Buffer.refusal?_eq_none_iff]
    exact ⟨nofun, .inr room⟩
  have stored : (place.store.append [Utf8.encode entry, [0x0a]]) (writing content shown) =
      (.ok ⟨(lineBytes entry).length, content.length + (lineBytes entry).length⟩,
        { writing content shown with
          buffer := { bytes := content ++ lineBytes entry, holders := 3 } }) := by
    simp only [Place.store, place, Place.ofPart, Buffer.append, payload]
    rw [show (writing content shown).buffer.size = content.length from rfl, admitted]
    rfl
  obtain ⟨result, channel, state⟩ := Channel.write_appending place.store
    (rfl : (writing content shown).writer.refusal? .writable [] = none) rfl
    [Utf8.encode entry, [0x0a]] (writing content shown)
  simp only [onWriter, result, channel, state, stored]
  simp only [writing, List.length_append]
  rfl

theorem cursor_writing :
    onWriter (fun _ channel => channel.cursor) (writing content shown) =
      (.ok content.length, writing content shown) := rfl

theorem close_writing :
    onWriter (fun store channel => channel.close store) (writing content shown) =
      (.ok (), reading content shown 0) := rfl

theorem size_reading (cursor : Nat) :
    onReader (fun store channel => channel.size store) (reading content shown cursor) =
      (.ok content.length, reading content shown cursor) := rfl

theorem close_reading (cursor : Nat) :
    onReader (fun store channel => channel.close store) (reading content shown cursor) =
      (.ok (), { reading content shown cursor with
        buffer := { bytes := content, holders := 1 }
        reader := { (Channel.opened { read := true }).moveTo cursor with isOpen := false } }) :=
  rfl

theorem lock_reading (cursor : Nat) (size : content.length ≤ maxPosition) :
    onReader (fun _ channel => channel.lock 0 content.length true)
        (reading content shown cursor) =
      (.ok { position := 0, size := content.length, shared := true },
        reading content shown cursor) := by
  have allowed : (reading content shown cursor).reader.refusal? .readable
      [("position", 0), ("size", content.length)] = none := by
    apply Channel.readable_allowed _ rfl rfl
    simpa using size
  simp only [onReader, Channel.lock, if_true, Channel.attempt, allowed]
  rfl

omit [Memory] in
theorem take_next (content : Bytes) (position remaining : Nat) :
    (content.drop position).take remaining = nextChunk content position remaining ++
      (content.drop (position + (nextChunk content position remaining).length)).take
        (remaining - (nextChunk content position remaining).length) := by
  have bounded := length_nextChunk_le content position remaining
  have chunk : (content.drop position).take (nextChunk content position remaining).length =
      nextChunk content position remaining := by
    rw [nextChunk, List.length_take, ← List.take_eq_take_min]
  calc (content.drop position).take remaining
      = (content.drop position).take ((nextChunk content position remaining).length +
          (remaining - (nextChunk content position remaining).length)) := by
        rw [Nat.add_sub_cancel' bounded]
    _ = _ := by rw [List.take_add, chunk, List.drop_drop]

/-- By induction over the bytes that are left: the screen takes every chunk whole. -/
theorem drain_screen (content shown : Bytes) (cursor moved remaining : Nat) :
    drain place screen 0 moved remaining (reading content shown cursor) =
      (.ok (moved + ((content.drop moved).take remaining).length),
        reading content (shown ++ (content.drop moved).take remaining) cursor) := by
  induction left : remaining using Nat.strongRecOn generalizing moved remaining shown with
  | ind left induction =>
    subst left
    rw [drain]
    have look : (place.look (reading content shown cursor)).bytes = content := rfl
    simp only [look, Nat.zero_add]
    by_cases exhausted : nextChunk content moved remaining = []
    · have nothing : (content.drop moved).take remaining = [] := by
        rw [nextChunk, List.take_eq_nil_iff, chunkSize] at exhausted
        rcases exhausted with none | ended
        · rw [show remaining = 0 by omega, List.take_zero]
        · rw [ended, List.take_nil]
      simp only [dif_pos exhausted, nothing, List.length_nil, Nat.add_zero, List.append_nil]
    · have some := List.length_pos_iff.mpr exhausted
      have bounded := length_nextChunk_le content moved remaining
      have offered : offer screen 0 (nextChunk content moved remaining)
          (reading content shown cursor) =
          (.complete, reading content (shown ++ nextChunk content moved remaining) cursor) :=
        offer_whole 0 exhausted rfl
      simp only [dif_neg exhausted, offered]
      rw [induction _ (by omega) _ _ _ rfl, take_next content moved remaining,
        List.length_append, Nat.add_assoc, List.append_assoc]

theorem copyOut_reading (cursor : Nat) (size : content.length ≤ maxPosition) :
    onReader (fun store channel => channel.copyOut store 0 content.length screen)
        (reading content shown cursor) =
      (.ok content.length, reading content (shown ++ content) cursor) := by
  have allowed : (reading content shown cursor).reader.refusal? .readable
      [("position", 0), ("count", content.length)] = none := by
    apply Channel.readable_allowed _ rfl rfl
    simpa using size
  have drained : place.store.copyOut 0 content.length screen (reading content shown cursor) =
      (.ok content.length, reading content (shown ++ content) cursor) := by
    have drained := drain_screen content shown cursor 0 content.length
    rwa [List.drop_zero, List.take_length, Nat.zero_add] at drained
  obtain ⟨result, channel, state⟩ := Channel.copyOut_allowed place.store allowed screen
    (reading content shown cursor)
  simp only [onReader, result, channel, state, drained]
  rfl

def front (content : Bytes) : Bytes :=
  if content = [] then []
  else
    let count := min 16 content.length
    lineBytes (s!"First {count} bytes: " ++ quoted (Utf8.decodeLossy (content.take 16))).toList

omit [Memory] in
theorem read_front (buffer : Buffer) (some : buffer.bytes ≠ []) :
    ∃ slices, buffer.read 0 [Bytes.zeros 16] = (.some (min 16 buffer.bytes.length), slices) ∧
      slices.flatten.take (min 16 buffer.bytes.length) = buffer.bytes.take 16 := by
  obtain ⟨-, filled, -, -⟩ := buffer.read_fills 0 [Bytes.zeros 16]
  have more : ¬ buffer.size ≤ 0 := by
    rw [Nat.le_zero, Buffer.size, List.length_eq_zero_iff]
    exact some
  have read : buffer.read 0 [Bytes.zeros 16] =
      (.some (min 16 buffer.bytes.length), Bytes.scatter buffer.bytes [Bytes.zeros 16]) := by
    rw [Buffer.read, if_neg more]
    rfl
  rw [read] at filled
  exact ⟨_, read, filled⟩

theorem showFirst_reading :
    showFirst (reading content shown 0) =
      (.ok (), reading content (shown ++ front content) (min 16 content.length)) := by
  by_cases empty : content = []
  · subst empty
    rw [front, if_pos rfl, List.append_nil]
    rfl
  · obtain ⟨slices, read, filled⟩ := read_front (reading content shown 0).buffer empty
    have answer : place.store.read 0 [Bytes.zeros 16] (reading content shown 0) =
        ((.ok (some (min 16 content.length)), slices), reading content shown 0) := by
      simp only [Place.store, place, Place.ofPart, read]
      rfl
    obtain ⟨result, left, channel, state⟩ := Channel.read_allowed place.store
      (rfl : (reading content shown 0).reader.refusal? .readable [] = none) [Bytes.zeros 16]
      (reading content shown 0)
    have position : (reading content shown 0).reader.position = 0 := rfl
    rw [position, answer] at result left channel state
    rw [front, if_neg empty]
    have moved : (reading content shown 0).reader.answered
        (Except.ok (some (min 16 content.length)) : Except StoreFailure (Option Nat))
        (fun count => 0 + count.getD 0) =
        (reading content shown (min 16 content.length)).reader := by
      rw [Channel.answered, Option.getD_some, Nat.zero_add]
      rfl
    have front : slices.flatten.take (min 16 content.length) = content.take 16 := filled
    simp only [showFirst, result, left, channel, state, moved]
    change say (s!"First {min 16 content.length} bytes: " ++
      quoted (Utf8.decodeLossy (slices.flatten.take (min 16 content.length))))
      (reading content shown (min 16 content.length)) = _
    rw [front, say_reading]

def line (text : String) : Bytes :=
  lineBytes text.toList

def prompt : Bytes :=
  line "Enter text (empty line to quit):"

def account (content : Bytes) : Bytes :=
  let size := content.length
  prompt ++ line s!"Writer at position {size}, store holds {size} bytes" ++ front content ++
    line "Everything, via transfer_to:" ++ content ++
    line s!"Holding LockToken(position=0, size={size}, shared=true, valid=true)" ++
    line "Reader closed, buffer still has 1 handle(s)"

/-- The characters that are entered: the texts without the blanks at their ends, each ended by a
line feed. -/
def entered (texts : List (List Char)) : List Char :=
  texts.flatMap fun text => trim text ++ ['\n']

/-- The lines of an input as far as they are texts that are not blank, and the lines after them. The
first of those, if there is one, is blank or no text. -/
structure Entry (input : Bytes) (texts : List (List Char)) (after : List Bytes) : Prop where
  split : input.splitOn 0x0a = texts.map Utf8.encode ++ after
  filled : ∀ text ∈ texts, trim text ≠ []
  stops : ∀ text, after.head? = some (Utf8.encode text) → trim text = []

omit [Memory] in
theorem encode_entered (text : List Char) (texts : List (List Char)) :
    Utf8.encode (entered (text :: texts)) =
      lineBytes (trim text) ++ Utf8.encode (entered texts) := by
  have feed : Utf8.encode ['\n'] = [0x0a] := by decide
  rw [entered, List.flatMap_cons, Utf8.encode_append, Utf8.encode_append, feed]
  rfl

/-- By induction over the texts: each is appended to what was entered before. -/
theorem enter_texts {texts : List (List Char)} (filled : ∀ text ∈ texts, trim text ≠ [])
    (after : List Bytes) (content : Bytes)
    (room : (content ++ Utf8.encode (entered texts)).length ≤ Memory.capacity) :
    enter (texts.map Utf8.encode ++ after) (writing content shown) =
      enter after (writing (content ++ Utf8.encode (entered texts)) shown) := by
  induction texts generalizing content with
  | nil =>
    have nothing : Utf8.encode (entered []) = [] := rfl
    rw [nothing, List.append_nil]
    rfl
  | cons text texts induction =>
    rw [encode_entered, ← List.append_assoc] at room ⊢
    have first : (content ++ lineBytes (trim text)).length ≤ Memory.capacity := by
      rw [List.length_append] at room
      omega
    rw [List.map_cons, List.cons_append, enter_text (filled text List.mem_cons_self),
      bind_ok (write_entry (trim text) first)]
    apply induction
    · intro later member
      exact filled later (List.mem_cons_of_mem text member)
    · exact room

omit [Memory] in
theorem inspect_held (size : Nat) :
    "Holding " ++ ({ position := 0, size, shared := true } : RangeLock).inspect =
      s!"Holding LockToken(position=0, size={size}, shared=true, valid=true)" := by
  have opening : "Holding " ++ ("LockToken(position=" ++ toString 0 ++ ", size=") =
      "Holding LockToken(position=0, size=" := by decide +kernel
  have closing : ", shared=" ++ toString true ++ ", valid=" ++ toString true ++ ")" =
      ", shared=true, valid=true)" := by decide +kernel
  change _ = "Holding LockToken(position=0, size=" ++ toString size ++ ", shared=true, valid=true)"
  unfold RangeLock.inspect
  rw [← opening, ← closing]
  -- The texts of numbers are long to compute, and nothing about them matters here.
  generalize toString 0 = zero
  generalize toString true = yes
  generalize toString size = size
  simp only [String.append_assoc]

omit [Memory] in
theorem closed_text : s!"Reader closed, buffer still has {1} handle(s)" =
    "Reader closed, buffer still has 1 handle(s)" := by
  decide

theorem walk_account {input content : Bytes} (size : content.length ≤ maxPosition)
    (entered : enter (splitLines input) (writing [] prompt) = (.ok (), writing content prompt)) :
    ∃ desk, walk input {} = (.ok (), desk) ∧ desk.shown = account content := by
  have start : say "Enter text (empty line to quit):" {} = (.ok (), writing [] prompt) := rfl
  refine ⟨{ reading content (account content) (min 16 content.length) with
    buffer := { bytes := content, holders := 1 }
    reader := { (Channel.opened { read := true }).moveTo (min 16 content.length) with
      isOpen := false } }, ?_, rfl⟩
  rw [walk, bind_ok start, bind_ok entered, bind_ok cursor_writing,
    bind_ok get_apply,
    bind_ok (say_writing _), bind_ok close_writing, bind_ok showFirst_reading,
    bind_ok (say_reading _ _), bind_ok (size_reading _), bind_ok (copyOut_reading _ size),
    bind_ok (lock_reading _ size), bind_ok (say_reading _ _), bind_ok (close_reading _),
    bind_ok get_apply]
  have held := inspect_held content.length
  unfold account line
  rw [closed_text, held]
  rfl

omit [Memory] in
/-- By induction over the lines, up to the first that is blank or no text. -/
theorem exists_entry (input : Bytes) : ∃ texts after, Entry input texts after := by
  have cut (lines : List Bytes) : ∃ (texts : List (List Char)) (after : List Bytes),
      lines = texts.map Utf8.encode ++ after ∧ (∀ text ∈ texts, trim text ≠ []) ∧
      ∀ text, after.head? = some (Utf8.encode text) → trim text = [] := by
    induction lines with
    | nil => exact ⟨[], [], rfl, nofun, nofun⟩
    | cons line lines induction =>
      by_cases readable : ∃ text, line = Utf8.encode text
      · obtain ⟨text, rfl⟩ := readable
        by_cases blank : trim text = []
        · refine ⟨[], Utf8.encode text :: lines, rfl, nofun, ?_⟩
          intro other same
          rwa [← Utf8.encode_injective (Option.some.inj same)]
        · obtain ⟨texts, after, rfl, filled, stops⟩ := induction
          refine ⟨text :: texts, after, rfl, ?_, stops⟩
          rw [List.forall_mem_cons]
          exact ⟨blank, filled⟩
      · refine ⟨[], line :: lines, rfl, nofun, ?_⟩
        intro text same
        exact absurd ⟨text, Option.some.inj same⟩ readable
  obtain ⟨texts, after, split, filled, stops⟩ := cut (input.splitOn 0x0a)
  exact ⟨texts, after, split, filled, stops⟩

section

variable {input : Bytes} {texts : List (List Char)} {after : List Bytes}
  (entry : Entry input texts after)
  (room : (Utf8.encode (entered texts)).length ≤ Memory.capacity)

include entry room

theorem Entry.enters :
    enter (splitLines input) (writing [] shown) =
      enter after (writing (Utf8.encode (entered texts)) shown) := by
  rw [enter_splitOn, entry.split]
  exact enter_texts entry.filled after [] room

/-- If the lines end with a blank one or at the end of the input, all is shown. -/
theorem Entry.run_whole (readable : ∀ line ∈ after.head?, ∃ text, line = Utf8.encode text) :
    run input =
      { code := 0, shown := account (Utf8.encode (entered texts)), complaint := "" } := by
  have ended : enter after = pure () := by
    cases after with
    | nil => rfl
    | cons line lines =>
      obtain ⟨text, rfl⟩ := readable line rfl
      exact enter_blank (entry.stops text rfl)
  have size : (Utf8.encode (entered texts)).length ≤ maxPosition :=
    Nat.le_trans room Memory.capacity_le
  have done : enter (splitLines input) (writing [] prompt) =
      (.ok (), writing (Utf8.encode (entered texts)) prompt) := by
    rw [entry.enters room, ended]
    rfl
  obtain ⟨desk, walked, shown⟩ := walk_account size done
  have outcome : (walk input).run.run {} = (.ok (), desk) := walked
  rw [run, outcome, ← shown]

/-- If the lines end with one that is no text, the walk ends there, and only the prompt is shown. -/
theorem Entry.run_broken (broken : ∃ line ∈ after.head?, ∀ text, line ≠ Utf8.encode text) :
    run input = { code := 1, shown := prompt, complaint := Trouble.notText.message } := by
  obtain ⟨line, first, unread⟩ := broken
  obtain ⟨lines, rfl⟩ := List.head?_eq_some_iff.mp first
  have failed : enter (splitLines input) (writing [] prompt) =
      (.error .notText, writing (Utf8.encode (entered texts)) prompt) := by
    rw [entry.enters room, enter_broken unread]
    rfl
  have start : say "Enter text (empty line to quit):" {} = (.ok (), writing [] prompt) := rfl
  have outcome : (walk input).run.run {} =
      (.error .notText, writing (Utf8.encode (entered texts)) prompt) := by
    change walk input {} = _
    rw [walk, bind_ok start, bind_error failed]
  rw [run, outcome]
  rfl

end

/-- Every input has its lines up to the first that is blank or no text. As long as memory has room
for what is entered, a walk shows just that if the line after is blank or missing, and ends with the
prompt if it is no text. The front of it that stands in quotes is what whole characters lie in it,
and the replacement character for one that does not. -/
theorem run_shows_entered :
    (∀ input, ∃ texts after, Entry input texts after) ∧
    ∀ {input texts after}, Entry input texts after →
      (Utf8.encode (entered texts)).length ≤ Memory.capacity →
      ((∀ line ∈ after.head?, ∃ text, line = Utf8.encode text) →
        run input =
          { code := 0, shown := account (Utf8.encode (entered texts)), complaint := "" }) ∧
      ((∃ line ∈ after.head?, ∀ text, line ≠ Utf8.encode text) →
        run input = { code := 1, shown := prompt, complaint := Trouble.notText.message }) ∧
      Utf8.decodeLossy ((Utf8.encode (entered texts)).take 16) =
        Utf8.clip 16 (entered texts) := by
  constructor
  · exact exists_entry
  · intro input texts after entry room
    exact ⟨entry.run_whole room, entry.run_broken room, Utf8.decodeLossy_take 16 (entered texts)⟩

/-- A letter of two bytes stands at the place where the front breaks off. The bytes after the blank
line do not matter. -/
def letter : Bytes :=
  Utf8.encode " abcdefghijklmnoé\r\nxy\t\n \n".toList ++ [0xff]

omit [Memory] in
theorem letter_shown :
    @run .standard letter =
        { code := 0, shown := account (Utf8.encode "abcdefghijklmnoé\nxy\n".toList),
          complaint := "" } ∧
      front (Utf8.encode "abcdefghijklmnoé\nxy\n".toList) =
        line "First 16 bytes: \"abcdefghijklmno\ufffd\"" ∧
      @run .standard ([0x61, 0x0a] ++ [0xff]) =
        { code := 1, shown := prompt, complaint := Trouble.notText.message } := by
  have entry : Entry letter [" abcdefghijklmnoé\r".toList, "xy\t".toList]
      [Utf8.encode [' '], [0xff]] := by
    constructor
    · decide +kernel
    · decide +kernel
    · intro text same
      rw [← Utf8.encode_injective (Option.some.inj same)]
      decide +kernel
  have unread (text : List Char) : [0xff] ≠ Utf8.encode text := by
    intro same
    have read := (Utf8.decode_eq_some_iff [0xff] text).mpr same
    have broken : Utf8.decode? [0xff] = none := by decide +kernel
    rw [broken] at read
    cases read
  have torn : Entry [0x61, 0x0a, 0xff] [['a']] [[0xff]] := by
    constructor
    · decide +kernel
    · decide +kernel
    · intro text same
      exact absurd (Option.some.inj same) (unread text)
  obtain ⟨-, walks⟩ := @run_shows_entered .standard
  obtain ⟨shown, -, -⟩ := walks entry (by decide +kernel)
  obtain ⟨-, stopped, -⟩ := walks torn (by decide +kernel)
  refine ⟨?_, by decide +kernel, stopped ⟨[0xff], rfl, unread⟩⟩
  have whole := shown fun line first => ⟨[' '], (Option.some.inj first).symm⟩
  exact whole

end SharedBytes.Walkthrough
