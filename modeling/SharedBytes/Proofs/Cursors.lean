import SharedBytes.Proofs.Channel.Cursors
import SharedBytes.Proofs.Channel.Seeking
import SharedBytes.Proofs.Limit

/-!
# The cursors of a buffer's channels

Memory never holds a content longer than the largest position. A read or a write at the cursor ends
inside the content if it moves anything, and an append ends at the end of it, so no cursor of a
channel ever passes the largest position, whatever becomes of the content afterwards. That is what
makes a saved cursor good for later: nothing but closing the channel keeps it from being restored.

The scene is any one buffer. Other buffers and their channels are in its world, as the peers of
transfers are.
-/

namespace SharedBytes

namespace Buffer

variable {buffer : Buffer} {stop position : Nat}

theorem accepted_inRange [Memory] (fits : buffer.size ≤ maxPosition)
    (accepted : buffer.refusal? stop = none) : stop ≤ maxPosition := by
  rcases ((buffer.refusal?_eq_none_iff stop).mp accepted).2 with inside | roomy
  · exact Nat.le_trans inside fits
  · exact Nat.le_trans roomy Memory.capacity_le

theorem read_inRange (fits : buffer.size ≤ maxPosition) (slices : List Bytes) :
    Exchange.InRange (.read position slices (.ok (buffer.read position slices).1)) := by
  intro inRange
  rw [read]
  by_cases ended : buffer.size ≤ position
  · rw [if_pos ended]
    exact inRange
  · rw [if_neg ended]
    have short : min slices.flatten.length (buffer.size - position) ≤ buffer.size - position :=
      Nat.min_le_right _ _
    simp only [Option.getD_some]
    omega

theorem write_inRange [Memory] (fits : buffer.size ≤ maxPosition) (payload : List Bytes) :
    Exchange.InRange (.write position payload (buffer.write position payload).1) := by
  rcases buffer.write_cases position payload with
    ⟨_, written⟩ | ⟨_, accepted, written⟩ | ⟨_, _, error, _, written⟩
  · rw [written]
    exact id
  · rw [written]
    intro _
    rcases accepted with inside | accepted
    · exact Nat.le_trans inside fits
    · exact accepted_inRange fits accepted
  · rw [written]
    trivial

theorem append_inRange [Memory] (fits : buffer.size ≤ maxPosition) (payload : List Bytes) :
    Exchange.InRange (.append payload (buffer.append payload).1) := by
  rcases buffer.append_cases payload with ⟨accepted, appended⟩ | ⟨error, _, appended⟩
  · rw [appended]
    exact accepted_inRange fits accepted
  · rw [appended]
    trivial

end Buffer

namespace Place

open Transfer

variable {σ : Type} {kept : σ → Prop} {place : Place σ}

/-- The size that a transfer to the end reports is that of its last append, or that of the buffer if
there was none. -/
theorem copyInAtEnd_inRange (work : place.Keeps kept)
    (fits : ∀ s, kept s → (place.look s).size ≤ maxPosition)
    (appends : ∀ payload s, kept s → Exchange.InRange (.append payload (place.append payload s).1))
    {source : Source σ} (peer : source.Keeps kept) (count : Nat) (s : σ) (before : kept s) :
    Exchange.InRange (.copyInAtEnd count (place.copyInAtEnd source count s).1) := by
  have appended (moved : Nat) (bytes s) (held : kept s) : kept (place.append [bytes] s).2 ∧
      ∀ receipt, (place.append [bytes] s).1 = .ok receipt → receipt.size ≤ maxPosition := by
    refine ⟨work.append [bytes] s held, ?_⟩
    intro receipt answered
    have inRange := appends [bytes] s held
    rwa [answered] at inRange
  obtain ⟨after, last⟩ := pump_answers peer appended count (freshChunk count) 0 none s before nofun
  rw [copyInAtEnd]
  rcases pumped : pump source (fun _ bytes => place.append [bytes]) count (freshChunk count) 0 none
    s with ⟨⟨moved, receipt⟩ | _ | _, next⟩
  · rw [pumped] at after last
    cases receipt with
    | none => exact fits next after
    | some receipt => exact last moved receipt rfl
  · trivial
  · trivial

theorem store_inRange (work : place.Keeps kept)
    (fits : ∀ s, kept s → (place.look s).size ≤ maxPosition)
    (writes : ∀ position payload s, kept s →
      Exchange.InRange (.write position payload (place.write position payload s).1))
    (appends : ∀ payload s, kept s →
      Exchange.InRange (.append payload (place.append payload s).1)) :
    place.store.Answers kept Exchange.InRange where
  size _ _ := trivial
  read _ slices s before := Buffer.read_inRange (fits s before) slices
  write := writes
  append := appends
  truncate _ _ _ := trivial
  copyOut _ _ _ _ _ _ := trivial
  copyIn _ _ _ _ _ _ := trivial
  copyInAtEnd _ count s peer before := copyInAtEnd_inRange work fits appends peer count s before

end Place

namespace Scene

variable {ω : Type} {room : Scene ω → Memory} {s : Scene ω}

structure InRange (s : Scene ω) : Prop where
  fits : s.buffer.size ≤ maxPosition
  positions : ∀ channel ∈ s.channels, channel.position ≤ maxPosition

theorem fits_lasting : Lasting fun buffer _ => buffer.size ≤ maxPosition where
  write _ _ position payload fits :=
    Buffer.write_size_le fits (fun _ => Buffer.accepted_inRange fits) position payload
  append _ _ payload fits :=
    Buffer.append_size_le fits (fun _ => Buffer.accepted_inRange fits) payload
  truncate _ _ size fits := Buffer.truncate_size_le fits size
  holders _ _ _ fits := fits

theorem place_inRange : (place room).Keeps InRange where
  write position payload s before :=
    ⟨(place_keeps fits_lasting).write position payload s before.fits, before.positions⟩
  append payload s before :=
    ⟨(place_keeps fits_lasting).append payload s before.fits, before.positions⟩
  truncate size s before :=
    ⟨(place_keeps fits_lasting).truncate size s before.fits, before.positions⟩
  release _ before := ⟨before.fits, before.positions⟩

theorem store_inRange : (place room).store.Answers InRange Exchange.InRange :=
  Place.store_inRange place_inRange (fun _ before => before.fits)
    (fun _ payload s before => @Buffer.write_inRange _ _ (room s) before.fits payload)
    (fun payload s before => @Buffer.append_inRange _ (room s) before.fits payload)

theorem settle_inRange {α : Type} {reply : Reply (Scene ω) α} (id : Nat)
    (after : reply.state.InRange) (inRange : reply.channel.position ≤ maxPosition) :
    (settle id reply).InRange where
  fits := after.fits
  positions := by
    intro channel member
    rcases List.mem_or_eq_of_mem_set member with other | rfl
    · exact after.positions channel other
    · exact inRange

theorem inRange_stable : Stable room InRange where
  work := place_inRange
  elsewhere _ _ before := ⟨before.fits, before.positions⟩
  holders _ _ _ before := ⟨before.fits, before.positions⟩
  opened s capabilities before := by
    refine ⟨before.fits, ?_⟩
    intro channel member
    rcases List.mem_append.mp member with old | new
    · exact before.positions channel old
    · cases List.mem_singleton.mp new
      exact Nat.zero_le maxPosition
  called s id channel call there peer before := by
    have work := Place.store_keeps (@place_inRange _ room)
    apply settle_inRange id (channel.perform_keeps work peer s before)
    exact Channel.perform_inRange work store_inRange peer before
      (before.positions channel (List.mem_of_getElem? there))
  dropped s id channel there before := by
    have work := Place.store_keeps (@place_inRange _ room)
    apply settle_inRange id (channel.drop_keeps work s before)
    have inRange := before.positions channel (List.mem_of_getElem? there)
    rw [Channel.drop]
    cases channel.isOpen <;> exact inRange

theorem course_cursor_restorable {buffer : Buffer} {world : ω} (fits : buffer.size ≤ maxPosition)
    (course : Course room (ofBuffer buffer world) s) (id : Nat) (channel : Channel)
    (there : s.channels[id]? = some channel) :
    channel.position ≤ maxPosition ∧
      (channel.isOpen = true →
        channel.cursor s = { result := .ok channel.position, channel, state := s } ∧
        channel.seek (place room).store (.current 0) s =
          { result := .ok channel.position, channel, state := s } ∧
        ∀ t later, Course room s t → t.channels[id]? = some later → later.isOpen = true →
          later.setPosition channel.position t =
            { result := .ok (), channel := later.moveTo channel.position, state := t } ∧
          later.seek (place room).store (.start channel.position) t =
            { result := .ok channel.position, channel := later.moveTo channel.position,
              state := t }) := by
  have start : (ofBuffer buffer world).InRange := ⟨fits, nofun⟩
  have inRange : channel.position ≤ maxPosition :=
    (course.preserves inRange_stable start).positions channel (List.mem_of_getElem? there)
  refine ⟨inRange, ?_⟩
  intro isOpen
  refine ⟨?_, Channel.seek_here isOpen inRange _ s, ?_⟩
  · simp only [Channel.cursor, Channel.attempt, channel.justOpen_allowed isOpen]
  · -- Whatever has happened in between, only the saved position and the open state count.
    intro t later _ _ stillOpen
    exact ⟨Channel.setPosition_back stillOpen inRange t, Channel.seek_back stillOpen inRange _ t⟩

def atEnd : Scene Unit :=
  let opened := (ofBuffer (.ofBytes [1, 2, 3]) ()).openChannel { read := true }
  settle 0 ((Channel.opened { read := true }).perform (place fun _ => Memory.standard).store opened
    (.request (.seek (.ending 0))))

def shortened : Scene Unit :=
  ((place fun _ => Memory.standard).store.truncate 1 atEnd).2

theorem atEnd_restorable :
    let channel : Channel := { capabilities := { read := true }, position := 3 }
    Course (fun _ => Memory.standard) (ofBuffer (.ofBytes [1, 2, 3]) ()) atEnd ∧
      atEnd.channels[0]? = some channel ∧ shortened.channels[0]? = some channel ∧
      shortened.buffer.size = 1 ∧
      channel.seek (place fun _ => Memory.standard).store (.start 3) shortened =
        { result := .ok 3, channel := channel.moveTo 3, state := shortened } := by
  intro channel
  have course : Course (fun _ => Memory.standard) (ofBuffer (.ofBytes [1, 2, 3]) ()) atEnd :=
    .andThen (.openChannel _ { read := true }) (.request _ 0 _ rfl (.seek (.ending 0)))
  have there : atEnd.channels[0]? = some channel := by decide
  have still : shortened.channels[0]? = some channel := by decide
  obtain ⟨_, restorable⟩ := course_cursor_restorable (by decide) course 0 channel there
  obtain ⟨_, _, later⟩ := restorable rfl
  have back := (later shortened channel (.truncate _ 1) still rfl).2
  exact ⟨course, there, still, by decide, back⟩

end Scene

end SharedBytes
