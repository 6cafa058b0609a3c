import SharedBytes.Proofs.Session.Copies

/-!
# The two directions of a copy between channels

A copy from one channel into another can be asked of either of the two: one takes the other for its
sink, or the other takes the one for its source. The main statement says that both come to the same,
on one buffer as on two.
-/

namespace SharedBytes.Session

variable {session : Session} {a b i j p q count : Nat} {reader writer : Channel}

theorem setPosition_turns [Memory] {id index position : Nat} {channel : Channel}
    (bears : session.Bears id channel index) (isOpen : channel.isOpen = true)
    (inRange : position ≤ maxPosition) :
    session.Turned id (channel.moveTo position) session.buffers
      (session.perform (.channel id (.request (.setPosition position)))).2 := by
  obtain ⟨slot, found, rfl, _⟩ := bears
  have allowed : slot.channel.refusal? .justOpen [("new_position", position)] = none := by
    rw [Channel.refusal?_eq_none_iff]
    simpa [isOpen, Channel.missing?] using inRange
  simp only [perform, found, runChannel, Channel.perform, Channel.serve, Channel.setPosition,
    Channel.attempt, allowed]
  exact settle_turns rfl rfl fun _ => rfl

/-- The copy comes to the same in both directions: the same contents and the same count, or a write
that one side reports as its sink's failure and the other as its store's. No content is longer than
positions reach. -/
theorem copies_either_way [Memory] (distinct : a ≠ b) (source : session.Bears a reader i)
    (target : session.Bears b writer j) (readerOpen : reader.isOpen = true)
    (readable : reader.capabilities.isReadable = true) (writerOpen : writer.isOpen = true)
    (writable : writer.capabilities.isWritable = true) (position : p ≤ maxPosition)
    (counted : count ≤ maxPosition) (within : q ≤ (session.bufferAt j).size)
    (held : (session.bufferAt j).size ≤ maxPosition) :
    let out := (session.perform (.channel b (.request (.setPosition q)))).2.perform
      (.channel a (.copyOut p count (.channel b)))
    let into := (session.perform (.channel a (.request (.setPosition p)))).2.perform
      (.channel b (.copyIn (.channel a) q count))
    out.2.buffers = into.2.buffers ∧
      ((∃ n, out.1.outcome = .ok (.number n) ∧ into.1.outcome = .ok (.number n) ∧
          (writer.capabilities.isAppending = false →
            out.2.channel? b = some (writer.moveTo (q + n)) ∧
            (∀ id, id ≠ b → out.2.channel? id = session.channel? id) ∧
            into.2.channel? a = some (reader.moveTo (p + n)) ∧
            ∀ id, id ≠ a → into.2.channel? id = session.channel? id)) ∨
        ∃ limit requested,
          out.1.outcome = .error (.call (.channel (.store (.sink .outOfMemory)))) ∧
          into.1.outcome =
            .error (.call (.channel (.store (.capacityExceeded limit requested))))) := by
  have inRange : q ≤ maxPosition := Nat.le_trans within held
  have outArguments : reader.refusal? .readable [("position", p), ("count", count)] = none :=
    reader.readable_allowed readerOpen readable (by simp [position, counted])
  have inArguments : writer.refusal? .writable [("position", q), ("count", count)] = none :=
    writer.writable_allowed writerOpen writable (by simp [inRange, counted])
  have reads := reader.readable_allowed readerOpen readable (List.forall_mem_nil _)
  have writes := writer.writable_allowed writerOpen writable (List.forall_mem_nil _)
  have atTarget := setPosition_turns target writerOpen inRange
  have atSource := setPosition_turns source readerOpen position
  obtain ⟨outEnds, cursor, outTurned, outCursor⟩ := copyOut_copies distinct
    (atTarget.bears_other distinct source) (atTarget.bears target) outArguments writes fun _ => rfl
  have inside : q ≤ (Session.bufferAt (session.perform
      (.channel a (.request (.setPosition p)))).2 j).size := by
    rw [bufferAt, atSource.buffers_eq]
    exact within
  obtain ⟨inEnds, inBuffers, inTurned⟩ := copyIn_copies distinct (atSource.bears source)
    (atSource.bears_other (Ne.symm distinct) target) reads inArguments (fun _ => inside) rfl
  simp only [atTarget.buffers_eq, Channel.moveTo_capabilities, Channel.moveTo_position,
    Channel.moveTo_moveTo] at outEnds outTurned outCursor
  simp only [atSource.buffers_eq, Channel.moveTo_position, Channel.moveTo_moveTo]
    at inEnds inBuffers inTurned
  intro out into
  refine ⟨outTurned.buffers_eq.trans inBuffers.symm, ?_⟩
  rcases copy_cases writer.capabilities.isAppending i j p q count session.buffers with
    ⟨n, copied⟩ | ⟨limit, requested, refused⟩
  · rw [copied] at outEnds inEnds
    refine .inl ⟨n, outEnds, inEnds, ?_⟩
    intro positional
    have outMoves := atTarget.trans outTurned
    have inMoves := atSource.trans (inTurned positional n copied)
    rw [outCursor positional n copied] at outMoves
    refine ⟨(outMoves.bears target).channel_eq, ?_, (inMoves.bears source).channel_eq, ?_⟩
    · intro id other
      exact outMoves.channel_other other
    · intro id other
      exact inMoves.channel_other other
  · rw [refused] at outEnds inEnds
    exact .inr ⟨limit, requested, outEnds, inEnds⟩

def facing : Session where
  buffers := [{ bytes := [1, 2, 3, 4, 5], limit := some 7 }]
  slots := [
    some { channel := .opened { read := true }, handle := 0, buffer := 0 },
    some { channel := .opened { write := true }, handle := 0, buffer := 0 }]

/-- Three bytes from the second on are copied to the end, where only two more would fit. -/
theorem facing_copies_either_way :
    let perform := @perform .standard
    let out := perform (perform facing (.channel 1 (.request (.setPosition 5)))).2
      (.channel 0 (.copyOut 1 3 (.channel 1)))
    let into := perform (perform facing (.channel 0 (.request (.setPosition 1)))).2
      (.channel 1 (.copyIn (.channel 0) 5 3))
    out.2.buffers = into.2.buffers := by
  intro perform out into
  exact (@copies_either_way facing 0 1 0 0 1 5 3 (.opened { read := true })
    (.opened { write := true }) .standard (by decide) ⟨_, rfl, rfl, rfl, rfl⟩
    ⟨_, rfl, rfl, rfl, rfl⟩ rfl rfl rfl rfl (by decide) (by decide) (by decide) (by decide)).1

end SharedBytes.Session
