import SharedBytes.Proofs.Session.Copies
import SharedBytes.Proofs.Session.Slices
import SharedBytes.Proofs.Transfer.Deposits
import SharedBytes.Proofs.Transfer.Within

/-!
# Copies to the end of the same buffer

One channel of a session copies into another channel on the same buffer, which appends. The copy
feeds on its own bytes: it stores at the end what it has read, and what it has stored is there to be
read. So the content comes to repeat itself from the position on, and the copy ends only because it
has moved as many bytes as it was asked.
-/

namespace SharedBytes

open Transfer

namespace Channel

def appended (channel : Channel) (size count : Nat) : Channel :=
  if count = 0 then channel else channel.moveTo (size + count)

variable (channel : Channel) (size count : Nat)

theorem appended_capabilities :
    (channel.appended size count).capabilities = channel.capabilities := by
  unfold appended
  split <;> rfl

theorem appended_isOpen : (channel.appended size count).isOpen = channel.isOpen := by
  unfold appended
  split <;> rfl

theorem appended_moveTo (position : Nat) :
    (channel.appended size count).moveTo position = channel.moveTo position := by
  unfold appended
  split <;> rfl

/-- The next bytes leave the channel as it would be had it appended them with the others. -/
theorem appended_lands (appending : channel.capabilities.isAppending = true)
    {answer : Except StoreFailure Nat} (some : ∀ written, answer = .ok written → 0 < written) :
    (channel.appended size count).moveTo
        ((channel.appended size count).landing (size + count) answer) =
      channel.appended size (count + answer.toOption.getD 0) := by
  cases answer with
  | error _ => rfl
  | ok written =>
    have further : count + written ≠ 0 := by
      have more := some written rfl
      omega
    have lands : (channel.appended size count).landing (size + count) (.ok written) =
        size + (count + written) := by
      rw [landing, appended_capabilities, if_pos appending, Nat.add_assoc]
    rw [lands, appended_moveTo]
    exact (if_neg further).symm

end Channel

namespace Session

variable [Memory] {session : Session} {a b i p count : Nat} {reader writer : Channel}

omit [Memory] in
theorem there_of_more (more : (session.bufferAt i).bytes.drop p ≠ []) :
    i < session.buffers.length := by
  have some := List.length_pos_iff.mpr more
  rw [List.length_drop] at some
  apply there_of_content
  rw [Buffer.size]
  omega

/-- More bytes are added behind those that were added before. -/
theorem deposit_grown (there : i < session.buffers.length) {bytes chunk : Bytes}
    (nonempty : chunk ≠ [])
    (admitted : (session.bufferAt i).Admits
      ((session.bufferAt i).size + (bytes ++ chunk).length)) (position : Nat) :
    deposit true i position chunk (session.grown i bytes) =
      (.ok chunk.length, session.grown i (bytes ++ chunk)) := by
  have stop : ((session.grown i bytes).getD i {}).size + chunk.length =
      (session.bufferAt i).size + (bytes ++ chunk).length := by
    rw [getD_grown there]
    simp only [Buffer.size, List.length_append]
    omega
  have room : ((session.grown i bytes).getD i {}).Admits
      (((session.grown i bytes).getD i {}).size + chunk.length) := by
    have less : (session.bufferAt i).size + bytes.length ≤
        (session.bufferAt i).size + (bytes ++ chunk).length := by
      rw [List.length_append]
      omega
    rw [stop, getD_grown there, ← Bytes.splice_length]
    exact (Buffer.admits_splice_iff (admitted.mono less) _).mpr admitted
  rcases ((session.grown i bytes).getD i {}).append_deposit nonempty with
    ⟨_, appended⟩ | ⟨beyond, _⟩
  · simp only [deposit, if_true, appended]
    rw [grown_grown there]
    rfl
  · exact absurd room beyond

/-- One round adds the next bytes of the repeated stretch. -/
theorem repeating_round (more : (session.bufferAt i).bytes.drop p ≠ [])
    (admitted : (session.bufferAt i).Admits ((session.bufferAt i).size + count)) (q moved : Nat)
    (buffers : List Buffer) (further : moved < count)
    (repeats : buffers = session.grown i ((Stream'.cycle _ more).take moved)) :
    let chunk := nextChunk (buffers.getD i {}).bytes (p + moved) (count - moved)
    chunk ≠ [] ∧ ∃ answer next, deposit true i (q + moved) chunk buffers = (.ok answer, next) ∧
      next = session.grown i ((Stream'.cycle _ more).take (moved + chunk.length)) := by
  intro chunk
  have there := there_of_more more
  have period := List.length_pos_iff.mpr more
  have bounded : chunk.length ≤ count - moved := length_nextChunk_le _ _ _
  have taken : chunk = ((Stream'.cycle _ more).drop moved).take
      (min ((session.bufferAt i).bytes.drop p).length (min (count - moved) chunkSize)) := by
    simp only [chunk, repeats, getD_grown there]
    exact nextChunk_repeating more moved (count - moved)
  have length := congrArg List.length taken
  rw [Stream'.length_take] at length
  rw [← length] at taken
  -- Neither the repeated stretch nor what is left to move is empty, so the copy goes on.
  have nonempty : chunk ≠ [] := by
    apply List.ne_nil_of_length_pos
    rw [length, chunkSize]
    omega
  refine ⟨nonempty, chunk.length, _, ?_, rfl⟩
  rw [Stream'.take_add, ← taken, repeats]
  apply deposit_grown there nonempty
  rw [List.length_append, Stream'.length_take]
  exact admitted.mono (by omega)

theorem copy_repeats (more : (session.bufferAt i).bytes.drop p ≠ [])
    (admitted : (session.bufferAt i).Admits ((session.bufferAt i).size + count)) (q : Nat) :
    copy true i i p q count session.buffers =
      (.ok count, session.grown i ((Stream'.cycle _ more).take count)) := by
  have start : session.buffers = session.grown i ((Stream'.cycle _ more).take 0) := by
    rw [Stream'.take_zero, grown_nil]
  obtain ⟨final, copied, rfl⟩ := relay_completes (repeating_round more admitted q) 0
    session.buffers (Nat.zero_le count) start
  exact copied

theorem deposit_size {buffers : List Buffer} (there : i < buffers.length) (position : Nat)
    (chunk : Bytes) :
    ((deposit true i position chunk buffers).2.getD i {}).size =
      (buffers.getD i {}).size + (deposit true i position chunk buffers).1.toOption.getD 0 := by
  simp only [deposit, if_true]
  rw [getD_modify there]
  rcases (buffers.getD i {}).append_cases [chunk] with ⟨_, stored⟩ | ⟨error, _, refused⟩
  · rw [stored, List.flatten_singleton]
    exact List.length_append
  · rw [refused]
    rfl

structure Extending (session : Session) (b i : Nat) (writer : Channel) (moved : Nat)
    (s : Session × SinkPeer) (buffers : List Buffer) : Prop where
  peer : s.2 = .channel b
  there : i < buffers.length
  size : (buffers.getD i {}).size = (session.bufferAt i).size + moved
  turned : session.Turned b (writer.appended (session.bufferAt i).size moved) buffers s.1

theorem Extending.write {moved : Nat} {s : Session × SinkPeer} {buffers : List Buffer}
    (extending : session.Extending b i writer moved s buffers) (bears : session.Bears b writer i)
    (isOpen : writer.isOpen = true) (appending : writer.capabilities.isAppending = true)
    (position : Nat) {chunk : Bytes} (nonempty : chunk ≠ []) :
    let answer := deposit true i position chunk buffers
    ∃ next, SinkPeer.sink chunk s = (answer.1.mapError StoreFailure.kind, next) ∧
      session.Extending b i writer (moved + answer.1.toOption.getD 0) next answer.2 := by
  intro answer
  obtain ⟨present, peer⟩ := s
  obtain ⟨rfl, there, size, turned⟩ := extending
  have appendable := writer.writable_of_appending appending
  have allowed : (writer.appended (session.bufferAt i).size moved).refusal? .writable [] = none :=
    Channel.writable_allowed _ ((Channel.appended_isOpen _ _ _).trans isOpen)
      ((congrArg _ (Channel.appended_capabilities _ _ _)).trans appendable) nofun
  obtain ⟨answered, turns⟩ := writeStream_turns (turned.bears bears) allowed chunk
  rw [Channel.appended_capabilities, appending] at answered turns
  have same : deposit true i (writer.appended (session.bufferAt i).size moved).position chunk
      present.buffers = answer := by
    rw [turned.buffers_eq]
    rfl
  have reached : (present.bufferAt i).size = (session.bufferAt i).size + moved := by
    rw [bufferAt, turned.buffers_eq]
    exact size
  have some : ∀ written, answer.1 = .ok written → 0 < written := by
    intro written stored
    rcases deposit_cases true i position nonempty buffers with whole | ⟨limit, requested, refused⟩
    · cases stored.symm.trans whole
      exact List.length_pos_iff.mpr nonempty
    · cases stored.symm.trans refused
  rw [same] at answered turns
  rw [reached, writer.appended_lands _ _ appending some] at turns
  refine ⟨(_, .channel b), Prod.ext answered rfl, rfl, ?_, ?_, turned.trans turns⟩
  · rw [show answer.2.length = buffers.length from List.length_modify _ _ _]
    exact there
  · rw [deposit_size there, size, Nat.add_assoc]

section

variable (distinct : a ≠ b) (source : session.Bears a reader i) (target : session.Bears b writer i)

include distinct source target

theorem copyOut_refused {failure : ChannelFailure}
    (refused : reader.refusal? .readable [("position", p), ("count", count)] = some failure) :
    let out := session.perform (.channel a (.copyOut p count (.channel b)))
    out.1.outcome = .error (.call (.channel failure)) ∧
      session.Turned b writer session.buffers out.2 := by
  have held := source
  obtain ⟨slot, found, rfl, rfl, unprobed⟩ := held
  have atHand : (SinkPeer.channel b).isAtHand session (some a) = true := by
    simp [SinkPeer.isAtHand, target.present, distinct]
  simp only [perform, found, runChannel, atHand, if_true, Channel.perform, Channel.copyOut,
    Channel.attempt, refused]
  have unmoved : session.Turned b writer session.buffers session := .of_bare target rfl fun _ => rfl
  exact ⟨rfl, unmoved.settled distinct source rfl⟩

/-- From the end on there is nothing to copy. -/
theorem copyOut_ended
    (allowed : reader.refusal? .readable [("position", p), ("count", count)] = none)
    (ended : (session.bufferAt i).size ≤ p) :
    let out := session.perform (.channel a (.copyOut p count (.channel b)))
    out.1.outcome = .ok (.number 0) ∧ session.Turned b writer session.buffers out.2 := by
  obtain ⟨outcome, turns⟩ := copyOut_performs distinct source target allowed
  have nothing : nextChunk ((place SinkPeer i).look (note a (.copyOut p count)
      (session, .channel b))).bytes (p + 0) count = [] := by
    change ((session.bufferAt i).bytes.drop p).take _ = []
    rw [List.drop_of_length_le ended, List.take_nil]
  have run : (place SinkPeer i).copyOut p count SinkPeer.sink
      (note a (.copyOut p count) (session, .channel b)) =
        (.ok 0, note a (.copyOut p count) (session, .channel b)) := by
    rw [Place.copyOut, drain, dif_pos nothing]
  rw [run] at outcome turns
  exact ⟨outcome, turns writer session.buffers
    (.of_bare target rfl fun _ => bareSlot_note _ (session, SinkPeer.channel b))⟩

theorem copyOut_idle (readerOpen : reader.isOpen = true)
    (readable : reader.capabilities.isReadable = true) (counted : count ≤ maxPosition)
    (ended : (session.bufferAt i).size ≤ p) :
    let out := session.perform (.channel a (.copyOut p count (.channel b)))
    out.1.outcome = (if p ≤ maxPosition then .ok (.number 0)
        else .error (.call (.channel (.invalidArgument "position" p)))) ∧
      session.Turned b writer session.buffers out.2 := by
  by_cases position : p ≤ maxPosition
  · have allowed : reader.refusal? .readable [("position", p), ("count", count)] = none :=
      reader.readable_allowed readerOpen readable (by simp [position, counted])
    rw [if_pos position]
    exact copyOut_ended distinct source target allowed ended
  · have refused : reader.refusal? .readable [("position", p), ("count", count)] =
        some (.invalidArgument "position" p) := by
      simp [Channel.refusal?, Nat.lt_of_not_le position]
    rw [if_neg position]
    exact copyOut_refused distinct source target refused

theorem copyOut_repeats
    (allowed : reader.refusal? .readable [("position", p), ("count", count)] = none)
    (isOpen : writer.isOpen = true)
    (appending : writer.capabilities.isAppending = true)
    (more : (session.bufferAt i).bytes.drop p ≠ [])
    (admitted : (session.bufferAt i).Admits ((session.bufferAt i).size + count)) :
    let out := session.perform (.channel a (.copyOut p count (.channel b)))
    out.1.outcome = .ok (.number count) ∧
      session.Turned b (writer.appended (session.bufferAt i).size count)
        (session.grown i ((Stream'.cycle _ more).take count)) out.2 := by
  have start : session.Extending b i writer 0
      (note a (.copyOut p count) (session, .channel b)) session.buffers :=
    { peer := rfl
      there := there_of_more more
      size := rfl
      turned := .of_bare target rfl fun _ => bareSlot_note _ (session, SinkPeer.channel b) }
  have pushes : Pushes (place SinkPeer i) SinkPeer.sink (fun buffers => (buffers.getD i {}).bytes)
      (fun moved bytes => deposit true i (p + moved) bytes) (session.Extending b i writer) := by
    apply pushes_of_writes
    · intro moved s buffers extending
      exact extending.turned.buffers_eq
    · intro moved s buffers chunk extending nonempty
      exact extending.write target isOpen appending _ nonempty
  obtain ⟨outcome, moved, s, extending, whole, turns⟩ :=
    copyOut_relays distinct source target allowed pushes start
  rw [copy_repeats more admitted] at outcome extending whole turns
  obtain rfl := whole count rfl
  exact ⟨outcome, turns _ extending.turned⟩

end

/-- A copy out of one channel of a buffer into another that appends. From inside the content it adds
all the bytes that it was asked for, from the end on it adds none. -/
theorem copies_repeat (distinct : a ≠ b) (source : session.Bears a reader i)
    (target : session.Bears b writer i) (readerOpen : reader.isOpen = true)
    (readable : reader.capabilities.isReadable = true) (writerOpen : writer.isOpen = true)
    (appending : writer.capabilities.isAppending = true)
    (held : (session.bufferAt i).size ≤ maxPosition) (counted : count ≤ maxPosition) :
    let out := session.perform (.channel a (.copyOut p count (.channel b)))
    let content := (session.bufferAt i).bytes
    let copied := (out.2.bufferAt i).bytes
    (∀ more : content.drop p ≠ [],
        (session.bufferAt i).Admits (content.length + count) →
          out.1.outcome = .ok (.number count) ∧
            out.2.buffers = session.buffers.modify i (fun buffer =>
              { buffer with bytes := copied }) ∧
            copied = content ++ (Stream'.cycle (content.drop p) more).take count ∧
            (∀ j < count, copied[content.length + j]? = copied[p + j]?) ∧
            out.2.channel? b = some
              (if count = 0 then writer else writer.moveTo (content.length + count)) ∧
            ∀ id, id ≠ b → out.2.channel? id = session.channel? id) ∧
      (content.length ≤ p →
        out.1.outcome = (if p ≤ maxPosition then .ok (.number 0)
          else .error (.call (.channel (.invalidArgument "position" p)))) ∧
          out.2.buffers = session.buffers ∧ ∀ id, out.2.channel? id = session.channel? id) := by
  intro out content copied
  constructor
  · intro more admitted
    have inside := List.length_pos_iff.mpr more
    rw [List.length_drop] at inside
    have shorter : content.length ≤ maxPosition := held
    have position : p ≤ maxPosition := by omega
    have allowed : reader.refusal? .readable [("position", p), ("count", count)] = none :=
      reader.readable_allowed readerOpen readable (by simp [position, counted])
    obtain ⟨outcome, turned⟩ :=
      copyOut_repeats distinct source target allowed writerOpen appending more admitted
    have grown : copied = content ++ (Stream'.cycle (content.drop p) more).take count := by
      have final : out.2.bufferAt i = (session.grown i _).getD i {} :=
        congrArg (fun buffers => buffers.getD i {}) turned.buffers_eq
      rw [getD_grown (there_of_more more)] at final
      exact congrArg Buffer.bytes final
    refine ⟨outcome, ?_, grown, ?_, (turned.bears target).channel_eq, ?_⟩
    · rw [grown, turned.buffers_eq, Session.grown]
      exact modify_bufferAt session i fun buffer =>
        { buffer with bytes := content ++ (Stream'.cycle (content.drop p) more).take count }
    · intro j near
      rw [grown]
      exact getElem?_repeating more near
    · intro id other
      exact turned.channel_other other
  · intro ended
    obtain ⟨outcome, turned⟩ :=
      copyOut_idle distinct source target readerOpen readable counted ended
    refine ⟨outcome, turned.buffers_eq, ?_⟩
    intro id
    by_cases own : id = b
    · rw [own, (turned.bears target).channel_eq, target.channel_eq]
    · exact turned.channel_other own

def following : Session where
  buffers := [{ bytes := [1, 2, 3, 4, 5], limit := some 12 }]
  slots := [
    some { channel := .opened { read := true }, handle := 0, buffer := 0 },
    some { channel := .opened { append := true }, handle := 0, buffer := 0 }]

omit [Memory] in
/-- The last two bytes are copied three times and a half. -/
theorem following_repeats :
    let out := @perform .standard following (.channel 0 (.copyOut 3 7 (.channel 1)))
    out.1.outcome = .ok (.number 7) ∧
      (out.2.bufferAt 0).bytes = [1, 2, 3, 4, 5, 4, 5, 4, 5, 4, 5, 4] ∧
      out.2.channel? 1 = some ((Channel.opened { append := true }).moveTo 12) := by
  intro out
  obtain ⟨outcome, _, copied, _, moved, _⟩ := (@copies_repeat .standard following 0 1 0 3 7
    (.opened { read := true }) (.opened { append := true }) (by decide) ⟨_, rfl, rfl, rfl, rfl⟩
    ⟨_, rfl, rfl, rfl, rfl⟩ rfl rfl rfl rfl (by decide) (by decide)).1 (by decide)
    (.inr ⟨by decide, by decide⟩)
  exact ⟨outcome, copied, moved⟩

end Session

end SharedBytes
