import SharedBytes.Proofs.Channel.Alike
import SharedBytes.Proofs.Reachable
import SharedBytes.Proofs.Transfer.Laying
import SharedBytes.Proofs.Transfer.Watched

/-!
# To append is to write at the end

A channel that appends stores what a channel at positions would store that has just sought the end,
and is refused what the other would be refused. A transfer from a source that leaves the buffer
alone asks the source for the same slices whether its bytes are appended or written from the end on:
the two transfers find the end at the same place in each round.
-/

namespace SharedBytes

open Transfer

variable {σ : Type} {s : σ}

theorem Channel.copy_refusal {channel : Channel} (isOpen : channel.isOpen = true)
    (writable : channel.capabilities.isWritable = true) {position : Nat}
    (inRange : position ≤ maxPosition) (count : Nat) :
    channel.refusal? .writable [("position", position), ("count", count)] =
      if count ≤ maxPosition then none else some (.invalidArgument "count" count) := by
  by_cases counted : count ≤ maxPosition
  · rw [if_pos counted]
    exact channel.writable_allowed isOpen writable (by simp [inRange, counted])
  · rw [if_neg counted]
    simp [refusal?, Nat.not_lt_of_le inRange, Nat.lt_of_not_le counted]

theorem Channel.seek_end {channel : Channel} (isOpen : channel.isOpen = true) (place : Place σ)
    (inRange : (place.look s).size ≤ maxPosition) :
    channel.seek place.store (.ending 0) s =
      { result := .ok (place.look s).size, channel := channel.moveTo (place.look s).size,
        state := s } :=
  seek_within isOpen (Int.add_zero _) inRange

theorem Channel.copyIn_watched (channel : Channel) (place : Place σ) (source : Source σ)
    (position count : Nat) (s : σ) :
    let seen := channel.copyIn place.watched.store source.watched position count { state := s }
    let reply := channel.copyIn place.store source position count s
    seen.result = reply.result ∧ seen.state.state = reply.state := by
  intro seen reply
  have alike : seen.Alike (fun w s => w.state = s) reply := by
    refine copyIn_alike rfl (fun _ _ => trivial) ?_ ?_
    · intro _
      exact place.copyIn_watched_alike source position count
    · intro _
      exact place.copyInAtEnd_watched_alike source count
  exact ⟨alike.result, alike.state⟩

namespace Buffer

variable [Memory] {buffer : Buffer} {payload : List Bytes}

theorem append_as_write (nonempty : payload.flatten ≠ []) :
    buffer.append payload =
      ((buffer.write buffer.size payload).1.map fun written => ⟨written, buffer.size + written⟩,
        (buffer.write buffer.size payload).2) := by
  have some := List.length_pos_iff.mpr nonempty
  have outside : ¬ buffer.size + payload.flatten.length ≤ buffer.size := by omega
  have further := Bytes.splice_length buffer.bytes payload.flatten
  unfold append write
  simp only [if_neg nonempty, if_neg outside]
  cases buffer.refusal? (buffer.size + payload.flatten.length) with
  | some error => rfl
  | none =>
    simp only [size, further]
    rfl

/-- An empty payload is appended as long as the content is within the limit. -/
theorem Sound.append (sound : buffer.Sound) (payload : List Bytes) :
    buffer.append payload =
      ((buffer.write buffer.size payload).1.map fun written => ⟨written, buffer.size + written⟩,
        (buffer.write buffer.size payload).2) := by
  by_cases nothing : payload.flatten = []
  · rw [buffer.append_nothing payload nothing sound.within, buffer.write_nothing _ payload nothing]
    rfl
  · exact append_as_write nothing

theorem write_refused {position : Nat} {error : StoreFailure}
    (refused : (buffer.write position payload).1 = .error error) :
    error = buffer.overflow (position + payload.flatten.length) ∧
      (buffer.write position payload).2 = buffer := by
  by_cases nothing : payload.flatten = []
  · rw [buffer.write_nothing position payload nothing] at refused
    cases refused
  · by_cases admitted : buffer.Admits (position + payload.flatten.length)
    · rw [write_admitted nothing admitted] at refused
      cases refused
    · rw [write_beyond nothing admitted] at refused ⊢
      cases refused
      exact ⟨rfl, rfl⟩

end Buffer

variable [Memory] {get : σ → Buffer} {set : Buffer → σ → σ}

theorem Place.append_at_end {bytes : Bytes} (nonempty : bytes ≠ []) {stop : Nat}
    (size : (get s).size = stop) :
    let written := (Place.ofPart get set).write stop [bytes] s
    (Place.ofPart get set).append [bytes] s =
      (written.1.map fun count => ⟨count, stop + count⟩, written.2) := by
  subst size
  have some : [bytes].flatten ≠ [] := by simpa using nonempty
  have same := (get s).append_as_write some
  simp only [Place.ofPart, same]

section

variable (put : ∀ buffer s, get (set buffer s) = buffer) {source : Source σ}
  (apart : ∀ slice s, get (source slice s).2 = get s)

include put apart

/-- Both transfers are in the same state all along. The content ends there where the next bytes of
a transfer to the position belong. -/
theorem deposits_in_step (position : Nat) :
    InStep source source (fun _ bytes => (Place.ofPart get set).append [bytes])
      (fun moved bytes => (Place.ofPart get set).write (position + moved) [bytes])
      Receipt.written id (fun moved s t => s = t ∧ (get s).size = position + moved) where
  asked := by
    rintro moved slice s _ ⟨rfl, size⟩
    refine ⟨rfl, rfl, ?_⟩
    rw [apart]
    exact size
  stored := by
    rintro moved bytes s _ receipt _ ⟨rfl, size⟩ nonempty appended
    rw [Place.append_at_end nonempty size] at appended
    rcases (Place.ofPart_faithful put).write_cases (s := s) nonempty (position + moved) with
      ⟨_, written, content⟩ | ⟨_, refused, _⟩
    · rw [written] at appended
      cases appended
      refine ⟨bytes.length, _, Prod.ext written rfl, rfl, rfl, ?_⟩
      change ((Place.ofPart get set).look _).size = _
      rw [content, Buffer.size, Bytes.length_splice]
      change max (get s).size _ = _
      omega
    · rw [refused] at appended
      cases appended
  refused := by
    rintro moved bytes s _ error _ ⟨rfl, size⟩ nonempty appended
    rw [Place.append_at_end nonempty size] at appended
    rcases (Place.ofPart_faithful put).write_cases (s := s) nonempty (position + moved) with
      ⟨_, written, _⟩ | ⟨_, refused, content⟩
    · rw [written] at appended
      cases appended
    · rw [refused] at appended
      cases appended
      refine ⟨_, Prod.ext refused rfl, rfl, ?_⟩
      change ((Place.ofPart get set).look _).size = _
      rw [content]
      exact size

theorem Place.copyInAtEnd_as_copyIn (count : Nat) (s : σ) :
    let atEnd := (Place.ofPart get set).copyInAtEnd source count s
    let here := (Place.ofPart get set).copyIn source (get s).size count s
    atEnd.1.map (·.written) = here.1 ∧ atEnd.2 = here.2 := by
  intro atEnd here
  obtain ⟨written, state⟩ := (Place.ofPart get set).copyInAtEnd_pumps source count s
  have within : (get s).size ≤ ((Place.ofPart get set).look s).size := Nat.le_refl _
  have pumped : here = _ := (Place.ofPart get set).copyIn_within source count within
  have fresh : (none : Option Receipt).map Receipt.written = (none : Option Nat).map id := rfl
  obtain ⟨same, _, final, _⟩ := (deposits_in_step put apart (get s).size).pump count
    (freshChunk count) fresh ⟨rfl, (Nat.add_zero _).symm⟩
  have counts := congrArg (Outcome.map Prod.fst) same
  simp only [Outcome.map_map] at counts
  rw [pumped]
  exact ⟨written.trans counts, state.trans final⟩

end

/-- Two writes of a payload that come to the same: one answer and one state. If they succeed, the
cursors are at the same place; if not, the payload would end where the buffer admits nothing, and
the buffer is as it was. -/
structure SameWrite (get : σ → Buffer) (s : σ) (payload : List Bytes)
    (first second : Reply σ (Except ChannelFailure Nat)) : Prop where
  result : first.result = second.result
  state : first.state = second.state
  cursor : ∀ count, first.result = .ok count →
    first.channel.position = second.channel.position
  refusal : ∀ failure, first.result = .error failure →
    failure = .store ((get s).overflow ((get s).size + payload.flatten.length)) ∧
      get first.state = get s

section

variable {payload : List Bytes} {appender writer : Channel}
  {first second : Reply σ (Except ChannelFailure Nat)}

theorem SameWrite.of_answers (put : ∀ buffer s, get (set buffer s) = buffer)
    (sound : (get s).Sound)
    (appended : let answer := (Place.ofPart get set).store.append payload s
      first.result = (answer.1.map (·.written)).mapError .store ∧
        first.channel = appender.answered answer.1 (·.size) ∧ first.state = answer.2)
    (written : let answer := (Place.ofPart get set).store.write (get s).size payload s
      second.result = answer.1.mapError .store ∧
        second.channel = writer.answered answer.1 ((get s).size + ·) ∧ second.state = answer.2) :
    SameWrite get s payload first second := by
  have same : (Place.ofPart get set).store.append payload s =
      (((get s).write (get s).size payload).1.map fun count => ⟨count, (get s).size + count⟩,
        set ((get s).write (get s).size payload).2 s) := by
    simp only [Place.store, Place.ofPart, sound.append payload]
  change let answer := ((get s).write (get s).size payload)
    second.result = answer.1.mapError .store ∧
      second.channel = writer.answered answer.1 ((get s).size + ·) ∧
      second.state = set answer.2 s at written
  rw [same] at appended
  obtain ⟨result, moved, state⟩ := appended
  obtain ⟨result', moved', state'⟩ := written
  rcases answered : (get s).write (get s).size payload with ⟨error | count, after⟩
  · obtain ⟨beyond, kept⟩ := Buffer.write_refused (congrArg Prod.fst answered)
    rw [answered] at result moved state result' moved' state' kept
    constructor
    · exact result.trans result'.symm
    · exact state.trans state'.symm
    · intro count succeeded
      rw [result] at succeeded
      cases succeeded
    · intro failure failed
      rw [result] at failed
      cases failed
      rw [beyond, state, put]
      exact ⟨rfl, kept⟩
  · rw [answered] at result moved state result' moved' state'
    constructor
    · exact result.trans result'.symm
    · exact state.trans state'.symm
    · intro count succeeded
      rw [moved, moved']
      rfl
    · intro failure failed
      rw [result] at failed
      cases failed

end

section

variable {appender writer : Channel} (appenderOpen : appender.isOpen = true)
  (appending : appender.capabilities.isAppending = true) (writerOpen : writer.isOpen = true)
  (writable : writer.capabilities.isWritable = true)
  (positional : writer.capabilities.isAppending = false)

include appenderOpen appending writerOpen writable positional

variable (get set) in
theorem Channel.copyIn_at_end_alike (put : ∀ buffer s, get (set buffer s) = buffer)
    (fits : (get s).size ≤ maxPosition) {source : Source σ}
    (apart : ∀ slice s, get (source slice s).2 = get s) {position : Nat}
    (inRange : position ≤ maxPosition) (count : Nat) :
    let store := (Place.ofPart get set).store
    let atEnd := appender.copyIn store source position count s
    let here := writer.copyIn store source (get s).size count s
    atEnd.result = here.result ∧ atEnd.state = here.state := by
  intro store atEnd here
  have appendable := appender.writable_of_appending appending
  have refusal := appender.copy_refusal appenderOpen appendable inRange count
  have refusal' := writer.copy_refusal writerOpen writable fits count
  by_cases counted : count ≤ maxPosition
  · rw [if_pos counted] at refusal refusal'
    obtain ⟨result, _, state⟩ := copyIn_appending store refusal appending source s
    obtain ⟨result', _, state'⟩ := copyIn_positional store refusal' positional source s
    obtain ⟨answers, states⟩ := Place.copyInAtEnd_as_copyIn put apart count s
    constructor
    · rw [result, result']
      exact congrArg (Outcome.mapError ChannelFailure.store) answers
    · rw [state, state']
      exact states
  · rw [if_neg counted] at refusal refusal'
    have refused : atEnd = _ := copyIn_refused store refusal source s
    have refused' : here = _ := copyIn_refused store refusal' source s
    rw [refused, refused']
    exact ⟨rfl, rfl⟩

/-- What is seen of the source is the same as well: it lies apart from the buffer, like the rest of
the state. -/
theorem Channel.copyIn_at_end_watched (put : ∀ buffer s, get (set buffer s) = buffer)
    (fits : (get s).size ≤ maxPosition) {source : Source σ}
    (apart : ∀ slice s, get (source slice s).2 = get s) {position : Nat}
    (inRange : position ≤ maxPosition) (count : Nat) :
    let store := (Place.ofPart get set).watched.store
    let atEnd := appender.copyIn store source.watched position count { state := s }
    let here := writer.copyIn store source.watched (get s).size count { state := s }
    atEnd.result = here.result ∧ atEnd.state = here.state := by
  have still : ∀ slice w, get (source.watched slice w).2.state = get w.state :=
    fun slice w => apart slice w.state
  let unseen : Watched σ (Fetch σ) := { state := s }
  exact Channel.copyIn_at_end_alike (s := unseen) (fun w => get w.state)
    (fun buffer w => { w with state := set buffer w.state }) appenderOpen appending writerOpen
    writable positional (fun buffer w => put buffer w.state) fits still inRange count

end

/-- The calls of an appending channel, beside those of a channel at positions which has just sought
the end, on any buffer that can be reached and with the cursors anywhere. -/
theorem appending_writes_at_end (put : ∀ buffer s, get (set buffer s) = buffer)
    (reachable : (get s).Reachable) {appender writer : Channel}
    (appenderOpen : appender.isOpen = true)
    (appending : appender.capabilities.isAppending = true) (writerOpen : writer.isOpen = true)
    (writable : writer.capabilities.isWritable = true)
    (positional : writer.capabilities.isAppending = false) :
    let place := Place.ofPart get set
    let sought := writer.seek place.store (.ending 0) s
    sought.result = .ok (get s).size ∧
      (∀ payload, SameWrite get s payload (appender.write place.store payload s)
        (sought.channel.write place.store payload sought.state)) ∧
      (∀ payload position, position ≤ maxPosition →
        SameWrite get s [payload] (appender.writeAt place.store payload position s)
          (sought.channel.write place.store [payload] sought.state)) ∧
      ∀ source : Source σ, (∀ slice s, get (source slice s).2 = get s) →
        ∀ position count,
          let atEnd := appender.copyIn place.watched.store source.watched position count
            { state := s }
          let here := writer.copyIn place.watched.store source.watched (get s).size count
            { state := s }
          (position ≤ maxPosition →
            atEnd.result = here.result ∧ atEnd.state = here.state ∧
              atEnd.result = (appender.copyIn place.store source position count s).result ∧
              atEnd.state.state = (appender.copyIn place.store source position count s).state ∧
              here.result = (writer.copyIn place.store source (get s).size count s).result ∧
              here.state.state =
                (writer.copyIn place.store source (get s).size count s).state) ∧
            (maxPosition < position →
              atEnd.result = .error (.invalidArgument "position" position) ∧
                atEnd.state = { state := s }) := by
  intro place sought
  have sound := reachable.sound
  have appendable := appender.writable_of_appending appending
  have moved : sought = _ := writer.seek_end writerOpen place sound.fits
  have writes (payload : List Bytes) :=
    Channel.write_positional place.store
      ((writer.moveTo (get s).size).writable_allowed writerOpen writable nofun) positional payload s
  rw [moved]
  refine ⟨rfl, ?_, ?_, ?_⟩
  · intro payload
    have appended := Channel.write_appending place.store
      (appender.writable_allowed appenderOpen appendable nofun) appending payload s
    exact SameWrite.of_answers put sound appended (writes payload)
  · intro payload position inRange
    have appended := Channel.writeAt_appending place.store
      (appender.writable_allowed appenderOpen appendable (by simpa using inRange)) appending
      payload s
    exact SameWrite.of_answers put sound appended (writes [payload])
  · intro source apart position count atEnd here
    constructor
    · intro inRange
      obtain ⟨result, state⟩ := Channel.copyIn_at_end_watched appenderOpen appending writerOpen
        writable positional put sound.fits apart inRange count
      obtain ⟨answer, final⟩ := appender.copyIn_watched place source position count s
      obtain ⟨answer', final'⟩ := writer.copyIn_watched place source (get s).size count s
      exact ⟨result, state, answer, final, answer', final'⟩
    · intro beyond
      have refused : appender.refusal? .writable [("position", position), ("count", count)] =
          some (.invalidArgument "position" position) := by
        simp [Channel.refusal?, beyond]
      have unmoved : atEnd = _ :=
        Channel.copyIn_refused place.watched.store refused source.watched { state := s }
      rw [unmoved]
      exact ⟨rfl, rfl⟩

omit [Memory] in
/-- Three of six bytes are there already, with the cursors elsewhere. Two more fit; four do not, and
a source that has four gets two of them in. -/
theorem bounded_writes_at_end :
    let s : Buffer × Bytes := ({ bytes := [1, 2, 3], limit := some 6 }, [4, 5, 6, 7])
    let appender : Channel := { capabilities := { append := true }, position := 1 }
    let writer : Channel := { capabilities := { read := true, write := true }, position := 2 }
    let store := besideBytes.store
    let sought := writer.seek store (.ending 0) s
    let beyond := StoreFailure.capacityExceeded 6 7
    (s.1.Reachable ∧ sought.result = .ok 3) ∧
      ((appender.write store [[4], [], [5]] s).result = .ok 2 ∧
        (sought.channel.write store [[4], [], [5]] sought.state).channel.position = 5) ∧
      ((appender.writeAt store [4, 5, 6, 7] 0 s).result = .error (.store beyond) ∧
        (sought.channel.write store [[4, 5, 6, 7]] sought.state).result = .error (.store beyond)) ∧
      (appender.copyIn store (sipping id) 9 5 s).result = .error (.store beyond) ∧
        (writer.copyIn store (sipping id) 3 5 s).state =
          ({ bytes := [1, 2, 3, 4, 5], limit := some 6 }, []) := by
  intro s appender writer store sought beyond
  have course : Scene.Course (fun _ => .standard) (.ofBuffer (Origin.bounded 6).buffer ()) _ :=
    .append _ [[1, 2], [3]]
  have reachable : s.1.Reachable := .left (.bounded 6) (Nat.zero_le _) course
  obtain ⟨found, writes, writesAt, transfers⟩ := @appending_writes_at_end _ s .standard Prod.fst
    (fun buffer s => (buffer, s.2)) (fun _ _ => rfl) reachable appender writer rfl rfl rfl rfl rfl
  have written : (appender.write store [[4], [], [5]] s).result = .ok 2 := rfl
  have refused : (appender.writeAt store [4, 5, 6, 7] 0 s).result = .error (.store beyond) := rfl
  have pumped : (appender.copyIn store (sipping id) 9 5 s).result = .error (.store beyond) ∧
      (appender.copyIn store (sipping id) 9 5 s).state =
        ({ bytes := [1, 2, 3, 4, 5], limit := some 6 }, []) := by
    decide +kernel
  have cursor : (appender.write store [[4], [], [5]] s).channel.position = 5 := rfl
  refine ⟨⟨reachable, found⟩, ⟨written, ?_⟩, ⟨refused, ?_⟩, pumped.1, ?_⟩
  · exact ((writes [[4], [], [5]]).cursor 2 written).symm.trans cursor
  · exact (writesAt [4, 5, 6, 7] 0 (Nat.zero_le _)).result.symm.trans refused
  · obtain ⟨_, states, _, final, _, final'⟩ :=
      (transfers (sipping id) (fun _ _ => rfl) 9 5).1 (by decide)
    have same := congrArg Watched.state states
    exact final'.symm.trans (same.symm.trans (final.trans pumped.2))

end SharedBytes
