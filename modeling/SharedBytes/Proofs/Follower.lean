import SharedBytes.Proofs.Capabilities

/-!
# A reader that follows appenders

One channel reads a buffer that others only append to. The scene keeps a note of the bytes that the
reader was given, which nobody reads. What was given is the content from where the reader began up
to its cursor, at every moment: an append leaves in place what is there, and a read hands over what
comes next and moves the cursor past it.

The appenders and the reader take turns in any order, also between the chunks of a transfer, whose
peer is at work then. Everything else may happen that changes neither the content nor the reader.
-/

namespace SharedBytes

variable {σ ω : Type}

def Request.isRead : Request → Bool
  | .read _ | .streamRead _ => true
  | _ => false

def Request.counted (count : Option Nat) : Request → Answer
  | .streamRead _ => .number (count.getD 0)
  | _ => .reading count

/-- What a call that reads has given its caller: so many bytes of the slices as it reports. -/
def Reply.given (reply : Reply σ (Outcome CallFailure Answer)) : Bytes :=
  match reply.result with
  | .ok (.reading (some n)) | .ok (.number n) => reply.slices.flatten.take n
  | _ => []

/-- Whether a reader is told of the end: by none, or by a number of zero. -/
def Reply.tellsEnd (reply : Reply σ (Outcome CallFailure Answer)) : Bool :=
  match reply.result with
  | .ok (.reading none) | .ok (.number 0) => true
  | _ => false

/-- A reply that gives its caller the front of what a content holds from a position on, and leaves
the rest of the slices as it was. -/
structure Reply.Fills (content : Bytes) (position : Nat) (request : Request) (slices : List Bytes)
    (reply : Reply σ (Outcome CallFailure Answer)) : Prop where
  given : reply.given = (content.drop position).take slices.flatten.length
  beyond : reply.slices.flatten.drop reply.given.length =
    slices.flatten.drop reply.given.length
  lengths : reply.slices.map List.length = slices.map List.length
  counts : reply.result =
    .ok (request.counted (if content.length ≤ position then none else some reply.given.length))
  ends : request = .read slices ∨ slices.flatten ≠ [] →
    (reply.tellsEnd = true ↔ content.length ≤ position)

namespace Channel

variable {request : Request} {slices : List Bytes}

theorem perform_read (channel : Channel) (place : Place σ) (s : σ)
    (isOpen : channel.isOpen = true) (readable : channel.capabilities.isReadable = true)
    (reads : request.isRead = true) (offered : request.slices? = some slices) :
    let reply := channel.perform place.store s (.request request)
    let reading := (place.look s).read channel.position slices
    reply.result = .ok (request.counted reading.1) ∧ reply.slices = reading.2 ∧
      reply.channel = channel.moveTo (channel.position + reading.1.getD 0) ∧ reply.state = s := by
  have allowed := channel.readable_allowed isOpen readable (List.forall_mem_nil _)
  cases request with
  | read offers =>
    cases offered
    obtain ⟨result, filled, moved, state⟩ := read_allowed place.store allowed slices s
    refine ⟨?_, filled, moved, state⟩
    simp only [perform, serve, Reply.answering, result]
    rfl
  | streamRead slice =>
    cases offered
    obtain ⟨result, filled, moved, state⟩ := read_allowed place.store allowed [slice] s
    refine ⟨?_, filled, moved, state⟩
    simp only [perform, serve, Reply.answering, streamRead, result]
    rfl
  | _ => cases reads

theorem given_counted {reply : Reply σ (Outcome CallFailure Answer)} {count : Option Nat}
    (reads : request.isRead = true) (result : reply.result = .ok (request.counted count)) :
    reply.given = reply.slices.flatten.take (count.getD 0) := by
  cases request with
  | read offers =>
    rw [Reply.given, result]
    cases count <;> rfl
  | streamRead slice =>
    rw [Reply.given, result]
    rfl
  | _ => cases reads

theorem tellsEnd_iff {content : Bytes} {position : Nat}
    {reply : Reply σ (Outcome CallFailure Answer)} (reads : request.isRead = true)
    (given : reply.given = (content.drop position).take slices.flatten.length)
    (counts : reply.result =
      .ok (request.counted (if content.length ≤ position then none else some reply.given.length)))
    (offered : request = .read slices ∨ slices.flatten ≠ []) :
    reply.tellsEnd = true ↔ content.length ≤ position := by
  by_cases ended : content.length ≤ position
  · rw [if_pos ended] at counts
    cases request with
    | read _ | streamRead _ => simp [Reply.tellsEnd, counts, Request.counted, ended]
    | _ => cases reads
  · rw [if_neg ended] at counts
    cases request with
    | read _ => simp [Reply.tellsEnd, counts, Request.counted, ended]
    | streamRead _ =>
      -- The slice is not empty and there is something to read, so some of it is given.
      have nonempty : 0 < slices.flatten.length := by
        rcases offered with ⟨⟨⟩⟩ | nonempty
        exact List.length_pos_iff.mpr nonempty
      have length := congrArg List.length given
      rw [List.length_take, List.length_drop] at length
      obtain ⟨n, some⟩ : ∃ n, reply.given.length = n + 1 := ⟨reply.given.length - 1, by omega⟩
      simp [Reply.tellsEnd, counts, Request.counted, ended, some]
    | _ => cases reads

theorem perform_fills (channel : Channel) (place : Place σ) (s : σ)
    (isOpen : channel.isOpen = true) (readable : channel.capabilities.isReadable = true)
    (reads : request.isRead = true) (offered : request.slices? = some slices) :
    let reply := channel.perform place.store s (.request request)
    reply.Fills (place.look s).bytes channel.position request slices ∧
      reply.channel = channel.moveTo (channel.position + reply.given.length) ∧
      reply.state = s := by
  obtain ⟨result, filled, moved, state⟩ :=
    channel.perform_read place s isOpen readable reads offered
  obtain ⟨counted, front, beyond, lengths⟩ := (place.look s).read_fills channel.position slices
  have given := given_counted reads result
  rw [filled, front] at given
  have length := congrArg List.length given
  rw [List.length_take, List.length_drop, ← Buffer.size, ← counted] at length
  have counts : (channel.perform place.store s (.request request)).result = .ok (request.counted
      (if (place.look s).bytes.length ≤ channel.position then none
        else some (channel.perform place.store s (.request request)).given.length)) := by
    rw [result, length, Buffer.read, Buffer.size]
    by_cases ended : (place.look s).bytes.length ≤ channel.position
    · rw [if_pos ended, if_pos ended]
    · rw [if_neg ended, if_neg ended]
      rfl
  refine ⟨⟨given, ?_, ?_, counts, tellsEnd_iff reads given counts⟩, ?_, state⟩
  · rw [filled, length, beyond]
  · rw [filled, lengths]
  · rw [moved, length]

end Channel

structure Journal (ω : Type) where
  given : Bytes := []
  world : ω

namespace Scene

def hand (id : Nat) (reply : Reply (Scene (Journal ω)) (Outcome CallFailure Answer)) :
    Scene (Journal ω) :=
  let s := settle id reply
  { s with world := { s.world with given := s.world.given ++ reply.given } }

/-- What can come about while the channel `id` does nothing but read and nobody else does more to
the content than append to it. -/
inductive Following (room : Scene (Journal ω) → Memory) (id : Nat) :
    Scene (Journal ω) → Scene (Journal ω) → Prop
  | rest (s : Scene (Journal ω)) : Following room id s s
  | andThen {r s t : Scene (Journal ω)} :
      Following room id r s → Following room id s t → Following room id r t
  | elsewhere (s t : Scene (Journal ω)) (content : t.buffer.bytes = s.buffer.bytes)
      (reader : t.channels[id]? = s.channels[id]?) (given : t.world.given = s.world.given) :
      Following room id s t
  | reads (s : Scene (Journal ω)) (channel : Channel) (there : s.channels[id]? = some channel)
      (request : Request) (reads : request.isRead = true) :
      Following room id s (hand id (channel.perform (place room).store s (.request request)))
  | append (s : Scene (Journal ω)) (payload : List Bytes) :
      Following room id s ((place room).store.append payload s).2
  | copyOut (s : Scene (Journal ω)) (position count : Nat) (sink : Sink (Scene (Journal ω)))
      (peer : ∀ offered s, Following room id s (sink offered s).2) :
      Following room id s ((place room).store.copyOut position count sink s).2
  | copyInAtEnd (s : Scene (Journal ω)) (source : Source (Scene (Journal ω))) (count : Nat)
      (peer : ∀ slice s, Following room id s (source slice s).2) :
      Following room id s ((place room).store.copyInAtEnd source count s).2
  | request (s : Scene (Journal ω)) (other : Nat) (distinct : other ≠ id) (channel : Channel)
      (there : s.channels[other]? = some channel) (request : Request)
      (appends : channel.OnlyAppends (.request request : Call (Scene (Journal ω)))) :
      Following room id s
        (settle other (channel.perform (place room).store s (.request request)))
  | channelCopyOut (s : Scene (Journal ω)) (other : Nat) (distinct : other ≠ id)
      (channel : Channel) (there : s.channels[other]? = some channel) (position count : Nat)
      (sink : Sink (Scene (Journal ω))) (peer : ∀ offered s, Following room id s (sink offered s).2)
      (appends : channel.OnlyAppends (.copyOut position count sink)) :
      Following room id s
        (settle other (channel.perform (place room).store s (.copyOut position count sink)))
  | channelCopyIn (s : Scene (Journal ω)) (other : Nat) (distinct : other ≠ id)
      (channel : Channel) (there : s.channels[other]? = some channel)
      (source : Source (Scene (Journal ω))) (position count : Nat)
      (peer : ∀ slice s, Following room id s (source slice s).2)
      (appends : channel.OnlyAppends (.copyIn source position count)) :
      Following room id s
        (settle other (channel.perform (place room).store s (.copyIn source position count)))

variable {room : Scene (Journal ω) → Memory} {id : Nat} {reader : Channel}

structure Tracks (id : Nat) (reader : Channel) (s : Scene (Journal ω)) : Prop where
  stands : s.channels[id]? = some (reader.moveTo (reader.position + s.world.given.length))
  given : s.world.given <+: s.buffer.bytes.drop reader.position

theorem place_tracks :
    (place room).KeepsIn (fun use => use = .reading ∨ use = .appending) (Tracks id reader) where
  write := nofun
  append := by
    intro _ payload s before
    rcases @Buffer.append_cases (room s) s.buffer payload with ⟨_, appended⟩ | ⟨error, _, refused⟩
    · simp only [place, appended]
      refine ⟨before.stands, before.given.trans ?_⟩
      rw [List.drop_append]
      exact List.prefix_append _ _
    · simp only [place, refused]
      exact ⟨before.stands, before.given⟩
  truncate := nofun
  release _ before := ⟨before.stands, before.given⟩

theorem settle_tracks {α : Type} {other : Nat} (distinct : other ≠ id)
    {reply : Reply (Scene (Journal ω)) α} (after : Tracks id reader reply.state) :
    Tracks id reader (settle other reply) where
  stands := by
    simp only [settle, List.getElem?_set_ne distinct]
    exact after.stands
  given := after.given

section

variable (isOpen : reader.isOpen = true) (readable : reader.capabilities.isReadable = true)

include isOpen readable

/-- A read hands over the content that comes next, and the cursor ends after it. -/
theorem hand_tracks {s : Scene (Journal ω)} (before : Tracks id reader s) {request : Request}
    (reads : request.isRead = true) :
    let channel := reader.moveTo (reader.position + s.world.given.length)
    Tracks id reader
      (hand id (channel.perform (place room).store s (.request request))) := by
  intro channel
  obtain ⟨slices, offered⟩ : ∃ slices, request.slices? = some slices := by
    cases request with
    | read slices => exact ⟨slices, rfl⟩
    | streamRead slice => exact ⟨[slice], rfl⟩
    | _ => cases reads
  obtain ⟨fills, moved, state⟩ := channel.perform_fills (place room) s isOpen readable reads offered
  obtain ⟨rest, whole⟩ := before.given
  constructor
  · have inside : id < s.channels.length := (List.getElem?_eq_some_iff.mp before.stands).1
    simp only [hand, settle, state, moved, List.getElem?_set_self inside, List.length_append,
      channel, Channel.moveTo_position, Channel.moveTo_moveTo, Nat.add_assoc]
  · have next : s.buffer.bytes.drop channel.position = rest := by
      rw [Channel.moveTo_position, ← List.drop_drop, ← whole, List.drop_left]
    have given := fills.given
    rw [show (place room).look s = s.buffer from rfl, next] at given
    simp only [hand, settle, state, given]
    rw [← whole]
    exact (List.prefix_append_right_inj _).mpr (List.take_prefix _ _)

/-- By induction over the course. Peers take courses of their own, as in the courses of a scene. -/
theorem Following.tracks {s t : Scene (Journal ω)} (course : Following room id s t)
    (before : Tracks id reader s) : Tracks id reader t := by
  have work := Place.store_keepsIn (@place_tracks _ room id reader)
  induction course with
  | rest s => exact before
  | andThen first second firstTracks secondTracks => exact secondTracks (firstTracks before)
  | elsewhere s t content stands given =>
    constructor
    · rw [stands, given]
      exact before.stands
    · rw [content, given]
      exact before.given
  | reads s channel there request reads =>
    cases Option.some.inj (there.symm.trans before.stands)
    exact hand_tracks isOpen readable before reads
  | append s payload => exact work.append (.inr rfl) payload s before
  | copyOut s position count sink peer peerTracks =>
    exact work.copyOut (.inl rfl) position count sink (fun offered s => peerTracks offered s) s
      before
  | copyInAtEnd s source count peer peerTracks =>
    exact work.copyInAtEnd (.inr rfl) source count (fun slice s => peerTracks slice s) s before
  | request s other distinct channel there request appends =>
    exact settle_tracks distinct
      (@Channel.perform_keepsIn _ _ _ _ work channel (.request request) trivial appends s before)
  | channelCopyOut s other distinct channel there position count sink peer appends peerTracks =>
    exact settle_tracks distinct (@Channel.perform_keepsIn _ _ _ _ work channel
      (.copyOut position count sink) (fun offered s => peerTracks offered s) appends s before)
  | channelCopyIn s other distinct channel there source position count peer appends peerTracks =>
    exact settle_tracks distinct (@Channel.perform_keepsIn _ _ _ _ work channel
      (.copyIn source position count) (fun slice s => peerTracks slice s) appends s before)

theorem Tracks.fills {s : Scene (Journal ω)} (now : Tracks id reader s) {channel : Channel}
    (stands : s.channels[id]? = some channel) {request : Request} {slices : List Bytes}
    (reads : request.isRead = true) (offered : request.slices? = some slices) :
    (channel.perform (place room).store s (.request request)).Fills s.buffer.bytes
      channel.position request slices := by
  cases Option.some.inj (stands.symm.trans now.stands)
  let channel := reader.moveTo (reader.position + s.world.given.length)
  exact (channel.perform_fills (place room) s isOpen readable reads offered).1

end

theorem following_gives_once {start s : Scene (Journal ω)}
    (there : start.channels[id]? = some reader) (isOpen : reader.isOpen = true)
    (readable : reader.capabilities.isReadable = true) (fresh : start.world.given = [])
    (course : Following room id start s) :
    ∃ channel, s.channels[id]? = some channel ∧
      channel.position = reader.position + s.world.given.length ∧
      s.world.given =
        (s.buffer.bytes.drop reader.position).take (channel.position - reader.position) ∧
      (∀ request slices, request.isRead = true → request.slices? = some slices →
        (channel.perform (place room).store s (.request request)).Fills s.buffer.bytes
          channel.position request slices) ∧
      ∀ t later, Following room id s t → t.channels[id]? = some later →
        later.position < t.buffer.size → ∀ request slices, request.isRead = true →
          request.slices? = some slices → slices.flatten ≠ [] →
            let reply := later.perform (place room).store t (.request request)
            reply.tellsEnd = false ∧ reply.given ≠ [] := by
  have begins : Tracks id reader start := by
    constructor
    · rw [fresh]
      exact there
    · rw [fresh]
      exact List.nil_prefix
  have now := course.tracks isOpen readable begins
  refine ⟨_, now.stands, rfl, ?_, ?_, ?_⟩
  · obtain ⟨rest, whole⟩ := now.given
    rw [← whole, Channel.moveTo_position, Nat.add_sub_cancel_left, List.take_left]
  · intro request slices reads offered
    exact now.fills isOpen readable now.stands reads offered
  · intro t later further stands ahead request slices reads offered nonempty
    have fills : (later.perform (place room).store t (.request request)).Fills t.buffer.bytes
        later.position request slices :=
      (further.tracks isOpen readable now).fills isOpen readable stands reads offered
    constructor
    · exact Bool.eq_false_iff.mpr fun ended =>
        Nat.not_le_of_lt ahead ((fills.ends (.inr nonempty)).mp ended)
    · rw [fills.given, ← List.length_pos_iff, List.length_take, List.length_drop]
      have some := List.length_pos_iff.mpr nonempty
      rw [Buffer.size] at ahead
      omega

def pastEnd : Scene (Journal Unit) :=
  { buffer := .ofBytes [1, 2]
    channels :=
      [{ capabilities := { read := true }, position := 3 }, .opened { append := true }]
    world := { world := () } }

def caughtUp : Scene (Journal Unit) :=
  let store := (place fun _ => Memory.standard).store
  let reader : Channel := { capabilities := { read := true }, position := 3 }
  let waited := hand 0 (reader.perform store pastEnd (.request (.streamRead [0])))
  let grown := settle 1 ((Channel.opened { append := true }).perform store waited
    (.request (.write [[7, 8], [9]])))
  hand 0 (reader.perform store grown (.request (.read [[0], [0, 0, 0]])))

theorem caughtUp_gives_once :
    Following (fun _ => Memory.standard) 0 pastEnd caughtUp ∧ caughtUp.world.given = [8, 9] ∧
      ∃ channel, caughtUp.channels[0]? = some channel ∧
        caughtUp.world.given = (caughtUp.buffer.bytes.drop 3).take (channel.position - 3) := by
  have course : Following (fun _ => Memory.standard) 0 pastEnd caughtUp := by
    refine .andThen (.andThen (.reads pastEnd _ rfl (.streamRead [0]) rfl) ?_)
      (.reads _ _ (by decide) (.read [[0], [0, 0, 0]]) rfl)
    exact .request _ 1 (by decide) _ (by decide) (.write [[7, 8], [9]])
      (Channel.onlyAppends_of_appending rfl rfl)
  obtain ⟨channel, stands, _, given, _⟩ := following_gives_once rfl rfl rfl rfl course
  exact ⟨course, by decide, channel, stands, given⟩

end Scene

end SharedBytes
