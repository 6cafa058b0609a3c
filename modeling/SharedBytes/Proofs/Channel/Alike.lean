import SharedBytes.Channel.Request
import SharedBytes.Proofs.Channel.Calls
import SharedBytes.Proofs.Transfer.Alike
import SharedBytes.Store.Probe

/-!
# Channels that go alike

One channel makes one call over two stores, in two states that are related. It turns to its store
only in the ways that its capabilities and the call allow, which `Channel.use?` names. If in those
ways the two stores answer alike and leave related states behind, then so does the channel: its
caller cannot tell the one from the other.
-/

namespace SharedBytes

variable {σ τ α : Type}

/-- The ways in which a channel uses its store, apart from asking for the size. -/
inductive Use where
  | reading
  | writing
  | appending
  | cutting
deriving DecidableEq, Repr

def Channel.reading? (channel : Channel) : Option Use :=
  if channel.capabilities.isReadable then some .reading else none

def Channel.writing? (channel : Channel) : Option Use :=
  if channel.capabilities.isAppending then some .appending
  else if channel.capabilities.isWritable then some .writing
  else none

def Channel.use? (channel : Channel) : Call σ → Option Use
  | .request (.read _) | .request (.readAt _ _) | .request (.streamRead _)
  | .request (.readExact _) | .copyOut _ _ _ => channel.reading?
  | .request (.write _) | .request (.writeAt _ _) | .request (.streamWrite _)
  | .request (.writeAll _) | .copyIn _ _ _ => channel.writing?
  | .request (.truncate _) => if channel.capabilities.isWritable then some .cutting else none
  | .request _ => none

structure Store.Alike (related : σ → τ → Prop) (used : Use → Prop) (left : Store σ)
    (right : Store τ) : Prop where
  size : Action.Alike related left.size right.size
  read : used .reading → ∀ position slices,
    Action.Alike related (left.read position slices) (right.read position slices)
  write : used .writing → ∀ position payload,
    Action.Alike related (left.write position payload) (right.write position payload)
  append : used .appending → ∀ payload,
    Action.Alike related (left.append payload) (right.append payload)
  truncate : used .cutting → ∀ size,
    Action.Alike related (left.truncate size) (right.truncate size)
  release : ∀ s t, related s t → related (left.release s) (right.release t)

/-- Two calls that differ in their peers only, whose transfers go alike. -/
inductive Call.Alike (related : σ → τ → Prop) (used : Use → Prop) (left : Store σ)
    (right : Store τ) : Call σ → Call τ → Prop
  | request (plain : Request) : Alike related used left right (.request plain) (.request plain)
  | copyOut {sink : Sink σ} {sink' : Sink τ} (position count : Nat)
      (reading : used .reading → Action.Alike related (left.copyOut position count sink)
        (right.copyOut position count sink')) :
      Alike related used left right (.copyOut position count sink) (.copyOut position count sink')
  | copyIn {source : Source σ} {source' : Source τ} (position count : Nat)
      (writing : used .writing → Action.Alike related (left.copyIn source position count)
        (right.copyIn source' position count))
      (appending : used .appending → Action.Alike related (left.copyInAtEnd source count)
        (right.copyInAtEnd source' count)) :
      Alike related used left right (.copyIn source position count)
        (.copyIn source' position count)

/-- Two replies that nobody can tell apart but by their states, which are related. -/
structure Reply.Alike (related : σ → τ → Prop) (left : Reply σ α) (right : Reply τ α) : Prop where
  result : left.result = right.result
  channel : left.channel = right.channel
  slices : left.slices = right.slices
  events : left.events = right.events
  state : related left.state right.state

variable {related : σ → τ → Prop} {used : Use → Prop} {left : Store σ} {right : Store τ}
  {s : σ} {t : τ}

theorem Reply.Alike.map {β : Type} {reply : Reply σ α} {reply' : Reply τ α}
    (alike : reply.Alike related reply') (f : α → β) :
    Reply.Alike related { reply with result := f reply.result }
      { reply' with result := f reply'.result } where
  result := congrArg f alike.result
  channel := alike.channel
  slices := alike.slices
  events := alike.events
  state := alike.state

theorem Action.Alike.given (answer : α) :
    Action.Alike related (fun s => (answer, s)) (fun t => (answer, t)) :=
  fun _ _ before => ⟨rfl, before⟩

theorem Action.Alike.noted {action : Action σ α} {action' : Action τ α} {note : σ → σ}
    {note' : τ → τ} (alike : Action.Alike related action action')
    (notes : ∀ s t, related s t → related (note s) (note' t)) :
    Action.Alike related (fun s => action (note s)) (fun t => action' (note' t)) :=
  fun s t before => alike (note s) (note' t) (notes s t before)

section

variable {note : StoreCall → σ → σ} {note' : StoreCall → τ → τ}
  (notes : ∀ call s t, related s t → related (note call s) (note' call t))

include notes

theorem Store.Alike.noting (stores : Store.Alike related used left right) :
    Store.Alike related used (left.noting note) (right.noting note') where
  size := stores.size.noted (notes _)
  read reading position slices := (stores.read reading position slices).noted (notes _)
  write writing position payload := (stores.write writing position payload).noted (notes _)
  append appending payload := (stores.append appending payload).noted (notes _)
  truncate cutting size := (stores.truncate cutting size).noted (notes _)
  release := stores.release

theorem Call.Alike.noting {call : Call σ} {call' : Call τ}
    (calls : Call.Alike related used left right call call') :
    Call.Alike related used (left.noting note) (right.noting note') call call' := by
  cases calls with
  | request plain => exact .request plain
  | copyOut position count reading =>
    exact .copyOut position count fun reads => (reading reads).noted (notes _)
  | copyIn position count writing appending =>
    exact .copyIn position count (fun writes => (writing writes).noted (notes _))
      fun appends => (appending appends).noted (notes _)

end

theorem Store.Alike.replying (fixed : FixedReplies)
    (stores : Store.Alike related used left right) :
    Store.Alike related used (left.replying fixed) (right.replying fixed) := by
  constructor
  · cases reply : fixed.size <;> simp only [Store.replying, reply]
    · exact stores.size
    · exact .given _
  · intro reading position slices
    cases reply : fixed.read <;> simp only [Store.replying, reply]
    · exact stores.read reading position slices
    · exact .given _
  · intro writing position payload
    cases reply : fixed.write <;> simp only [Store.replying, reply]
    · exact stores.write writing position payload
    · exact .given _
  · intro appending payload
    cases reply : fixed.append <;> simp only [Store.replying, reply]
    · exact stores.append appending payload
    · exact .given _
  · intro cutting size
    cases reply : fixed.truncate <;> simp only [Store.replying, reply]
    · exact stores.truncate cutting size
    · exact .given _
  · exact stores.release

theorem Call.Alike.replying (fixed : FixedReplies) {call : Call σ} {call' : Call τ}
    (calls : Call.Alike related used left right call call') :
    Call.Alike related used (left.replying fixed) (right.replying fixed) call call' := by
  cases calls with
  | request plain => exact .request plain
  | copyOut position count reading =>
    refine .copyOut position count fun reads => ?_
    cases reply : fixed.copyOut <;> simp only [Store.replying, reply]
    · exact reading reads
    · exact .given _
  | copyIn position count writing appending =>
    refine .copyIn position count (fun writes => ?_) fun appends => ?_
    · cases reply : fixed.copyIn <;> simp only [Store.replying, reply]
      · exact writing writes
      · exact .given _
    · cases reply : fixed.copyInAtEnd <;> simp only [Store.replying, reply]
      · exact appending appends
      · exact .given _

theorem Buffer.read_congr {buffer other : Buffer} (same : buffer.bytes = other.bytes)
    (position : Nat) (slices : List Bytes) :
    buffer.read position slices = other.read position slices := by
  rw [read, read, size, size, same]

structure Place.Alike (related : σ → τ → Prop) (used : Use → Prop) (place : Place σ)
    (place' : Place τ) : Prop where
  content : ∀ s t, related s t → (place.look s).bytes = (place'.look t).bytes
  write : used .writing → ∀ position payload,
    Action.Alike related (place.write position payload) (place'.write position payload)
  append : used .appending → ∀ payload,
    Action.Alike related (place.append payload) (place'.append payload)
  truncate : used .cutting → ∀ size s t, related s t →
    related (place.truncate size s) (place'.truncate size t)
  release : ∀ s t, related s t → related (place.release s) (place'.release t)

inductive Call.PeersAlike (related : σ → τ → Prop) : Call σ → Call τ → Prop
  | request (plain : Request) : PeersAlike related (.request plain) (.request plain)
  | copyOut {sink : Sink σ} {sink' : Sink τ} (position count : Nat)
      (sinks : ∀ offered, Action.Alike related (sink offered) (sink' offered)) :
      PeersAlike related (.copyOut position count sink) (.copyOut position count sink')
  | copyIn {source : Source σ} {source' : Source τ} (position count : Nat)
      (sources : ∀ slice, Action.Alike related (source slice) (source' slice)) :
      PeersAlike related (.copyIn source position count) (.copyIn source' position count)

namespace Place.Alike

variable {place : Place σ} {place' : Place τ} (places : Place.Alike related used place place')

include places

theorem sizes (s : σ) (t : τ) (before : related s t) :
    (place.look s).size = (place'.look t).size :=
  congrArg List.length (places.content s t before)

theorem store : Store.Alike related used place.store place'.store where
  size s t before := ⟨places.sizes s t before, before⟩
  read _ position slices s t before := by
    refine ⟨?_, before⟩
    simp only [Place.store, Buffer.read_congr (places.content s t before)]
  write := places.write
  append := places.append
  truncate cutting size s t before := ⟨rfl, places.truncate cutting size s t before⟩
  release := places.release

theorem calls {call : Call σ} {call' : Call τ} (peers : Call.PeersAlike related call call') :
    Call.Alike related used place.store place'.store call call' := by
  cases peers with
  | request plain => exact .request plain
  | copyOut position count sinks =>
    exact .copyOut position count fun _ => copyOut_alike places.content sinks position count
  | copyIn position count sources =>
    exact .copyIn position count
      (fun writing => copyIn_alike places.sizes (places.write writing) sources position count)
      fun appending => copyInAtEnd_alike places.sizes (places.append appending) sources count

end Place.Alike

namespace Channel

variable {channel : Channel}

theorem attempt_alike {requirement : Requirement} {arguments : List Argument}
    {slices : List Bytes} {refused : ChannelFailure → α} {call : σ → Reply σ α}
    {call' : τ → Reply τ α} (before : related s t)
    (allowed : channel.refusal? requirement arguments = none →
      (call s).Alike related (call' t)) :
    (channel.attempt requirement arguments slices s refused call).Alike related
      (channel.attempt requirement arguments slices t refused call') := by
  rw [attempt, attempt]
  cases verdict : channel.refusal? requirement arguments with
  | some failure => exact ⟨rfl, rfl, rfl, rfl, before⟩
  | none => exact allowed verdict

theorem readable_of_allowed {arguments : List Argument}
    (allowed : channel.refusal? .readable arguments = none) :
    channel.capabilities.isReadable = true := by
  have present := ((channel.refusal?_eq_none_iff _ _).mp allowed).2.2
  simpa [missing?] using present

theorem writable_of_allowed {arguments : List Argument}
    (allowed : channel.refusal? .writable arguments = none) :
    channel.capabilities.isWritable = true := by
  have present := ((channel.refusal?_eq_none_iff _ _).mp allowed).2.2
  simpa [missing?] using present

theorem reads_of_use (uses : ∀ use, channel.reading? = some use → used use)
    (readable : channel.capabilities.isReadable = true) : used .reading :=
  uses .reading (if_pos readable)

theorem appends_of_use (uses : ∀ use, channel.writing? = some use → used use)
    (appending : channel.capabilities.isAppending = true) : used .appending :=
  uses .appending (if_pos appending)

theorem writes_of_use (uses : ∀ use, channel.writing? = some use → used use)
    (writable : channel.capabilities.isWritable = true)
    (positional : channel.capabilities.isAppending = false) : used .writing := by
  apply uses
  rw [writing?, positional, if_neg Bool.false_ne_true, if_pos writable]

@[simp] theorem read_capabilities (store : Store σ) (slices : List Bytes) :
    (channel.read store slices s).channel.capabilities = channel.capabilities := by
  cases refused : channel.refusal? .readable [] with
  | some failure => simp only [read, attempt, refused]
  | none =>
    rw [(read_allowed store refused slices s).2.2.1]
    cases (store.read channel.position slices s).1.1 <;> rfl

@[simp] theorem write_capabilities (store : Store σ) (payload : List Bytes) :
    (channel.write store payload s).channel.capabilities = channel.capabilities := by
  cases refused : channel.refusal? .writable [] with
  | some failure => simp only [write, attempt, refused]
  | none =>
    cases mode : channel.capabilities.isAppending with
    | true =>
      rw [(write_appending store refused mode payload s).2.1]
      cases (store.append payload s).1 <;> rfl
    | false =>
      rw [(write_positional store refused mode payload s).2.1]
      cases (store.write channel.position payload s).1 <;> rfl

theorem cursor_alike (before : related s t) :
    (channel.cursor s).Alike related (channel.cursor t) :=
  attempt_alike before fun _ => ⟨rfl, rfl, rfl, rfl, before⟩

theorem setPosition_alike (position : Nat) (before : related s t) :
    (channel.setPosition position s).Alike related (channel.setPosition position t) :=
  attempt_alike before fun _ => ⟨rfl, rfl, rfl, rfl, before⟩

theorem flush_alike (metadata : Bool) (before : related s t) :
    (channel.flush metadata s).Alike related (channel.flush metadata t) :=
  attempt_alike before fun _ => ⟨rfl, rfl, rfl, rfl, before⟩

theorem lock_alike (position size : Nat) (shared : Bool) (before : related s t) :
    (channel.lock position size shared s).Alike related
      (channel.lock position size shared t) := by
  rw [lock, lock]
  exact attempt_alike before fun _ => ⟨rfl, rfl, rfl, rfl, before⟩

section

variable (stores : Store.Alike related used left right) (before : related s t)

include stores before

theorem size_alike : (channel.size left s).Alike related (channel.size right t) := by
  refine attempt_alike before fun _ => ?_
  obtain ⟨same, after⟩ := stores.size s t before
  exact ⟨congrArg Except.ok same, rfl, rfl, rfl, after⟩

theorem seek_alike (target : SeekTarget) :
    (channel.seek left target s).Alike related (channel.seek right target t) := by
  refine attempt_alike before fun _ => ?_
  have resolves : Action.Alike related (channel.resolve left target)
      (channel.resolve right target) := by
    intro s t before
    cases target with
    | start offset => exact ⟨rfl, before⟩
    | current delta => exact ⟨rfl, before⟩
    | ending delta =>
      obtain ⟨same, after⟩ := stores.size s t before
      exact ⟨congrArg (fun size : Nat => (size : Int) + delta) same, after⟩
  obtain ⟨position, next, next', fromLeft, fromRight, after⟩ := resolves.answers before
  rw [fromLeft, fromRight]
  by_cases inRange : 0 ≤ position ∧ position ≤ maxPosition
  · simp only [if_pos inRange]
    exact ⟨rfl, rfl, rfl, rfl, after⟩
  · simp only [if_neg inRange]
    exact ⟨rfl, rfl, rfl, rfl, after⟩

theorem close_alike : (channel.close left s).Alike related (channel.close right t) := by
  rw [close, close]
  cases channel.isOpen with
  | true => exact ⟨rfl, rfl, rfl, rfl, stores.release s t before⟩
  | false => exact ⟨rfl, rfl, rfl, rfl, before⟩

theorem drop_alike : (channel.drop left s).Alike related (channel.drop right t) := by
  rw [drop, drop]
  cases channel.isOpen with
  | true => exact ⟨rfl, rfl, rfl, rfl, stores.release s t before⟩
  | false => exact ⟨rfl, rfl, rfl, rfl, before⟩

theorem truncate_alike (cuts : channel.capabilities.isWritable = true → used .cutting)
    (size : Nat) :
    (channel.truncate left size s).Alike related (channel.truncate right size t) := by
  refine attempt_alike before fun allowed => ?_
  obtain ⟨answer, next, next', fromLeft, fromRight, after⟩ :=
    (stores.truncate (cuts (writable_of_allowed allowed)) size).answers before
  rw [fromLeft, fromRight]
  cases answer <;> exact ⟨rfl, rfl, rfl, rfl, after⟩

section

variable (uses : ∀ use, channel.reading? = some use → used use)

include uses

theorem read_alike (slices : List Bytes) :
    (channel.read left slices s).Alike related (channel.read right slices t) := by
  refine attempt_alike before fun allowed => ?_
  obtain ⟨⟨answer, filled⟩, next, next', fromLeft, fromRight, after⟩ :=
    (stores.read (reads_of_use uses (readable_of_allowed allowed)) channel.position
      slices).answers before
  rw [fromLeft, fromRight]
  cases answer <;> exact ⟨rfl, rfl, rfl, rfl, after⟩

theorem streamRead_alike (slice : Bytes) :
    (channel.streamRead left slice s).Alike related (channel.streamRead right slice t) :=
  (read_alike stores before uses [slice]).map fun result => result.map (·.getD 0)

theorem readAt_alike (slice : Bytes) (position : Nat) :
    (channel.readAt left slice position s).Alike related
      (channel.readAt right slice position t) := by
  refine attempt_alike before fun allowed => ?_
  obtain ⟨⟨answer, filled⟩, next, next', fromLeft, fromRight, after⟩ :=
    (stores.read (reads_of_use uses (readable_of_allowed allowed)) position
      [slice]).answers before
  rw [fromLeft, fromRight]
  cases answer <;> exact ⟨rfl, rfl, rfl, rfl, after⟩

end

section

variable (uses : ∀ use, channel.writing? = some use → used use)

include uses

theorem write_alike (payload : List Bytes) :
    (channel.write left payload s).Alike related (channel.write right payload t) := by
  refine attempt_alike before fun allowed => ?_
  cases mode : channel.capabilities.isAppending with
  | true =>
    simp only [if_true]
    obtain ⟨answer, next, next', fromLeft, fromRight, after⟩ :=
      (stores.append (appends_of_use uses mode) payload).answers before
    rw [fromLeft, fromRight]
    cases answer <;> exact ⟨rfl, rfl, rfl, rfl, after⟩
  | false =>
    simp only [Bool.false_eq_true, if_false]
    obtain ⟨answer, next, next', fromLeft, fromRight, after⟩ :=
      (stores.write (writes_of_use uses (writable_of_allowed allowed) mode) channel.position
        payload).answers before
    rw [fromLeft, fromRight]
    cases answer <;> exact ⟨rfl, rfl, rfl, rfl, after⟩

theorem streamWrite_alike (bytes : Bytes) :
    (channel.streamWrite left bytes s).Alike related (channel.streamWrite right bytes t) :=
  write_alike stores before uses [bytes]

theorem writeAt_alike (payload : Bytes) (position : Nat) :
    (channel.writeAt left payload position s).Alike related
      (channel.writeAt right payload position t) := by
  refine attempt_alike before fun allowed => ?_
  cases mode : channel.capabilities.isAppending with
  | true =>
    simp only [if_true]
    obtain ⟨answer, next, next', fromLeft, fromRight, after⟩ :=
      (stores.append (appends_of_use uses mode) [payload]).answers before
    rw [fromLeft, fromRight]
    cases answer <;> exact ⟨rfl, rfl, rfl, rfl, after⟩
  | false =>
    simp only [Bool.false_eq_true, if_false]
    obtain ⟨answer, next, next', fromLeft, fromRight, after⟩ :=
      (stores.write (writes_of_use uses (writable_of_allowed allowed) mode) position
        [payload]).answers before
    rw [fromLeft, fromRight]
    cases answer <;> exact ⟨rfl, rfl, rfl, rfl, after⟩

end

end

theorem copyOut_alike {sink : Sink σ} {sink' : Sink τ} {position count : Nat}
    (before : related s t) (uses : ∀ use, channel.reading? = some use → used use)
    (reading : used .reading → Action.Alike related (left.copyOut position count sink)
      (right.copyOut position count sink')) :
    (channel.copyOut left position count sink s).Alike related
      (channel.copyOut right position count sink' t) := by
  refine attempt_alike before fun allowed => ?_
  obtain ⟨answer, next, next', fromLeft, fromRight, after⟩ :=
    (reading (reads_of_use uses (readable_of_allowed allowed))).answers before
  rw [fromLeft, fromRight]
  cases answer <;> exact ⟨rfl, rfl, rfl, rfl, after⟩

theorem copyIn_alike {source : Source σ} {source' : Source τ} {position count : Nat}
    (before : related s t) (uses : ∀ use, channel.writing? = some use → used use)
    (writing : used .writing → Action.Alike related (left.copyIn source position count)
      (right.copyIn source' position count))
    (appending : used .appending → Action.Alike related (left.copyInAtEnd source count)
      (right.copyInAtEnd source' count)) :
    (channel.copyIn left source position count s).Alike related
      (channel.copyIn right source' position count t) := by
  refine attempt_alike before fun allowed => ?_
  cases mode : channel.capabilities.isAppending with
  | true =>
    simp only [if_true]
    obtain ⟨answer, next, next', fromLeft, fromRight, after⟩ :=
      (appending (appends_of_use uses mode)).answers before
    rw [fromLeft, fromRight]
    cases answer <;> exact ⟨rfl, rfl, rfl, rfl, after⟩
  | false =>
    simp only [Bool.false_eq_true, if_false]
    obtain ⟨same, after⟩ :=
      writing (writes_of_use uses (writable_of_allowed allowed) mode) s t before
    exact ⟨congrArg (Outcome.mapError ChannelFailure.store) same, rfl, rfl, rfl, after⟩

section

variable (stores : Store.Alike related used left right)

include stores

/-- By induction over the rounds of a full read, in which the channel keeps its capabilities. -/
theorem fill_alike (channel : Channel)
    (uses : ∀ use, channel.reading? = some use → used use) (filled rest : Bytes)
    (events : List Event) (before : related s t) :
    (channel.fill left filled rest events s).Alike related
      (channel.fill right filled rest events t) := by
  induction length : rest.length using Nat.strongRecOn
    generalizing channel filled rest events s t with
  | ind size induction =>
    rw [fill, fill]
    by_cases full : rest = []
    · simp only [dif_pos full]
      exact ⟨rfl, rfl, rfl, rfl, before⟩
    · have alike := streamRead_alike stores before uses rest
      simp only [dif_neg full, ← alike.result, ← alike.channel, ← alike.slices, ← alike.events]
      cases reported : (channel.streamRead _ rest s).result with
      | error error => exact ⟨rfl, rfl, rfl, rfl, alike.state⟩
      | ok n =>
        cases n with
        | zero => exact ⟨rfl, rfl, rfl, rfl, alike.state⟩
        | succ n =>
          by_cases tooMany : rest.length < n + 1
          · simp only [if_pos tooMany]
            exact ⟨rfl, rfl, rfl, rfl, alike.state⟩
          · simp only [if_neg tooMany]
            refine induction _ ?_ _ ?_ _ _ _ alike.state rfl
            · simp only [List.length_drop, Bytes.length_overlay]
              omega
            · simpa [streamRead, reading?] using uses

/-- By induction over the rounds of a full write, in which the channel keeps its capabilities. -/
theorem spill_alike (channel : Channel)
    (uses : ∀ use, channel.writing? = some use → used use) (bytes : Bytes)
    (events : List Event) (before : related s t) :
    (channel.spill left bytes events s).Alike related (channel.spill right bytes events t) := by
  induction length : bytes.length using Nat.strongRecOn generalizing channel bytes events s t with
  | ind size induction =>
    rw [spill, spill]
    by_cases nothing : bytes = []
    · simp only [if_pos nothing]
      exact ⟨rfl, rfl, rfl, rfl, before⟩
    · have alike := streamWrite_alike stores before uses bytes
      simp only [if_neg nothing, ← alike.result, ← alike.channel, ← alike.events]
      cases reported : (channel.streamWrite _ bytes s).result with
      | error error => exact ⟨rfl, rfl, rfl, rfl, alike.state⟩
      | ok n =>
        cases n with
        | zero => exact ⟨rfl, rfl, rfl, rfl, alike.state⟩
        | succ n =>
          by_cases tooMany : bytes.length < n + 1
          · simp only [if_pos tooMany]
            exact ⟨rfl, rfl, rfl, rfl, alike.state⟩
          · simp only [if_neg tooMany]
            refine induction _ ?_ _ ?_ _ _ alike.state rfl
            · simp only [List.length_drop]
              omega
            · simpa [streamWrite, writing?] using uses

end

theorem answering_alike {β : Type} {reply : Reply σ (Except ChannelFailure β)}
    {reply' : Reply τ (Except ChannelFailure β)} (alike : reply.Alike related reply')
    (answer : β → Answer) :
    (reply.answering answer).Alike related (reply'.answering answer) :=
  alike.map fun result => ((Outcome.ofExcept result).map answer).mapError CallFailure.channel

section

variable (stores : Store.Alike related used left right) (before : related s t)

include stores before

theorem serve_alike (request : Request)
    (uses : ∀ use, channel.use? (.request request : Call σ) = some use → used use) :
    (channel.serve left s request).Alike related (channel.serve right t request) := by
  cases request with
  | read slices => exact answering_alike (read_alike stores before uses slices) _
  | readAt slice position =>
    exact answering_alike (readAt_alike stores before uses slice position) _
  | write payload => exact answering_alike (write_alike stores before uses payload) _
  | writeAt payload position =>
    exact answering_alike (writeAt_alike stores before uses payload position) _
  | cursor => exact answering_alike (cursor_alike before) _
  | size => exact answering_alike (size_alike stores before) _
  | setPosition position => exact answering_alike (setPosition_alike position before) _
  | seek target => exact answering_alike (seek_alike stores before target) _
  | truncate size =>
    have cuts (writable : channel.capabilities.isWritable = true) : used .cutting :=
      uses .cutting (if_pos writable)
    exact answering_alike (truncate_alike stores before cuts size) _
  | flush metadata => exact answering_alike (flush_alike metadata before) _
  | map mode position size => exact ⟨rfl, rfl, rfl, rfl, before⟩
  | lock position size shared => exact answering_alike (lock_alike position size shared before) _
  | tryLock position size shared =>
    exact answering_alike (lock_alike position size shared before) _
  | close => exact answering_alike (close_alike stores before) _
  | streamRead slice => exact answering_alike (streamRead_alike stores before uses slice) _
  | readExact slice => exact (fill_alike stores channel uses [] slice [] before).map _
  | streamWrite bytes => exact answering_alike (streamWrite_alike stores before uses bytes) _
  | writeAll bytes => exact (spill_alike stores channel uses bytes [] before).map _
  | streamFlush => exact answering_alike (flush_alike false before) _
  | streamSeek target => exact answering_alike (seek_alike stores before target) _
  | rewind => exact answering_alike (seek_alike stores before (.start 0)) _
  | streamPosition => exact answering_alike (seek_alike stores before (.current 0)) _

/-- A channel that uses its store in allowed ways only cannot tell two stores apart that answer
alike in those ways, nor can its caller. -/
theorem perform_alike {call : Call σ} {call' : Call τ}
    (calls : Call.Alike related used left right call call')
    (uses : ∀ use, channel.use? call = some use → used use) :
    (channel.perform left s call).Alike related (channel.perform right t call') := by
  cases calls with
  | request plain => exact serve_alike stores before plain uses
  | copyOut position count reading => exact answering_alike (copyOut_alike before uses reading) _
  | copyIn position count writing appending =>
    have transfer := copyIn_alike before uses writing appending
    exact transfer.map fun result => (result.map Answer.number).mapError CallFailure.channel

end

end Channel

end SharedBytes
