import SharedBytes.Channel.Stream

/-!
# What the calls of a channel come to

A call that is not refused passes the store's answer on, leaves the state as the store leaves it,
and moves the cursor by what the store reports. A failure of the store leaves the cursor in place.
-/

namespace SharedBytes.Channel

variable {σ : Type} (store : Store σ) (channel : Channel)

@[simp] theorem moveTo_capabilities (position : Nat) :
    (channel.moveTo position).capabilities = channel.capabilities := rfl

@[simp] theorem moveTo_position (position : Nat) :
    (channel.moveTo position).position = position := rfl

@[simp] theorem moveTo_moveTo (earlier later : Nat) :
    (channel.moveTo earlier).moveTo later = channel.moveTo later := rfl

theorem refusal?_eq_none_iff (requirement : Requirement) (arguments : List Argument) :
    channel.refusal? requirement arguments = none ↔
      (∀ argument ∈ arguments, argument.2 ≤ maxPosition) ∧ channel.isOpen = true ∧
        channel.missing? requirement = none := by
  rw [refusal?]
  cases found : arguments.find? fun argument => maxPosition < argument.2 with
  | some argument =>
    have tooLarge : maxPosition < argument.2 := by simpa using List.find?_some found
    have member := List.mem_of_find?_eq_some found
    simp only [reduceCtorEq, false_iff]
    intro allowed
    exact absurd (allowed.1 argument member) (Nat.not_le_of_lt tooLarge)
  | none =>
    have inRange : ∀ argument ∈ arguments, argument.2 ≤ maxPosition := by
      simpa using List.find?_eq_none.mp found
    cases channel.isOpen with
    | true =>
      constructor
      · intro present
        exact ⟨inRange, rfl, present⟩
      · intro allowed
        exact allowed.2.2
    | false => simp

theorem readable_allowed {arguments : List Argument} (isOpen : channel.isOpen = true)
    (readable : channel.capabilities.isReadable = true)
    (inRange : ∀ argument ∈ arguments, argument.2 ≤ maxPosition) :
    channel.refusal? .readable arguments = none := by
  apply (channel.refusal?_eq_none_iff .readable arguments).mpr
  refine ⟨inRange, isOpen, ?_⟩
  rw [missing?, if_pos readable]

theorem writable_allowed {arguments : List Argument} (isOpen : channel.isOpen = true)
    (writable : channel.capabilities.isWritable = true)
    (inRange : ∀ argument ∈ arguments, argument.2 ≤ maxPosition) :
    channel.refusal? .writable arguments = none := by
  apply (channel.refusal?_eq_none_iff .writable arguments).mpr
  refine ⟨inRange, isOpen, ?_⟩
  rw [missing?, if_pos writable]

theorem writable_of_appending (appending : channel.capabilities.isAppending = true) :
    channel.capabilities.isWritable = true := by
  simp [Capabilities.isWritable, show channel.capabilities.append = true from appending]

theorem justOpen_allowed (isOpen : channel.isOpen = true) : channel.refusal? .justOpen [] = none :=
  (channel.refusal?_eq_none_iff .justOpen []).mpr ⟨nofun, isOpen, rfl⟩

theorem attempt_channel {α : Type} {requirement : Requirement} {arguments : List Argument}
    {slices : List Bytes} {s : σ} {refused : ChannelFailure → α} {call : σ → Reply σ α}
    (same : (call s).channel = channel) :
    (channel.attempt requirement arguments slices s refused call).channel = channel := by
  rw [attempt]
  cases channel.refusal? requirement arguments with
  | some failure => rfl
  | none => exact same

@[simp] theorem cursor_channel (s : σ) : (channel.cursor s).channel = channel :=
  channel.attempt_channel rfl

@[simp] theorem flush_channel (metadata : Bool) (s : σ) :
    (channel.flush metadata s).channel = channel :=
  channel.attempt_channel rfl

@[simp] theorem lock_channel (position size : Nat) (shared : Bool) (s : σ) :
    (channel.lock position size shared s).channel = channel :=
  channel.attempt_channel rfl

def answered {α ε : Type} (channel : Channel) (answer : Except ε α) (position : α → Nat) :
    Channel :=
  match answer with
  | .ok value => channel.moveTo (position value)
  | .error _ => channel

/-- Where the cursor comes to lie when a write to a content of this size has been answered. -/
def landing (channel : Channel) (size : Nat) : Except StoreFailure Nat → Nat
  | .ok written => (if channel.capabilities.isAppending then size else channel.position) + written
  | .error _ => channel.position

variable {channel}

variable (channel) in
theorem landing_positional (positional : channel.capabilities.isAppending = false) (size : Nat)
    (answer : Except StoreFailure Nat) :
    channel.landing size answer = channel.position + answer.toOption.getD 0 := by
  unfold landing
  rw [positional]
  cases answer <;> rfl

theorem write_lands (positional : channel.capabilities.isAppending = false) (size : Nat)
    (answer : Except StoreFailure Nat) :
    channel.answered answer (channel.position + ·) =
      channel.moveTo (channel.landing size answer) := by
  rw [channel.landing_positional positional]
  cases answer <;> rfl

theorem append_lands [Memory] (appending : channel.capabilities.isAppending = true)
    (buffer : Buffer) (payload : List Bytes) :
    channel.answered (buffer.append payload).1 (·.size) =
      channel.moveTo
        (channel.landing buffer.size ((buffer.append payload).1.map (·.written))) := by
  rcases buffer.append_cases payload with ⟨_, stored⟩ | ⟨error, _, refused⟩
  · rw [stored]
    change channel.moveTo _ = channel.moveTo ((if _ then _ else _) + _)
    rw [if_pos appending]
  · rw [refused]
    rfl

theorem read_allowed (allowed : channel.refusal? .readable [] = none) (slices : List Bytes)
    (s : σ) :
    let reply := channel.read store slices s
    let answer := store.read channel.position slices s
    reply.result = answer.1.1.mapError .store ∧ reply.slices = answer.1.2 ∧
      reply.channel = channel.answered answer.1.1 (fun count => channel.position + count.getD 0) ∧
      reply.state = answer.2 := by
  simp only [read, attempt, allowed]
  rcases store.read channel.position slices s with ⟨⟨error | count, slices⟩, next⟩ <;>
    exact ⟨rfl, rfl, rfl, rfl⟩

theorem streamRead_allowed (allowed : channel.refusal? .readable [] = none) (slice : Bytes)
    (s : σ) :
    let reply := channel.streamRead store slice s
    let answer := store.read channel.position [slice] s
    reply.result = (answer.1.1.map (·.getD 0)).mapError .store ∧
      reply.channel = channel.answered answer.1.1 (fun count => channel.position + count.getD 0) ∧
      reply.state = answer.2 := by
  obtain ⟨result, _, moved, state⟩ := read_allowed store allowed [slice] s
  refine ⟨?_, moved, state⟩
  rw [streamRead, result]
  cases (store.read channel.position [slice] s).1.1 <;> rfl

theorem readAt_allowed {position : Nat}
    (allowed : channel.refusal? .readable [("position", position)] = none) (slice : Bytes)
    (s : σ) :
    let reply := channel.readAt store slice position s
    let answer := store.read position [slice] s
    reply.result = answer.1.1.mapError .store ∧ reply.slices = answer.1.2 ∧
      reply.channel = channel ∧ reply.state = answer.2 := by
  simp only [readAt, attempt, allowed]
  rcases store.read position [slice] s with ⟨⟨error | count, slices⟩, next⟩ <;>
    exact ⟨rfl, rfl, rfl, rfl⟩

theorem write_appending (allowed : channel.refusal? .writable [] = none)
    (appending : channel.capabilities.isAppending = true) (payload : List Bytes) (s : σ) :
    let reply := channel.write store payload s
    let answer := store.append payload s
    reply.result = (answer.1.map (·.written)).mapError .store ∧
      reply.channel = channel.answered answer.1 (·.size) ∧ reply.state = answer.2 := by
  simp only [write, attempt, allowed, if_pos appending]
  rcases store.append payload s with ⟨error | appended, next⟩ <;> exact ⟨rfl, rfl, rfl⟩

theorem write_positional (allowed : channel.refusal? .writable [] = none)
    (positional : channel.capabilities.isAppending = false) (payload : List Bytes) (s : σ) :
    let reply := channel.write store payload s
    let answer := store.write channel.position payload s
    reply.result = answer.1.mapError .store ∧
      reply.channel = channel.answered answer.1 (channel.position + ·) ∧
      reply.state = answer.2 := by
  simp only [write, attempt, allowed, if_neg (Bool.not_eq_true _ ▸ positional)]
  rcases store.write channel.position payload s with ⟨error | written, next⟩ <;>
    exact ⟨rfl, rfl, rfl⟩

theorem writeAt_appending {position : Nat}
    (allowed : channel.refusal? .writable [("position", position)] = none)
    (appending : channel.capabilities.isAppending = true) (payload : Bytes) (s : σ) :
    let reply := channel.writeAt store payload position s
    let answer := store.append [payload] s
    reply.result = (answer.1.map (·.written)).mapError .store ∧
      reply.channel = channel.answered answer.1 (·.size) ∧ reply.state = answer.2 := by
  simp only [writeAt, attempt, allowed, if_pos appending]
  rcases store.append [payload] s with ⟨error | appended, next⟩ <;> exact ⟨rfl, rfl, rfl⟩

theorem writeAt_positional {position : Nat}
    (allowed : channel.refusal? .writable [("position", position)] = none)
    (positional : channel.capabilities.isAppending = false) (payload : Bytes) (s : σ) :
    let reply := channel.writeAt store payload position s
    let answer := store.write position [payload] s
    reply.result = answer.1.mapError .store ∧ reply.channel = channel ∧
      reply.state = answer.2 := by
  simp only [writeAt, attempt, allowed, if_neg (Bool.not_eq_true _ ▸ positional)]
  rcases store.write position [payload] s with ⟨error | written, next⟩ <;> exact ⟨rfl, rfl, rfl⟩

/-- The channel after a seek to a target, which is in range or has no effect. -/
def sought (channel : Channel) (target : Int) : Channel :=
  if 0 ≤ target ∧ target ≤ maxPosition then channel.moveTo target.toNat else channel

@[simp] theorem sought_capabilities (target : Int) :
    (channel.sought target).capabilities = channel.capabilities := by
  rw [sought]
  by_cases inRange : 0 ≤ target ∧ target ≤ maxPosition
  · rw [if_pos inRange, moveTo_capabilities]
  · rw [if_neg inRange]

theorem seek_allowed (allowed : channel.refusal? .justOpen [] = none) (target : SeekTarget)
    (s : σ) :
    let reply := channel.seek store target s
    let resolved := channel.resolve store target s
    reply.channel = channel.sought resolved.1 ∧ reply.state = resolved.2 := by
  simp only [seek, attempt, allowed, sought]
  by_cases inRange : 0 ≤ (channel.resolve store target s).1 ∧
      (channel.resolve store target s).1 ≤ maxPosition
  · rw [if_pos inRange, if_pos inRange]
    exact ⟨rfl, rfl⟩
  · rw [if_neg inRange, if_neg inRange]
    exact ⟨rfl, rfl⟩

theorem size_allowed (allowed : channel.refusal? .justOpen [] = none) (s : σ) :
    channel.size store s =
      { result := .ok (store.size s).1, channel, state := (store.size s).2 } := by
  simp only [size, attempt, allowed]

theorem truncate_allowed {size : Nat}
    (allowed : channel.refusal? .writable [("size", size)] = none) (s : σ) :
    let reply := channel.truncate store size s
    let answer := store.truncate size s
    reply.result = answer.1.mapError .store ∧
      reply.channel = channel.answered answer.1 (fun _ => min channel.position size) ∧
      reply.state = answer.2 := by
  simp only [truncate, attempt, allowed]
  rcases store.truncate size s with ⟨error | done, next⟩ <;> exact ⟨rfl, rfl, rfl⟩

theorem copyOut_allowed {position count : Nat}
    (allowed : channel.refusal? .readable [("position", position), ("count", count)] = none)
    (sink : Sink σ) (s : σ) :
    let reply := channel.copyOut store position count sink s
    let answer := store.copyOut position count sink s
    reply.result = answer.1.mapError .store ∧ reply.channel = channel ∧ reply.state = answer.2 := by
  simp only [copyOut, attempt, allowed]
  rcases store.copyOut position count sink s with ⟨error | moved, next⟩ <;> exact ⟨rfl, rfl, rfl⟩

theorem copyIn_refused {position count : Nat} {failure : ChannelFailure}
    (refused : channel.refusal? .writable [("position", position), ("count", count)] = some failure)
    (source : Source σ) (s : σ) :
    channel.copyIn store source position count s =
      { result := .error failure, channel, state := s } := by
  simp only [copyIn, attempt, refused]

theorem copyIn_appending {position count : Nat}
    (allowed : channel.refusal? .writable [("position", position), ("count", count)] = none)
    (appending : channel.capabilities.isAppending = true) (source : Source σ) (s : σ) :
    let reply := channel.copyIn store source position count s
    let answer := store.copyInAtEnd source count s
    reply.result = (answer.1.map (·.written)).mapError .store ∧
      reply.channel = (match answer.1 with
        | .ok appended => channel.moveTo appended.size
        | _ => channel) ∧
      reply.state = answer.2 := by
  simp only [copyIn, attempt, allowed, if_pos appending]
  rcases store.copyInAtEnd source count s with ⟨appended | error | _, next⟩ <;>
    exact ⟨rfl, rfl, rfl⟩

theorem copyIn_positional {position count : Nat}
    (allowed : channel.refusal? .writable [("position", position), ("count", count)] = none)
    (positional : channel.capabilities.isAppending = false) (source : Source σ) (s : σ) :
    let reply := channel.copyIn store source position count s
    let answer := store.copyIn source position count s
    reply.result = answer.1.mapError .store ∧ reply.channel = channel ∧ reply.state = answer.2 := by
  simp only [copyIn, attempt, allowed, positional]
  exact ⟨rfl, rfl, rfl⟩

end SharedBytes.Channel
