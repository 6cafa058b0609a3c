import SharedBytes.Proofs.Channel.Calls
import SharedBytes.Proofs.Channel.Runs

/-!
# What of the capabilities counts

A channel looks at three things: whether it can be read, whether it can be written, and whether its
writes go to the end. Whether writing was asked for, or is only implied by appending, it cannot
tell. So a channel goes on as if it had asked for all that it may do: every call gives the same
answer, moves the cursor alike and leaves the same state behind, over any store and with any peer.
-/

namespace SharedBytes

namespace Capabilities

def effective (capabilities : Capabilities) : Capabilities :=
  { capabilities with write := capabilities.isWritable }

@[simp] theorem effective_isWritable (capabilities : Capabilities) :
    capabilities.effective.isWritable = capabilities.isWritable := by
  simp only [effective, isWritable, Bool.or_assoc, Bool.or_self]

/-- By induction over the list: each capability sets its own flag, and none is ever unset. -/
theorem foldl_set_asked (wanted : List Capability) (capabilities : Capabilities) :
    wanted.foldl (fun capabilities capability => capabilities.set capability true) capabilities =
      { read := capabilities.read || decide (.read ∈ wanted)
        write := capabilities.write || decide (.write ∈ wanted)
        append := capabilities.append || decide (.append ∈ wanted) } := by
  induction wanted generalizing capabilities with
  | nil => simp
  | cons capability wanted induction =>
    rw [List.foldl_cons, induction]
    cases capability <;> simp [set]

theorem ofList_eq (wanted : List Capability) :
    ofList wanted =
      { read := decide (.read ∈ wanted)
        write := decide (.write ∈ wanted)
        append := decide (.append ∈ wanted) } := by
  unfold ofList
  rw [foldl_set_asked]
  simp only [Bool.false_or]

theorem ofList_eq_iff (wanted other : List Capability) :
    ofList wanted = ofList other ↔ ∀ capability, capability ∈ wanted ↔ capability ∈ other := by
  rw [ofList_eq, ofList_eq, mk.injEq, decide_eq_decide, decide_eq_decide, decide_eq_decide]
  constructor
  · intro same capability
    cases capability with
    | read => exact same.1
    | write => exact same.2.1
    | append => exact same.2.2
  · intro same
    exact ⟨same .read, same .write, same .append⟩

/-- Two lists ask for reading both or neither, for appending both or neither, and each of them for
writing or appending or neither for any of these. -/
def Agree (wanted other : List Capability) : Prop :=
  (.read ∈ wanted ↔ .read ∈ other) ∧ (.append ∈ wanted ↔ .append ∈ other) ∧
    ((.write ∈ wanted ∨ .append ∈ wanted) ↔ (.write ∈ other ∨ .append ∈ other))

theorem Agree.effective {wanted other : List Capability} (agree : Agree wanted other) :
    (ofList wanted).effective = (ofList other).effective := by
  simp only [Capabilities.effective, isWritable, ofList_eq, ← Bool.decide_or, agree.2.2]
  rw [decide_eq_decide.mpr agree.1, decide_eq_decide.mpr agree.2.1]

end Capabilities

def Channel.effective (channel : Channel) : Channel :=
  { channel with capabilities := channel.capabilities.effective }

variable {σ α β : Type}

def Reply.effective (reply : Reply σ α) : Reply σ α :=
  { reply with channel := reply.channel.effective }

namespace Channel

variable {channel : Channel} (store : Store σ) (s : σ)

@[simp] theorem effective_position : channel.effective.position = channel.position := rfl

theorem effective_isOpen : channel.effective.isOpen = channel.isOpen := rfl

theorem effective_appending :
    channel.effective.capabilities.isAppending = channel.capabilities.isAppending := rfl

theorem missing_effective (requirement : Requirement) :
    channel.effective.missing? requirement = channel.missing? requirement := by
  cases requirement with
  | justOpen => rfl
  | readable => rfl
  | writable =>
    unfold missing? effective
    rw [Capabilities.effective_isWritable]

theorem refusal_effective (requirement : Requirement) (arguments : List Argument) :
    channel.effective.refusal? requirement arguments =
      channel.refusal? requirement arguments := by
  unfold refusal?
  rw [missing_effective]
  rfl

theorem attempt_effective {requirement : Requirement} {arguments : List Argument}
    {slices : List Bytes} {refused : ChannelFailure → α} {call call' : σ → Reply σ α}
    (same : call' s = (call s).effective) :
    channel.effective.attempt requirement arguments slices s refused call' =
      (channel.attempt requirement arguments slices s refused call).effective := by
  unfold attempt
  rw [refusal_effective]
  cases channel.refusal? requirement arguments with
  | some failure => rfl
  | none => exact same

theorem read_effective (slices : List Bytes) :
    channel.effective.read store slices s = (channel.read store slices s).effective := by
  apply attempt_effective
  rw [effective_position]
  rcases store.read channel.position slices s with ⟨⟨error | count, slices⟩, next⟩ <;> rfl

theorem streamRead_effective (slice : Bytes) :
    channel.effective.streamRead store slice s = (channel.streamRead store slice s).effective := by
  unfold streamRead
  rw [read_effective]
  rfl

theorem readAt_effective (slice : Bytes) (position : Nat) :
    channel.effective.readAt store slice position s =
      (channel.readAt store slice position s).effective := by
  apply attempt_effective
  rcases store.read position [slice] s with ⟨⟨error | count, slices⟩, next⟩ <;> rfl

theorem write_effective (payload : List Bytes) :
    channel.effective.write store payload s = (channel.write store payload s).effective := by
  apply attempt_effective
  rw [effective_appending, effective_position]
  cases channel.capabilities.isAppending with
  | true => rcases store.append payload s with ⟨error | appended, next⟩ <;> rfl
  | false => rcases store.write channel.position payload s with ⟨error | written, next⟩ <;> rfl

theorem writeAt_effective (payload : Bytes) (position : Nat) :
    channel.effective.writeAt store payload position s =
      (channel.writeAt store payload position s).effective := by
  apply attempt_effective
  rw [effective_appending]
  cases channel.capabilities.isAppending with
  | true => rcases store.append [payload] s with ⟨error | appended, next⟩ <;> rfl
  | false => rcases store.write position [payload] s with ⟨error | written, next⟩ <;> rfl

theorem cursor_effective : channel.effective.cursor s = (channel.cursor s).effective := by
  apply attempt_effective
  rfl

theorem size_effective : channel.effective.size store s = (channel.size store s).effective := by
  apply attempt_effective
  rfl

theorem setPosition_effective (position : Nat) :
    channel.effective.setPosition position s = (channel.setPosition position s).effective := by
  apply attempt_effective
  rfl

theorem flush_effective (metadata : Bool) :
    channel.effective.flush metadata s = (channel.flush metadata s).effective := by
  apply attempt_effective
  rfl

theorem seek_effective (target : SeekTarget) :
    channel.effective.seek store target s = (channel.seek store target s).effective := by
  apply attempt_effective
  have resolved : channel.effective.resolve store target s = channel.resolve store target s := by
    cases target <;> rfl
  rw [resolved]
  by_cases inRange : 0 ≤ (channel.resolve store target s).1 ∧
      (channel.resolve store target s).1 ≤ maxPosition
  · simp only [if_pos inRange]
    rfl
  · simp only [if_neg inRange]
    rfl

theorem truncate_effective (size : Nat) :
    channel.effective.truncate store size s = (channel.truncate store size s).effective := by
  apply attempt_effective
  rcases store.truncate size s with ⟨error | done, next⟩ <;> rfl

theorem copyOut_effective (position count : Nat) (sink : Sink σ) :
    channel.effective.copyOut store position count sink s =
      (channel.copyOut store position count sink s).effective := by
  apply attempt_effective
  rcases store.copyOut position count sink s with ⟨error | moved, next⟩ <;> rfl

theorem copyIn_effective (source : Source σ) (position count : Nat) :
    channel.effective.copyIn store source position count s =
      (channel.copyIn store source position count s).effective := by
  apply attempt_effective
  rw [effective_appending]
  cases channel.capabilities.isAppending with
  | true => rcases store.copyInAtEnd source count s with ⟨appended | error | _, next⟩ <;> rfl
  | false => rfl

theorem lock_effective (position size : Nat) (shared : Bool) :
    channel.effective.lock position size shared s =
      (channel.lock position size shared s).effective := by
  apply attempt_effective
  rfl

theorem close_effective :
    channel.effective.close store s = (channel.close store s).effective := by
  unfold close
  rw [effective_isOpen]
  cases channel.isOpen with
  | true => rfl
  | false => rfl

theorem drop_effective : channel.effective.drop store s = (channel.drop store s).effective := by
  unfold drop
  rw [effective_isOpen]
  cases channel.isOpen with
  | true => rfl
  | false => rfl

theorem fill_effective (channel : Channel) (filled rest : Bytes) (events : List Event) (s : σ) :
    channel.effective.fill store filled rest events s =
      (channel.fill store filled rest events s).effective := by
  induction length : rest.length using Nat.strongRecOn
    generalizing channel filled rest events s with
  | ind size induction =>
    rw [fill, fill]
    by_cases full : rest = []
    · simp only [dif_pos full]
      rfl
    · simp only [dif_neg full, streamRead_effective, Reply.effective]
      cases (channel.streamRead store rest s).result with
      | error error => rfl
      | ok n =>
        cases n with
        | zero => rfl
        | succ n =>
          by_cases tooMany : rest.length < n + 1
          · simp only [if_pos tooMany]
          · simp only [if_neg tooMany]
            apply induction _ _ _ _ _ _ _ rfl
            simp only [List.length_drop, Bytes.length_overlay]
            omega

theorem spill_effective (channel : Channel) (bytes : Bytes) (events : List Event) (s : σ) :
    channel.effective.spill store bytes events s =
      (channel.spill store bytes events s).effective := by
  induction length : bytes.length using Nat.strongRecOn generalizing channel bytes events s with
  | ind size induction =>
    rw [spill, spill]
    by_cases nothing : bytes = []
    · simp only [if_pos nothing]
      rfl
    · have same : channel.effective.streamWrite store bytes s =
          (channel.streamWrite store bytes s).effective := write_effective store s [bytes]
      simp only [if_neg nothing, same, Reply.effective]
      cases (channel.streamWrite store bytes s).result with
      | error error => rfl
      | ok n =>
        cases n with
        | zero => rfl
        | succ n =>
          by_cases tooMany : bytes.length < n + 1
          · simp only [if_pos tooMany]
          · simp only [if_neg tooMany]
            apply induction _ _ _ _ _ _ rfl
            simp only [List.length_drop]
            omega

theorem answering_effective {reply reply' : Reply σ (Except ChannelFailure α)}
    (same : reply' = reply.effective) (answer : α → Answer) :
    reply'.answering answer = (reply.answering answer).effective := by
  rw [same]
  rfl

theorem serve_effective (request : Request) :
    channel.effective.serve store s request = (channel.serve store s request).effective := by
  cases request with
  | read slices => exact answering_effective (read_effective store s slices) _
  | readAt slice position => exact answering_effective (readAt_effective store s slice position) _
  | write payload => exact answering_effective (write_effective store s payload) _
  | writeAt payload position =>
    exact answering_effective (writeAt_effective store s payload position) _
  | cursor => exact answering_effective (cursor_effective s) _
  | size => exact answering_effective (size_effective store s) _
  | setPosition position => exact answering_effective (setPosition_effective s position) _
  | seek target => exact answering_effective (seek_effective store s target) _
  | truncate size => exact answering_effective (truncate_effective store s size) _
  | flush metadata => exact answering_effective (flush_effective s metadata) _
  | map mode position size => rfl
  | lock position size shared =>
    exact answering_effective (lock_effective s position size shared) _
  | tryLock position size shared =>
    exact answering_effective (lock_effective s position size shared) _
  | close => exact answering_effective (close_effective store s) _
  | streamRead slice => exact answering_effective (streamRead_effective store s slice) _
  | readExact slice =>
    simp only [serve, readExact, fill_effective]
    rfl
  | streamWrite bytes => exact answering_effective (write_effective store s [bytes]) _
  | writeAll bytes =>
    simp only [serve, writeAll, spill_effective]
    rfl
  | streamFlush => exact answering_effective (flush_effective s false) _
  | streamSeek target => exact answering_effective (seek_effective store s target) _
  | rewind => exact answering_effective (seek_effective store s (.start 0)) _
  | streamPosition => exact answering_effective (seek_effective store s (.current 0)) _

/-- No call can tell whether writing was asked for or is implied. -/
theorem perform_effective (call : Call σ) :
    channel.effective.perform store s call = (channel.perform store s call).effective := by
  cases call with
  | request request => exact serve_effective store s request
  | copyOut position count sink =>
    exact answering_effective (copyOut_effective store s position count sink) _
  | copyIn source position count =>
    simp only [perform, copyIn_effective]
    rfl

def replies (store : Store σ) (channel : Channel) (s : σ) :
    List (Call σ) → List (Reply σ (Outcome CallFailure Answer))
  | [] => []
  | call :: calls =>
    let reply := channel.perform store s call
    reply :: reply.channel.replies store reply.state calls

theorem replies_effective (channel : Channel) (calls : List (Call σ)) (s : σ) :
    channel.effective.replies store s calls =
      (channel.replies store s calls).map Reply.effective := by
  induction calls generalizing channel s with
  | nil => rfl
  | cons call calls induction =>
    simp only [replies, List.map_cons, perform_effective]
    apply congrArg (List.cons _)
    exact induction _ _

/-- Channels that differ in no more than how they have asked to be writable give the same replies,
which leave them different in no more than that. -/
theorem replies_congr {other : Channel} (same : channel.effective = other.effective)
    (calls : List (Call σ)) :
    (channel.replies store s calls).map Reply.effective =
      (other.replies store s calls).map Reply.effective := by
  rw [← replies_effective, same, replies_effective]

end Channel

end SharedBytes
