import SharedBytes.Channel.Request
import SharedBytes.Proofs.Channel.Calls
import SharedBytes.Store.Probe

/-!
# Refused calls

A call states its terms: what it needs of the channel, and its arguments in the order of their
declaration. `Channel.Refuses` says which failure the terms meet with, argument before open state
before capability. The main statement is that a call fails in one of these ways exactly if its terms
do, and then leaves everything as it was, without a word to the store or the peer.

Seeking is not covered. It finds out where it leads to after it has looked at the channel.
-/

namespace SharedBytes

variable {σ α : Type}

/-- The failures that a channel finds before it turns to its store. -/
def ChannelFailure.isRefusal : ChannelFailure → Bool
  | notOpen | notReadable | notWritable | invalidArgument .. => true
  | unsupported _ | store _ => false

namespace Call

def terms? : Call σ → Option (Requirement × List Argument)
  | .request (.read _) => some (.readable, [])
  | .request (.readAt _ position) => some (.readable, [("position", position)])
  | .request (.write _) => some (.writable, [])
  | .request (.writeAt _ position) => some (.writable, [("position", position)])
  | .request .cursor => some (.justOpen, [])
  | .request (.setPosition position) => some (.justOpen, [("new_position", position)])
  | .request .size => some (.justOpen, [])
  | .request (.truncate size) => some (.writable, [("size", size)])
  | .request (.flush _) => some (.justOpen, [])
  | .copyOut position count _ => some (.readable, [("position", position), ("count", count)])
  | .copyIn _ position count => some (.writable, [("position", position), ("count", count)])
  | .request (.lock position size shared) =>
    some (if shared then .readable else .writable, [("position", position), ("size", size)])
  | .request (.tryLock position size shared) =>
    some (if shared then .readable else .writable, [("position", position), ("size", size)])
  | .request (.streamRead _) => some (.readable, [])
  | .request (.streamWrite _) => some (.writable, [])
  | .request .streamFlush => some (.justOpen, [])
  | .request _ => none

def slices : Call σ → List Bytes
  | .request plain => plain.slices?.getD []
  | _ => []

def withPeer (sink : Sink σ) (source : Source σ) : Call σ → Call σ
  | .request plain => .request plain
  | .copyOut position count _ => .copyOut position count sink
  | .copyIn _ position count => .copyIn source position count

@[simp] theorem withPeer_terms (sink : Sink σ) (source : Source σ) (call : Call σ) :
    (call.withPeer sink source).terms? = call.terms? := by
  cases call <;> rfl

@[simp] theorem withPeer_slices (sink : Sink σ) (source : Source σ) (call : Call σ) :
    (call.withPeer sink source).slices = call.slices := by
  cases call <;> rfl

end Call

namespace Channel

variable {channel : Channel} {requirement : Requirement} {arguments : List Argument}
  {failure : ChannelFailure}

inductive Refuses (channel : Channel) (requirement : Requirement) (arguments : List Argument) :
    ChannelFailure → Prop
  | argument {earlier later : List Argument} {name : String} {value : Nat}
      (declared : arguments = earlier ++ (name, value) :: later)
      (inRange : ∀ argument ∈ earlier, argument.2 ≤ maxPosition)
      (tooLarge : maxPosition < value) :
      Refuses channel requirement arguments (.invalidArgument name value)
  | closed (inRange : ∀ argument ∈ arguments, argument.2 ≤ maxPosition)
      (closed : channel.isOpen = false) :
      Refuses channel requirement arguments .notOpen
  | unreadable (inRange : ∀ argument ∈ arguments, argument.2 ≤ maxPosition)
      (isOpen : channel.isOpen = true) (needed : requirement = .readable)
      (missing : channel.capabilities.read = false) :
      Refuses channel requirement arguments .notReadable
  | unwritable (inRange : ∀ argument ∈ arguments, argument.2 ≤ maxPosition)
      (isOpen : channel.isOpen = true) (needed : requirement = .writable)
      (missing : channel.capabilities.write = false)
      (missingToo : channel.capabilities.append = false) :
      Refuses channel requirement arguments .notWritable

theorem find_tooLarge_eq_none (inRange : ∀ argument ∈ arguments, argument.2 ≤ maxPosition) :
    (arguments.find? fun argument => maxPosition < argument.2) = none := by
  simpa using inRange

theorem missing?_eq_some_iff :
    channel.missing? requirement = some failure ↔
      (requirement = .readable ∧ channel.capabilities.read = false ∧ failure = .notReadable) ∨
        requirement = .writable ∧ channel.capabilities.write = false ∧
          channel.capabilities.append = false ∧ failure = .notWritable := by
  obtain ⟨⟨read, write, append⟩, isOpen, position⟩ := channel
  cases requirement with
  | justOpen => simp [missing?]
  | readable => cases read <;> simp [missing?, Capabilities.isReadable, eq_comm]
  | writable =>
    cases write <;> cases append <;> simp [missing?, Capabilities.isWritable, eq_comm]

theorem refusal?_eq_some_iff :
    channel.refusal? requirement arguments = some failure ↔
      channel.Refuses requirement arguments failure := by
  constructor
  · intro refused
    rw [refusal?] at refused
    cases found : arguments.find? fun argument => maxPosition < argument.2 with
    | some argument =>
      -- What is found is the first of its kind, so all that is declared before it is in range.
      obtain ⟨tooLarge, earlier, later, declared, inRange⟩ :=
        List.find?_eq_some_iff_append.mp found
      rw [found] at refused
      cases refused
      apply Refuses.argument declared
      · simpa using inRange
      · simpa using tooLarge
    | none =>
      have inRange : ∀ argument ∈ arguments, argument.2 ≤ maxPosition := by
        simpa using List.find?_eq_none.mp found
      rw [found] at refused
      cases isOpen : channel.isOpen with
      | false =>
        rw [isOpen] at refused
        cases refused
        exact .closed inRange isOpen
      | true =>
        rw [isOpen] at refused
        rcases missing?_eq_some_iff.mp refused with
          ⟨needed, missing, rfl⟩ | ⟨needed, missing, missingToo, rfl⟩
        · exact .unreadable inRange isOpen needed missing
        · exact .unwritable inRange isOpen needed missing missingToo
  · intro refuses
    rw [refusal?]
    cases refuses with
    | @argument earlier later name value declared inRange tooLarge =>
      have found : (arguments.find? fun argument => maxPosition < argument.2) =
          some (name, value) := by
        rw [List.find?_eq_some_iff_append]
        exact ⟨by simpa using tooLarge, earlier, later, declared, by simpa using inRange⟩
      rw [found]
    | closed inRange closed =>
      rw [find_tooLarge_eq_none inRange, closed]
      rfl
    | unreadable inRange isOpen needed missing =>
      rw [find_tooLarge_eq_none inRange, isOpen]
      exact missing?_eq_some_iff.mpr (.inl ⟨needed, missing, rfl⟩)
    | unwritable inRange isOpen needed missing missingToo =>
      rw [find_tooLarge_eq_none inRange, isOpen]
      exact missing?_eq_some_iff.mpr (.inr ⟨needed, missing, missingToo, rfl⟩)

theorem perform_refused (store : Store σ) (s : σ) {call : Call σ}
    (terms : call.terms? = some (requirement, arguments))
    (refused : channel.refusal? requirement arguments = some failure) :
    channel.perform store s call =
      { result := .error (.channel failure), channel, state := s, slices := call.slices } := by
  cases call with
  | copyOut position count sink =>
    cases terms
    simp only [perform, copyOut, attempt, refused]
    rfl
  | copyIn source position count =>
    cases terms
    simp only [perform, copyIn, attempt, refused]
    rfl
  | request plain =>
    cases plain <;> cases terms <;>
      simp only [perform, serve, read, readAt, write, writeAt, cursor, size, setPosition, truncate,
        flush, lock, streamRead, streamWrite, attempt, refused] <;> rfl

/-- What a store says is passed on as the store's failure. -/
theorem passedOn_unrefused {answer : Outcome StoreFailure α} {value : α → Answer}
    (failed : ((answer.mapError ChannelFailure.store).map value).mapError CallFailure.channel =
      .error (.channel failure)) : failure.isRefusal = false := by
  cases answer with
  | ok _ => cases failed
  | aborted => cases failed
  | error _ =>
    cases failed
    rfl

theorem answering_unrefused {reply : Reply σ (Except ChannelFailure α)} {value : α → Answer}
    {answer : Except StoreFailure α} (passed : reply.result = answer.mapError .store)
    (failed : (reply.answering value).result = .error (.channel failure)) :
    failure.isRefusal = false := by
  rw [Reply.answering, passed] at failed
  cases answer with
  | ok _ => cases failed
  | error _ =>
    cases failed
    rfl

theorem write_unrefused (store : Store σ) (allowed : channel.refusal? .writable [] = none)
    (payload : List Bytes) (s : σ)
    (failed : ((channel.write store payload s).answering .number).result =
      .error (.channel failure)) : failure.isRefusal = false := by
  cases mode : channel.capabilities.isAppending with
  | true => exact answering_unrefused (write_appending store allowed mode payload s).1 failed
  | false => exact answering_unrefused (write_positional store allowed mode payload s).1 failed

theorem perform_allowed (store : Store σ) (s : σ) {call : Call σ}
    (terms : call.terms? = some (requirement, arguments))
    (allowed : channel.refusal? requirement arguments = none)
    (failed : (channel.perform store s call).result = .error (.channel failure)) :
    failure.isRefusal = false := by
  cases call with
  | copyOut position count sink =>
    cases terms
    exact answering_unrefused (copyOut_allowed store allowed sink s).1 failed
  | copyIn source position count =>
    cases terms
    cases mode : channel.capabilities.isAppending with
    | true =>
      apply passedOn_unrefused
      rwa [← (copyIn_appending store allowed mode source s).1]
    | false =>
      apply passedOn_unrefused
      rwa [← (copyIn_positional store allowed mode source s).1]
  | request plain =>
    cases plain with
    | read slices =>
      cases terms
      exact answering_unrefused (read_allowed store allowed slices s).1 failed
    | readAt slice position =>
      cases terms
      exact answering_unrefused (readAt_allowed store allowed slice s).1 failed
    | write payload =>
      cases terms
      exact write_unrefused store allowed payload s failed
    | writeAt payload position =>
      cases terms
      cases mode : channel.capabilities.isAppending with
      | true => exact answering_unrefused (writeAt_appending store allowed mode payload s).1 failed
      | false =>
        exact answering_unrefused (writeAt_positional store allowed mode payload s).1 failed
    | truncate size =>
      cases terms
      exact answering_unrefused (truncate_allowed store allowed s).1 failed
    | size =>
      cases terms
      simp only [perform, serve, size_allowed store allowed] at failed
      cases failed
    | streamRead slice =>
      cases terms
      exact answering_unrefused (streamRead_allowed store allowed slice s).1 failed
    | streamWrite bytes =>
      cases terms
      exact write_unrefused store allowed [bytes] s failed
    | cursor | setPosition _ | flush _ | streamFlush =>
      cases terms
      simp only [perform, serve, cursor, setPosition, flush, attempt, allowed] at failed
      cases failed
    | lock position size shared | tryLock position size shared =>
      cases terms
      simp only [perform, serve, lock, attempt, allowed] at failed
      cases failed
    | seek _ | map _ _ _ | close | readExact _ | writeAll _ | streamSeek _ | rewind
    | streamPosition => cases terms

/-- A call within its terms fails as they do, or not in this way; and what has failed so has reached
neither the store nor the peer, and changed nothing. -/
theorem perform_refused_iff (store : Store σ) (channel : Channel) (s : σ) {call : Call σ}
    (terms : call.terms? = some (requirement, arguments)) :
    let reply := channel.perform store s call
    ∀ failure, failure.isRefusal = true →
      (reply.result = .error (.channel failure) ↔
        channel.Refuses requirement arguments failure) ∧
      (reply.result = .error (.channel failure) →
        reply.channel = channel ∧ reply.state = s ∧ reply.slices = call.slices ∧
          reply.events = [] ∧ ∀ (other : Store σ) sink source,
            channel.perform other s (call.withPeer sink source) = reply) := by
  intro reply failure refusal
  have verdict : reply.result = .error (.channel failure) ↔
      channel.refusal? requirement arguments = some failure := by
    cases refused : channel.refusal? requirement arguments with
    | none =>
      constructor
      · intro failed
        rw [perform_allowed store s terms refused failed] at refusal
        cases refusal
      · nofun
    | some found =>
      have same : reply.result = .error (.channel found) :=
        congrArg Reply.result (perform_refused store s terms refused)
      rw [same]
      constructor
      · intro failed
        cases failed
        rfl
      · intro failed
        cases failed
        rfl
  refine ⟨verdict.trans refusal?_eq_some_iff, ?_⟩
  intro failed
  have refused := verdict.mp failed
  have unmoved : reply = _ := perform_refused store s terms refused
  have elsewhere : ∀ (other : Store σ) sink source,
      channel.perform other s (call.withPeer sink source) = reply := by
    intro other sink source
    rw [unmoved, perform_refused other s (call.withPeer_terms sink source ▸ terms) refused,
      call.withPeer_slices]
  rw [unmoved]
  exact ⟨rfl, rfl, rfl, rfl, unmoved ▸ elsewhere⟩

def watched : Store (Buffer × List StoreCall) :=
  let place := @Place.ofPart (Buffer × List StoreCall) .standard Prod.fst
    fun buffer s => (buffer, s.2)
  place.store.noting fun call s => (s.1, s.2 ++ [call])

/-- Both a count out of range and a closed channel: the count is named. -/
theorem closed_copyOut_names_count :
    let channel : Channel := { capabilities := { read := true }, isOpen := false, position := 7 }
    let call : Call (Buffer × List StoreCall) :=
      .copyOut 1 (maxPosition + 1) fun offered s => (.ok offered.length, s)
    let reply := channel.perform watched (.ofBytes [1, 2], []) call
    reply.result = .error (.channel (.invalidArgument "count" (maxPosition + 1 : Nat))) ∧
      reply.channel = channel ∧ reply.state = (.ofBytes [1, 2], []) := by
  intro channel call reply
  have terms : call.terms? =
      some (.readable, [("position", 1), ("count", maxPosition + 1)]) := rfl
  have refuses : channel.Refuses .readable [("position", 1), ("count", maxPosition + 1)]
      (.invalidArgument "count" (maxPosition + 1 : Nat)) := by
    apply @Refuses.argument _ _ _ [("position", 1)] [] _ _ rfl
    · decide
    · decide
  obtain ⟨verdict, unmoved⟩ := perform_refused_iff watched channel (.ofBytes [1, 2], []) terms
    (.invalidArgument "count" (maxPosition + 1 : Nat)) rfl
  have refused := verdict.mpr refuses
  exact ⟨refused, (unmoved refused).1, (unmoved refused).2.1⟩

end Channel

end SharedBytes
