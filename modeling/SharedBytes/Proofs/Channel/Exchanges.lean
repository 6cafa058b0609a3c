import SharedBytes.Proofs.Channel.Calls
import SharedBytes.Proofs.Channel.Refusals

/-!
# What a store hears and answers

A recorded store writes down each call that it receives, with its answer. An episode is one call of
a channel with what its store has to say about it. A channel heeds its store in an episode if it
makes no more than the one call that fits its mode, if it does not succeed without that call, and if
of the answer alone it can be told how the channel stands afterwards.
-/

namespace SharedBytes

variable {σ τ α : Type}

inductive Exchange where
  | size (answer : Nat)
  | read (position : Nat) (slices : List Bytes) (answer : Except StoreFailure (Option Nat))
  | write (position : Nat) (payload : List Bytes) (answer : Except StoreFailure Nat)
  | append (payload : List Bytes) (answer : Except StoreFailure Receipt)
  | truncate (size : Nat) (answer : Except StoreFailure Unit)
  | copyOut (position count : Nat) (answer : Except StoreFailure Nat)
  | copyIn (position count : Nat) (answer : Outcome StoreFailure Nat)
  | copyInAtEnd (count : Nat) (answer : Outcome StoreFailure Receipt)

def Outcome.failure? {ε : Type} : Outcome ε α → Option ε
  | .error failure => some failure
  | _ => none

namespace Exchange

def call : Exchange → StoreCall
  | size _ => .size
  | read position slices _ => .read position (slices.map List.length)
  | write position payload _ => .write position (payload.map List.length)
  | append payload _ => .append (payload.map List.length)
  | truncate length _ => .truncate length
  | copyOut position count _ => .copyOut position count
  | copyIn position count _ => .copyIn position count
  | copyInAtEnd count _ => .copyInAtEnd count

def failure? : Exchange → Option StoreFailure
  | size _ => none
  | read _ _ answer => (Outcome.ofExcept answer).failure?
  | write _ _ answer => (Outcome.ofExcept answer).failure?
  | append _ answer => (Outcome.ofExcept answer).failure?
  | truncate _ answer => (Outcome.ofExcept answer).failure?
  | copyOut _ _ answer => (Outcome.ofExcept answer).failure?
  | copyIn _ _ answer => answer.failure?
  | copyInAtEnd _ answer => answer.failure?

end Exchange

namespace StoreCall

def isPositional : StoreCall → Bool
  | write .. | copyIn .. => true
  | _ => false

def isAppending : StoreCall → Bool
  | append .. | copyInAtEnd .. => true
  | _ => false

end StoreCall

/-- A peer, beside something that it knows nothing of. -/
def Sink.beside (sink : Sink σ) : Sink (σ × τ) := fun offered s =>
  let answer := sink offered s.1
  (answer.1, answer.2, s.2)

def Source.beside (source : Source σ) : Source (σ × τ) := fun slice s =>
  let supply := source slice s.1
  (supply.1, supply.2, s.2)

def Call.beside : Call σ → Call (σ × τ)
  | .request plain => .request plain
  | .copyOut position count sink => .copyOut position count sink.beside
  | .copyIn source position count => .copyIn source.beside position count

@[simp] theorem Call.beside_terms (call : Call σ) :
    (call.beside : Call (σ × τ)).terms? = call.terms? := by
  cases call with
  | request plain => cases plain <;> rfl
  | copyOut _ _ _ => rfl
  | copyIn _ _ _ => rfl

/-- The store, with a record of the calls it receives and of its answers. Peers are kept away from
the record. -/
def Store.recorded (store : Store σ) : Store (σ × List Exchange) where
  size s :=
    let answer := store.size s.1
    (answer.1, answer.2, s.2 ++ [.size answer.1])
  read position slices s :=
    let answer := store.read position slices s.1
    (answer.1, answer.2, s.2 ++ [.read position slices answer.1.1])
  write position payload s :=
    let answer := store.write position payload s.1
    (answer.1, answer.2, s.2 ++ [.write position payload answer.1])
  append payload s :=
    let answer := store.append payload s.1
    (answer.1, answer.2, s.2 ++ [.append payload answer.1])
  truncate size s :=
    let answer := store.truncate size s.1
    (answer.1, answer.2, s.2 ++ [.truncate size answer.1])
  copyOut position count sink s :=
    let offer : Sink σ := fun offered state =>
      let answer := sink offered (state, s.2)
      (answer.1, answer.2.1)
    let answer := store.copyOut position count offer s.1
    (answer.1, answer.2, s.2 ++ [.copyOut position count answer.1])
  copyIn source position count s :=
    let ask : Source σ := fun slice state =>
      let supply := source slice (state, s.2)
      (supply.1, supply.2.1)
    let answer := store.copyIn ask position count s.1
    (answer.1, answer.2, s.2 ++ [.copyIn position count answer.1])
  copyInAtEnd source count s :=
    let ask : Source σ := fun slice state =>
      let supply := source slice (state, s.2)
      (supply.1, supply.2.1)
    let answer := store.copyInAtEnd ask count s.1
    (answer.1, answer.2, s.2 ++ [.copyInAtEnd count answer.1])
  release s := (store.release s.1, s.2)

def Call.isAtCursor : Call σ → Bool
  | .request (.read _) | .request (.streamRead _) => true
  | .request (.write _) | .request (.streamWrite _) => true
  | _ => false

namespace Channel

def asks (channel : Channel) : Call σ → Option StoreCall
  | .request (.read slices) => some (.read channel.position (slices.map List.length))
  | .request (.streamRead slice) => some (.read channel.position [slice.length])
  | .request (.readAt slice position) => some (.read position [slice.length])
  | .request (.write payload) =>
    let lengths := payload.map List.length
    some (if channel.capabilities.isAppending then .append lengths
      else .write channel.position lengths)
  | .request (.streamWrite bytes) =>
    some (if channel.capabilities.isAppending then .append [bytes.length]
      else .write channel.position [bytes.length])
  | .request (.writeAt payload position) =>
    some (if channel.capabilities.isAppending then .append [payload.length]
      else .write position [payload.length])
  | .request .size => some .size
  | .request (.seek (.ending _)) | .request (.streamSeek (.ending _)) => some .size
  | .request (.truncate size) => some (.truncate size)
  | .copyOut position count _ => some (.copyOut position count)
  | .copyIn _ position count =>
    some (if channel.capabilities.isAppending then .copyInAtEnd count else .copyIn position count)
  | _ => none

def alone (channel : Channel) (call : Call σ) : Channel :=
  if channel.isOpen then
    match call with
    | .request (.setPosition position) => channel.sought position
    | .request (.seek (.start offset)) | .request (.streamSeek (.start offset)) =>
      channel.sought offset
    | .request (.seek (.current delta)) | .request (.streamSeek (.current delta)) =>
      channel.sought (channel.position + delta)
    | .request .rewind => channel.sought 0
    | .request .streamPosition => channel.sought channel.position
    | .request .close => { channel with isOpen := false }
    | _ => channel
  else channel

def hearing (channel : Channel) (call : Call σ) : Exchange → Channel
  | .append _ (.ok receipt) => channel.moveTo receipt.size
  | .copyInAtEnd _ (.ok receipt) => channel.moveTo receipt.size
  | .read _ _ (.ok count) =>
    if call.isAtCursor then channel.moveTo (channel.position + count.getD 0) else channel
  | .write _ _ (.ok written) =>
    if call.isAtCursor then channel.moveTo (channel.position + written) else channel
  | .truncate size (.ok ()) => channel.moveTo (min channel.position size)
  | .size size =>
    match call with
    | .request (.seek (.ending delta)) | .request (.streamSeek (.ending delta)) =>
      channel.sought (size + delta)
    | _ => channel
  | _ => channel

/-- The channel after a call, told from what its store has heard and answered. -/
def next (channel : Channel) (call : Call σ) : List Exchange → Channel
  | [] => channel.alone call
  | exchange :: _ => channel.hearing call exchange

structure Episode (σ : Type) where
  before : Channel
  call : Call σ
  heard : List Exchange
  result : Outcome CallFailure Answer
  after : Channel

def episode (store : Store σ) (channel : Channel) (s : σ) (call : Call σ) : Episode σ where
  before := channel
  call := call
  heard := (channel.perform store.recorded (s, []) call.beside).state.2
  result := (channel.perform store s call).result
  after := (channel.perform store s call).channel

def episodes (store : Store σ) (channel : Channel) (s : σ) : List (Call σ) → List (Episode σ)
  | [] => []
  | call :: calls =>
    let reply := channel.perform store s call
    channel.episode store s call :: reply.channel.episodes store reply.state calls

/-- The channel after calls, told from what its store has heard of each of them and answered. -/
def retold (channel : Channel) (story : List (Call σ × List Exchange)) : Channel :=
  story.foldl (fun channel part => channel.next part.1 part.2) channel

@[simp] theorem retold_cons (channel : Channel) (part : Call σ × List Exchange)
    (story : List (Call σ × List Exchange)) :
    channel.retold (part :: story) = (channel.next part.1 part.2).retold story := rfl

structure Episode.Heeds (episode : Episode σ) : Prop where
  once : episode.heard.length ≤ 1
  asked : ∀ exchange ∈ episode.heard, episode.before.asks episode.call = some exchange.call
  appending : episode.before.capabilities.isAppending = true →
    ∀ exchange ∈ episode.heard, exchange.call.isPositional = false
  positional : episode.before.capabilities.isAppending = false →
    ∀ exchange ∈ episode.heard, exchange.call.isAppending = false
  failed : ∀ exchange ∈ episode.heard, ∀ failure, exchange.failure? = some failure →
    episode.result = .error (.channel (.store failure)) ∧ episode.after = episode.before
  follows : episode.after = episode.before.next episode.call episode.heard
  succeeded : ∀ answer, episode.result = .ok answer →
    episode.before.asks episode.call = episode.heard.head?.map Exchange.call

section

variable {store : Store σ} {channel : Channel} {s : σ} {call : Call σ}

theorem asks_appending {asked : StoreCall} (appending : channel.capabilities.isAppending = true)
    (asks : channel.asks call = some asked) : asked.isPositional = false := by
  revert asks
  fun_cases channel.asks call <;> rintro ⟨⟩ <;> simp_all [StoreCall.isPositional]

theorem asks_positional {asked : StoreCall} (positional : channel.capabilities.isAppending = false)
    (asks : channel.asks call = some asked) : asked.isAppending = false := by
  revert asks
  fun_cases channel.asks call <;> rintro ⟨⟩ <;> simp_all [StoreCall.isAppending]

theorem hearing_failed {exchange : Exchange} {failure : StoreFailure}
    (failed : exchange.failure? = some failure) : channel.hearing call exchange = channel := by
  cases exchange with
  | size _ => cases failed
  | copyOut _ _ _ | copyIn _ _ _ => rfl
  | read _ _ answer | write _ _ answer | append _ answer | truncate _ answer =>
    cases answer with
    | ok _ => cases failed
    | error _ => rfl
  | copyInAtEnd _ answer =>
    cases answer with
    | ok _ => cases failed
    | error _ => rfl
    | aborted => rfl

theorem next_capabilities (heard : List Exchange) :
    (channel.next call heard).capabilities = channel.capabilities := by
  cases heard with
  | nil =>
    rw [next]
    fun_cases channel.alone call <;> first | exact sought_capabilities _ | rfl
  | cons exchange _ =>
    rw [next]
    fun_cases channel.hearing call exchange <;> first | exact sought_capabilities _ | rfl

theorem heeds_silent (silent : (channel.perform store.recorded (s, []) call.beside).state.2 = [])
    (after : (channel.perform store s call).channel = channel.alone call)
    (idle : ∀ answer, (channel.perform store s call).result = .ok answer →
      channel.asks call = none) :
    (channel.episode store s call).Heeds := by
  have unheard : (channel.episode store s call).heard = [] := silent
  constructor <;>
    simp only [unheard, List.not_mem_nil, false_implies, implies_true, List.length_nil]
  · omega
  · exact after
  · exact idle

theorem heeds_alone (asks : channel.asks call = none)
    (silent : (channel.perform store.recorded (s, []) call.beside).state.2 = [])
    (after : (channel.perform store s call).channel = channel.alone call) :
    (channel.episode store s call).Heeds :=
  heeds_silent silent after fun _ _ => asks

theorem heeds_asked {exchange : Exchange}
    (said : (channel.perform store.recorded (s, []) call.beside).state.2 = [exchange])
    (asks : channel.asks call = some exchange.call)
    (failed : ∀ failure, exchange.failure? = some failure →
      (channel.perform store s call).result = .error (.channel (.store failure)))
    (after : (channel.perform store s call).channel = channel.hearing call exchange) :
    (channel.episode store s call).Heeds := by
  have heard : (channel.episode store s call).heard = [exchange] := said
  constructor <;> simp only [heard, List.mem_singleton, forall_eq]
  · exact Nat.le_refl 1
  · exact asks
  · intro appending
    exact asks_appending appending asks
  · intro positional
    exact asks_positional positional asks
  · intro failure found
    exact ⟨failed failure found, after.trans (hearing_failed found)⟩
  · exact after
  · intro answer _
    exact asks

end

end Channel

end SharedBytes
