import SharedBytes.Session.Peer

/-!
# The steps of a session

A step names a buffer by one of its handles, a channel or a lock, and says what to do with it. Its
report holds the outcome and all that an onlooker can tell of the step's effects.
-/

namespace SharedBytes

inductive Origin where
  | empty
  | bounded (limit : Nat)
  | filled (bytes : Bytes)
deriving DecidableEq, Repr

def Origin.buffer : Origin → Buffer
  | .empty => .empty
  | .bounded limit => .bounded limit
  | .filled bytes => .ofBytes bytes

inductive BufferOp where
  | clone
  | drop
  | limit
  | size
  | holders
  | isEmpty
  | content
  | view
  | inspect
  | read (position : Nat) (slices : List Bytes)
  | write (position : Nat) (payload : List Bytes)
  | append (payload : List Bytes)
  | truncate (size : Nat)
  | copyOut (position count : Nat) (sink : SinkPeer)
  | copyIn (source : SourcePeer) (position count : Nat)
  | copyInAtEnd (source : SourcePeer) (count : Nat)
deriving DecidableEq, Repr

inductive ChannelOp where
  | request (request : Request)
  | copyOut (position count : Nat) (sink : SinkPeer)
  | copyIn (source : SourcePeer) (position count : Nat)
  | isOpen
  | capabilities
  | inspect
  /-- Does away with the channel and with the locks it has granted. -/
  | drop
deriving DecidableEq, Repr

inductive LockOp where
  | fields
  | isValid
  | release
  | overlaps (position size : Nat)
  | inspect
  | drop
deriving DecidableEq, Repr

inductive Op where
  | create (origin : Origin)
  | buffer (handle : Nat) (op : BufferOp)
  | openChannel (handle : Nat) (capabilities : Capabilities) (fixed : FixedReplies) (traced : Bool)
  | channel (id : Nat) (op : ChannelOp)
  | lock (id : Nat) (op : LockOp)

inductive Value where
  | done
  | id (id : Nat)
  | number (n : Nat)
  | optional (n : Option Nat)
  | flag (b : Bool)
  | bytes (bytes : Bytes)
  | views (first second : Bytes)
  | text (text : String)
  | appended (appended : Receipt)
  | capabilities (capabilities : Capabilities)
  | lock (held : HeldLock)
deriving DecidableEq, Repr

inductive StepFailure where
  | store (failure : StoreFailure)
  | call (failure : CallFailure)
  /-- The step names something that is not there, or a channel as its own peer. -/
  | absent
deriving DecidableEq, Repr

structure Standing where
  cursor : Option Nat
  /-- The size of the buffer it was opened on, if that handle is still there. -/
  size : Option Nat
  /-- The calls its store has received since they were last shown, if they are shown. -/
  calls : Option (List StoreCall)
deriving DecidableEq, Repr

structure StepResult where
  outcome : Outcome StepFailure Value
  slices : Option (List Bytes) := none
  /-- What the peer has to say, if the step was a transfer that was not cut short. -/
  peer : Option PeerReport := none
deriving DecidableEq, Repr

def StepResult.ok (value : Value) : StepResult :=
  { outcome := .ok value }

def StepResult.absent : StepResult :=
  { outcome := .error .absent }

/-- The result of a transfer. Of one that was cut short nothing is heard from the peer. -/
def StepResult.transfer (outcome : Outcome StepFailure Value) (peer : PeerReport) : StepResult :=
  { outcome
    peer := match outcome with
      | .aborted => none
      | _ => some peer }

structure Report extends StepResult where
  log : List Event
  standing : Option Standing
deriving DecidableEq, Repr

end SharedBytes
