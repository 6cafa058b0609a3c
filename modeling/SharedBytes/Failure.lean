import SharedBytes.Text.Quoted

/-!
# Causes of failure

`FailureKind` says what sort of trouble a peer reports. A store fails because it may not grow, or
because the peer of a transfer failed. A channel fails by itself before it turns to its store, or
passes on what the store reports. Each failure has a message for people, a kind for a peer, and an
inspection text that spells out its fields.
-/

namespace SharedBytes

inductive FailureKind where
  | other
  | notFound
  | permissionDenied
  | connectionRefused
  | connectionReset
  | connectionAborted
  | notConnected
  | addrInUse
  | addrNotAvailable
  | brokenPipe
  | alreadyExists
  | invalidInput
  | invalidData
  | timedOut
  | interrupted
  | unsupported
  | outOfMemory
  | writeZero
deriving DecidableEq, Repr

namespace FailureKind

def name : FailureKind → String
  | other => "Other"
  | notFound => "NotFound"
  | permissionDenied => "PermissionDenied"
  | connectionRefused => "ConnectionRefused"
  | connectionReset => "ConnectionReset"
  | connectionAborted => "ConnectionAborted"
  | notConnected => "NotConnected"
  | addrInUse => "AddrInUse"
  | addrNotAvailable => "AddrNotAvailable"
  | brokenPipe => "BrokenPipe"
  | alreadyExists => "AlreadyExists"
  | invalidInput => "InvalidInput"
  | invalidData => "InvalidData"
  | timedOut => "TimedOut"
  | interrupted => "Interrupted"
  | unsupported => "Unsupported"
  | outOfMemory => "OutOfMemory"
  | writeZero => "WriteZero"

def all : List FailureKind :=
  [other, notFound, permissionDenied, connectionRefused, connectionReset, connectionAborted,
    notConnected, addrInUse, addrNotAvailable, brokenPipe, alreadyExists, invalidInput,
    invalidData, timedOut, interrupted, unsupported, outOfMemory, writeZero]

def ofName? (text : String) : Option FailureKind :=
  all.find? fun kind => kind.name == text

/-- A kind in words. Kinds that no transfer is expected to meet share one wording. -/
def description : FailureKind → String
  | notFound => "not found"
  | permissionDenied => "permission denied"
  | notConnected => "not connected"
  | brokenPipe => "broken pipe"
  | invalidInput => "invalid input"
  | invalidData => "invalid data"
  | timedOut => "timed out"
  | interrupted => "interrupted"
  | unsupported => "unsupported"
  | outOfMemory => "out of memory"
  | other => "other error"
  | _ => "unknown error"

end FailureKind

inductive StoreFailure where
  | capacityExceeded (limit requested : Nat)
  | sink (kind : FailureKind)
  | source (kind : FailureKind)
deriving DecidableEq, Repr

namespace StoreFailure

/-- The kind that a peer is told. -/
def kind : StoreFailure → FailureKind
  | capacityExceeded .. => .outOfMemory
  | sink kind => kind
  | source kind => kind

def message : StoreFailure → String
  | capacityExceeded limit requested =>
    s!"store capacity exceeded: {requested} bytes requested, limit is {limit}"
  | sink kind => "transfer sink failed: " ++ kind.description
  | source kind => "transfer source failed: " ++ kind.description

def inspect : StoreFailure → String
  | capacityExceeded limit requested =>
    s!"CapacityExceeded \x7b limit: {limit}, requested: {requested} \x7d"
  | sink kind => "Sink(" ++ kind.name ++ ")"
  | source kind => "Source(" ++ kind.name ++ ")"

end StoreFailure

inductive ChannelFailure where
  | notOpen
  | notReadable
  | notWritable
  | invalidArgument (name : String) (value : Int)
  /-- No channel in memory can do this. -/
  | unsupported (what : String)
  | store (failure : StoreFailure)
deriving DecidableEq, Repr

namespace ChannelFailure

def kind : ChannelFailure → FailureKind
  | notOpen => .notConnected
  | notReadable => .permissionDenied
  | notWritable => .permissionDenied
  | invalidArgument .. => .invalidInput
  | unsupported _ => .unsupported
  | store failure => failure.kind

/-- The error in words. A store's error speaks for itself. -/
def message : ChannelFailure → String
  | notOpen => "channel is closed"
  | notReadable => "channel is not readable"
  | notWritable => "channel is not writable"
  | invalidArgument name value => s!"{name} out of range: {value}"
  | unsupported what => "unsupported operation: " ++ what
  | store failure => failure.message

def inspect : ChannelFailure → String
  | notOpen => "NotOpen"
  | notReadable => "NotReadable"
  | notWritable => "NotWritable"
  | invalidArgument name value =>
    "InvalidArgument \x7b name: " ++ Text.quoted name.toList ++ ", value: " ++ toString value
      ++ " \x7d"
  | unsupported what => "Unsupported(" ++ Text.quoted what.toList ++ ")"
  | store failure => "Store(" ++ failure.inspect ++ ")"

/-- The error that brought this one about. There is none: a store's error is passed on as itself. -/
def cause? (_ : ChannelFailure) : Option ChannelFailure :=
  none

end ChannelFailure

instance : Coe StoreFailure ChannelFailure := ⟨.store⟩

end SharedBytes
