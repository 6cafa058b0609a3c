import SharedBytes.Store.Basic
import SharedBytes.Capability
import SharedBytes.Event

/-!
# Channels

A channel gives access to a store through a cursor of its own, within the capabilities it was opened
with, until it is closed. Each call is checked before the store hears of it: first the arguments in
the order of their declaration, then whether the channel is open, then the capability. A closed
channel stays closed and keeps its cursor.

What a call does to the cursor depends on the store's answer alone. A call makes at most one call to
the store.
-/

namespace SharedBytes

structure Channel where
  capabilities : Capabilities
  isOpen : Bool := true
  position : Nat := 0
deriving DecidableEq, Repr

structure Reply (σ α : Type) where
  result : α
  channel : Channel
  state : σ
  /-- The caller's slices afterwards, if the call was a read. -/
  slices : List Bytes := []
  events : List Event := []

inductive SeekTarget where
  | start (offset : Nat)
  | current (delta : Int)
  | ending (delta : Int)
deriving DecidableEq, Repr

abbrev Argument := String × Nat

namespace Channel

def opened (capabilities : Capabilities) : Channel :=
  { capabilities }

def moveTo (channel : Channel) (position : Nat) : Channel :=
  { channel with position }

def missing? (channel : Channel) : Requirement → Option ChannelFailure
  | .justOpen => none
  | .readable => if channel.capabilities.isReadable then none else some .notReadable
  | .writable => if channel.capabilities.isWritable then none else some .notWritable

/-- Why a call is refused before the store hears of it, if it is. -/
def refusal? (channel : Channel) (requirement : Requirement) (arguments : List Argument) :
    Option ChannelFailure :=
  match arguments.find? fun argument => maxPosition < argument.2 with
  | some (name, value) => some (.invalidArgument name value)
  | none => if channel.isOpen then channel.missing? requirement else some .notOpen

variable {σ α : Type}

def attempt (channel : Channel) (requirement : Requirement) (arguments : List Argument)
    (slices : List Bytes) (s : σ) (refused : ChannelFailure → α) (call : σ → Reply σ α) :
    Reply σ α :=
  match channel.refusal? requirement arguments with
  | some failure => { result := refused failure, channel, state := s, slices }
  | none => call s

def storeFailed (channel : Channel) (error : StoreFailure) (s : σ) :
    Reply σ (Except ChannelFailure α) :=
  { result := .error error, channel, state := s }

def read (store : Store σ) (channel : Channel) (slices : List Bytes) (s : σ) :
    Reply σ (Except ChannelFailure (Option Nat)) :=
  channel.attempt .readable [] slices s .error fun s =>
    match store.read channel.position slices s with
    | ((.error error, slices), s) => { channel.storeFailed error s with slices }
    | ((.ok count, slices), s) =>
      let channel := channel.moveTo (channel.position + count.getD 0)
      { result := .ok count, channel, state := s, slices,
        events := [.read count channel.position] }

def readAt (store : Store σ) (channel : Channel) (slice : Bytes) (position : Nat) (s : σ) :
    Reply σ (Except ChannelFailure (Option Nat)) :=
  channel.attempt .readable [("position", position)] [slice] s .error fun s =>
    match store.read position [slice] s with
    | ((.error error, slices), s) => { channel.storeFailed error s with slices }
    | ((.ok count, slices), s) => { result := .ok count, channel, state := s, slices }

/-- Writes the pieces of a payload at the cursor and moves the cursor past them. An appending
channel writes at the end of the store instead, and its cursor moves to the new end. -/
def write (store : Store σ) (channel : Channel) (payload : List Bytes) (s : σ) :
    Reply σ (Except ChannelFailure Nat) :=
  channel.attempt .writable [] [] s .error fun s =>
    if channel.capabilities.isAppending then
      match store.append payload s with
      | (.error error, s) => channel.storeFailed error s
      | (.ok appended, s) =>
        let channel := channel.moveTo appended.size
        { result := .ok appended.written, channel, state := s,
          events := [.appended appended.written channel.position] }
    else
      match store.write channel.position payload s with
      | (.error error, s) => channel.storeFailed error s
      | (.ok written, s) =>
        let channel := channel.moveTo (channel.position + written)
        { result := .ok written, channel, state := s, events := [.wrote written channel.position] }

/-- Writes at a position and leaves the cursor where it is. An appending channel pays no heed to the
position: it appends, and its cursor moves to the new end. -/
def writeAt (store : Store σ) (channel : Channel) (payload : Bytes) (position : Nat) (s : σ) :
    Reply σ (Except ChannelFailure Nat) :=
  channel.attempt .writable [("position", position)] [] s .error fun s =>
    if channel.capabilities.isAppending then
      match store.append [payload] s with
      | (.error error, s) => channel.storeFailed error s
      | (.ok appended, s) =>
        { result := .ok appended.written, channel := channel.moveTo appended.size, state := s }
    else
      match store.write position [payload] s with
      | (.error error, s) => channel.storeFailed error s
      | (.ok written, s) => { result := .ok written, channel, state := s }

def cursor (channel : Channel) (s : σ) : Reply σ (Except ChannelFailure Nat) :=
  channel.attempt .justOpen [] [] s .error fun s =>
    { result := .ok channel.position, channel, state := s }

def setPosition (channel : Channel) (position : Nat) (s : σ) :
    Reply σ (Except ChannelFailure Unit) :=
  channel.attempt .justOpen [("new_position", position)] [] s .error fun s =>
    { result := .ok (), channel := channel.moveTo position, state := s }

/-- The exact number that a target stands for, which may be negative or past all positions. -/
def resolve (store : Store σ) (channel : Channel) : SeekTarget → σ → Int × σ
  | .start offset, s => (offset, s)
  | .current delta, s => (channel.position + delta, s)
  | .ending delta, s => (((store.size s).1 : Int) + delta, (store.size s).2)

def seek (store : Store σ) (channel : Channel) (target : SeekTarget) (s : σ) :
    Reply σ (Except ChannelFailure Nat) :=
  channel.attempt .justOpen [] [] s .error fun s =>
    let (position, s) := channel.resolve store target s
    if 0 ≤ position ∧ position ≤ maxPosition then
      { result := .ok position.toNat, channel := channel.moveTo position.toNat, state := s }
    else
      { result := .error (.invalidArgument "position" position), channel, state := s }

def size (store : Store σ) (channel : Channel) (s : σ) : Reply σ (Except ChannelFailure Nat) :=
  channel.attempt .justOpen [] [] s .error fun s =>
    let (size, s) := store.size s
    { result := .ok size, channel, state := s }

/-- Cuts the store down to a size, and the cursor with it. -/
def truncate (store : Store σ) (channel : Channel) (size : Nat) (s : σ) :
    Reply σ (Except ChannelFailure Unit) :=
  channel.attempt .writable [("size", size)] [] s .error fun s =>
    match store.truncate size s with
    | (.error error, s) => channel.storeFailed error s
    | (.ok (), s) =>
      { result := .ok (), channel := channel.moveTo (min channel.position size), state := s }

/-- Writes are in the store at once, so there is nothing to do. -/
def flush (channel : Channel) (metadata : Bool) (s : σ) : Reply σ (Except ChannelFailure Unit) :=
  channel.attempt .justOpen [] [] s .error fun s =>
    { result := .ok (), channel, state := s, events := [.flushed metadata] }

def copyOut (store : Store σ) (channel : Channel) (position count : Nat) (sink : Sink σ)
    (s : σ) : Reply σ (Except ChannelFailure Nat) :=
  channel.attempt .readable [("position", position), ("count", count)] [] s .error fun s =>
    match store.copyOut position count sink s with
    | (.error error, s) => channel.storeFailed error s
    | (.ok moved, s) => { result := .ok moved, channel, state := s }

/-- Stores up to `count` bytes of a source at a position and leaves the cursor where it is. An
appending channel stores them at the end instead, and its cursor moves to the new end. -/
def copyIn (store : Store σ) (channel : Channel) (source : Source σ)
    (position count : Nat) (s : σ) : Reply σ (Outcome ChannelFailure Nat) :=
  channel.attempt .writable [("position", position), ("count", count)] [] s .error fun s =>
    if channel.capabilities.isAppending then
      match store.copyInAtEnd source count s with
      | (.ok appended, s) =>
        let channel := channel.moveTo appended.size
        { result := .ok appended.written, channel, state := s,
          events := [.appendedFromSource appended.written channel.position] }
      | (.error error, s) => { result := .error error, channel, state := s }
      | (.aborted, s) => { result := .aborted, channel, state := s }
    else
      let (outcome, s) := store.copyIn source position count s
      { result := outcome.mapError .store, channel, state := s }

/-- A store in memory is never mapped, whatever the arguments and the state of the channel. -/
def map (channel : Channel) (mode : Mapping) (position size : Nat) (s : σ) :
    Reply σ (Except ChannelFailure Empty) :=
  { result := .error (.unsupported "memory mapping"), channel, state := s,
    events := [.mapRefused mode position size] }

/-- A lock on a range of bytes, at once. A shared one needs a channel that can be read, any other
a channel that can be written. -/
def lock (channel : Channel) (position size : Nat) (shared : Bool) (s : σ) :
    Reply σ (Except ChannelFailure RangeLock) :=
  let requirement := if shared then Requirement.readable else Requirement.writable
  channel.attempt requirement [("position", position), ("size", size)] [] s .error fun s =>
    { result := .ok { position, size, shared }, channel, state := s }

/-- Gives the hold on the store back. To close a closed channel does no harm. -/
def close (store : Store σ) (channel : Channel) (s : σ) : Reply σ (Except ChannelFailure Unit) :=
  if channel.isOpen then
    { result := .ok (), channel := { channel with isOpen := false }, state := store.release s,
      events := [.closed channel.position] }
  else { result := .ok (), channel, state := s, events := [.closedAgain] }

def drop (store : Store σ) (channel : Channel) (s : σ) : Reply σ Unit :=
  if channel.isOpen then
    { result := (), channel := { channel with isOpen := false }, state := store.release s,
      events := [.droppedOpen channel.position] }
  else { result := (), channel, state := s }

def inspect (channel : Channel) : String :=
  "Channel(open=" ++ toString channel.isOpen ++ ", position=" ++ toString channel.position
    ++ ", options=" ++ channel.capabilities.inspect ++ ")"

end Channel

end SharedBytes
