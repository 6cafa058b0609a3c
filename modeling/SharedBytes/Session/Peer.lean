import SharedBytes.Session.Basic

/-!
# The peers that a session knows

A transfer of a session has a sink or a source of one of these kinds: memory, another channel of the
session, or a script that says for each call what the peer does, to buffers of the session too, and
what it reports.
-/

namespace SharedBytes

structure Edit where
  handle : Nat
  truncate : Option Nat := none
  append : Bytes := []
deriving DecidableEq, Repr

structure Turn where
  edit : Option Edit := none
  failure : Option FailureKind := none
  most : Option Nat := none
  /-- The number it reports in place of the number of bytes it has moved. -/
  claim : Option Nat := none
deriving DecidableEq, Repr

structure Script where
  turns : List Turn
  asked : List Nat := []
deriving DecidableEq, Repr

namespace Script

/-- The present turn. A script that is over lets everything through. -/
def turn (script : Script) : Turn :=
  script.turns.headD {}

def next (script : Script) (length : Nat) : Script where
  turns := script.turns.tail
  asked := script.asked ++ [length]

end Script

inductive SinkPeer where
  | collector (taken : Bytes)
  /-- Takes what fits into a region of memory, and fails when there is no room. -/
  | region (room : Nat) (taken : Bytes)
  | channel (id : Nat)
  | scripted (script : Script) (taken : Bytes)
deriving DecidableEq, Repr

inductive SourcePeer where
  | slice (left : Bytes)
  | channel (id : Nat)
  | scripted (script : Script) (left : Bytes)
deriving DecidableEq, Repr

inductive PeerReport where
  | bytes (bytes : Bytes)
  | left (count : Nat)
  | channel (text : String)
  | scripted (asked : List Nat) (bytes : Bytes)
deriving DecidableEq, Repr

variable [Memory]

namespace Session

/-- Carries out an edit: the cut first, then the addition. What the buffer refuses is let go. -/
def apply (session : Session) (edit : Edit) : Session :=
  match session.handle? edit.handle with
  | none => session
  | some index =>
    session.modifyBuffer index fun buffer =>
      let cut := (edit.truncate.map buffer.truncate).getD buffer
      (cut.append [edit.append]).2

def writeStream (session : Session) (id : Nat) (bytes : Bytes) :
    Except FailureKind Nat × Session :=
  match session.slot? id with
  | none => (.error .notFound, session)
  | some slot =>
    let reply := slot.channel.streamWrite (slot.store id) bytes (session, ())
    (reply.result.mapError ChannelFailure.kind, (settle id reply).1)

def readStream (session : Session) (id : Nat) (slice : Bytes) : Supply × Session :=
  match session.slot? id with
  | none => (⟨.error .notFound, []⟩, session)
  | some slot =>
    let reply := slot.channel.streamRead (slot.store id) slice (session, ())
    (⟨reply.result.mapError ChannelFailure.kind, reply.slices.flatten⟩, (settle id reply).1)

def takeTurn (session : Session) (turn : Turn) : Session :=
  (turn.edit.map session.apply).getD session

end Session

def SinkPeer.sink : Sink (Session × SinkPeer) := fun offered (session, peer) =>
  match peer with
  | .collector taken => (.ok offered.length, session, .collector (taken ++ offered))
  | .region room taken =>
    if offered ≠ [] ∧ room = 0 then (.error .writeZero, session, peer)
    else
      let fits := offered.take room
      (.ok fits.length, session, .region (room - fits.length) (taken ++ fits))
  | .channel id =>
    let (answer, session) := session.writeStream id offered
    (answer, session, peer)
  | .scripted script taken =>
    let turn := script.turn
    let script := script.next offered.length
    let session := session.takeTurn turn
    match turn.failure with
    | some kind => (.error kind, session, .scripted script taken)
    | none =>
      let moved := offered.take (turn.most.getD offered.length)
      (.ok (turn.claim.getD moved.length), session, .scripted script (taken ++ moved))

def SourcePeer.source : Source (Session × SourcePeer) := fun offered (session, peer) =>
  match peer with
  | .slice left =>
    let moved := left.take offered.length
    (⟨.ok moved.length, moved⟩, session, .slice (left.drop offered.length))
  | .channel id =>
    let (supply, session) := session.readStream id offered
    (supply, session, peer)
  | .scripted script left =>
    let turn := script.turn
    let script := script.next offered.length
    let session := session.takeTurn turn
    match turn.failure with
    | some kind => (⟨.error kind, []⟩, session, .scripted script left)
    | none =>
      let count := min offered.length (turn.most.getD offered.length)
      let moved := left.take count
      (⟨.ok (turn.claim.getD moved.length), moved⟩, session, .scripted script (left.drop count))

omit [Memory] in
def Session.channelReport (session : Session) (id : Nat) : PeerReport :=
  .channel (((session.slot? id).map (·.channel.inspect)).getD "")

omit [Memory] in
def SinkPeer.report (session : Session) : SinkPeer → PeerReport
  | .collector taken => .bytes taken
  | .region _ taken => .bytes taken
  | .channel id => session.channelReport id
  | .scripted script taken => .scripted script.asked taken

omit [Memory] in
def SourcePeer.report (session : Session) : SourcePeer → PeerReport
  | .slice left => .left left.length
  | .channel id => session.channelReport id
  | .scripted script left => .scripted script.asked left

omit [Memory] in
/-- Whether a sink is at hand for a transfer of the channel `self`, if it is a channel's. No channel
is its own peer. -/
def SinkPeer.isAtHand (session : Session) (self : Option Nat) : SinkPeer → Bool
  | .channel id => (session.slot? id).isSome && self != some id
  | _ => true

omit [Memory] in
def SourcePeer.isAtHand (session : Session) (self : Option Nat) : SourcePeer → Bool
  | .channel id => (session.slot? id).isSome && self != some id
  | _ => true

end SharedBytes
