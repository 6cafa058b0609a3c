import SharedBytes.Channel.Basic

/-!
# Channels as streams

A stream reader is told of the end by a read of no bytes. Two calls go on until all is done: a full
read, which fails at the end of the data, and a full write. Both are cut short when the store
reports more bytes than it was given, and a full write also when the store reports none.
-/

namespace SharedBytes

inductive CallFailure where
  | channel (error : ChannelFailure)
  | endOfData
deriving DecidableEq, Repr

namespace Channel

variable {σ : Type}

/-- Reads at the cursor, with zero for the end. -/
def streamRead (store : Store σ) (channel : Channel) (slice : Bytes) (s : σ) :
    Reply σ (Except ChannelFailure Nat) :=
  let reply := channel.read store [slice] s
  { reply with result := reply.result.map (·.getD 0) }

def streamWrite (store : Store σ) (channel : Channel) (bytes : Bytes) (s : σ) :
    Reply σ (Except ChannelFailure Nat) :=
  channel.write store [bytes] s

def fill (store : Store σ) (channel : Channel) (filled rest : Bytes) (events : List Event)
    (s : σ) : Reply σ (Outcome CallFailure Unit) :=
  if _unfilled : rest = [] then
    { result := .ok (), channel, state := s, slices := [filled], events }
  else
    let reply := channel.streamRead store rest s
    let slice := Bytes.overlay reply.slices.flatten rest
    let stopped (result : Outcome CallFailure Unit) : Reply σ (Outcome CallFailure Unit) :=
      { result, channel := reply.channel, state := reply.state, slices := [filled ++ slice],
        events := events ++ reply.events }
    match reply.result with
    | .error error => stopped (.error (.channel error))
    | .ok 0 => stopped (.error .endOfData)
    | .ok (n + 1) =>
      if rest.length < n + 1 then stopped .aborted
      else
        fill store reply.channel (filled ++ slice.take (n + 1)) (slice.drop (n + 1))
          (events ++ reply.events) reply.state
termination_by rest.length
decreasing_by
  simp only [List.length_drop, Bytes.length_overlay]
  omega

/-- Fills a slice. What was read before a failure stays read. -/
def readExact (store : Store σ) (channel : Channel) (slice : Bytes) (s : σ) :
    Reply σ (Outcome CallFailure Unit) :=
  channel.fill store [] slice [] s

def spill (store : Store σ) (channel : Channel) (bytes : Bytes) (events : List Event) (s : σ) :
    Reply σ (Outcome CallFailure Unit) :=
  if bytes = [] then { result := .ok (), channel, state := s, events }
  else
    let reply := channel.streamWrite store bytes s
    let stopped (result : Outcome CallFailure Unit) : Reply σ (Outcome CallFailure Unit) :=
      { result, channel := reply.channel, state := reply.state, events := events ++ reply.events }
    match reply.result with
    | .error error => stopped (.error (.channel error))
    | .ok 0 => stopped .aborted
    | .ok (n + 1) =>
      if bytes.length < n + 1 then stopped .aborted
      else
        spill store reply.channel (bytes.drop (n + 1)) (events ++ reply.events) reply.state
termination_by bytes.length
decreasing_by
  simp only [List.length_drop]
  omega

def writeAll (store : Store σ) (channel : Channel) (bytes : Bytes) (s : σ) :
    Reply σ (Outcome CallFailure Unit) :=
  channel.spill store bytes [] s

end Channel

end SharedBytes
