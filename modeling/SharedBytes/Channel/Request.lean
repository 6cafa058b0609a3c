import SharedBytes.Channel.Stream

/-!
# Calls as data

Every call that a channel takes, as a value, and what it answers. A run of calls is then a list.
-/

namespace SharedBytes

inductive Request where
  | read (slices : List Bytes)
  | readAt (slice : Bytes) (position : Nat)
  | write (payload : List Bytes)
  | writeAt (payload : Bytes) (position : Nat)
  | cursor
  | size
  | setPosition (position : Nat)
  | seek (target : SeekTarget)
  | truncate (size : Nat)
  | flush (metadata : Bool)
  | map (mode : Mapping) (position size : Nat)
  | lock (position size : Nat) (shared : Bool)
  | tryLock (position size : Nat) (shared : Bool)
  | close
  | streamRead (slice : Bytes)
  | readExact (slice : Bytes)
  | streamWrite (bytes : Bytes)
  | writeAll (bytes : Bytes)
  | streamFlush
  | streamSeek (target : SeekTarget)
  | rewind
  | streamPosition
deriving DecidableEq, Repr

def Request.slices? : Request → Option (List Bytes)
  | read slices => some slices
  | readAt slice _ => some [slice]
  | streamRead slice => some [slice]
  | readExact slice => some [slice]
  | _ => none

inductive Call (σ : Type) where
  | request (request : Request)
  | copyOut (position count : Nat) (sink : Sink σ)
  | copyIn (source : Source σ) (position count : Nat)

inductive Answer where
  | done
  | number (n : Nat)
  | reading (count : Option Nat)
  | granted (lock : RangeLock)
deriving DecidableEq, Repr

namespace Reply

variable {σ α : Type}

def answering (reply : Reply σ (Except ChannelFailure α)) (answer : α → Answer) :
    Reply σ (Outcome CallFailure Answer) :=
  { reply with result := ((Outcome.ofExcept reply.result).map answer).mapError .channel }

end Reply

namespace Channel

variable {σ : Type}

/-- Carries out a call that involves no peer. To rewind is to seek the start; the position of a
stream is found by seeking no further than the cursor; a lock that is only tried is granted like any
other, since nobody ever waits for one. -/
def serve (store : Store σ) (channel : Channel) (s : σ) :
    Request → Reply σ (Outcome CallFailure Answer)
  | .read slices => (channel.read store slices s).answering .reading
  | .readAt slice position => (channel.readAt store slice position s).answering .reading
  | .write payload => (channel.write store payload s).answering .number
  | .writeAt payload position => (channel.writeAt store payload position s).answering .number
  | .cursor => (channel.cursor s).answering .number
  | .size => (channel.size store s).answering .number
  | .setPosition position => (channel.setPosition position s).answering fun _ => .done
  | .seek target => (channel.seek store target s).answering .number
  | .truncate size => (channel.truncate store size s).answering fun _ => .done
  | .flush metadata => (channel.flush metadata s).answering fun _ => .done
  | .map mode position size => (channel.map mode position size s).answering nofun
  | .lock position size shared => (channel.lock position size shared s).answering .granted
  | .tryLock position size shared => (channel.lock position size shared s).answering .granted
  | .close => (channel.close store s).answering fun _ => .done
  | .streamRead slice => (channel.streamRead store slice s).answering .number
  | .readExact slice =>
    let reply := channel.readExact store slice s
    { reply with result := reply.result.map fun _ => .done }
  | .streamWrite bytes => (channel.streamWrite store bytes s).answering .number
  | .writeAll bytes =>
    let reply := channel.writeAll store bytes s
    { reply with result := reply.result.map fun _ => .done }
  | .streamFlush => (channel.flush false s).answering fun _ => .done
  | .streamSeek target => (channel.seek store target s).answering .number
  | .rewind => (channel.seek store (.start 0) s).answering fun _ => .done
  | .streamPosition => (channel.seek store (.current 0) s).answering .number

def perform (store : Store σ) (channel : Channel) (s : σ) :
    Call σ → Reply σ (Outcome CallFailure Answer)
  | .request request => channel.serve store s request
  | .copyOut position count sink =>
    (channel.copyOut store position count sink s).answering .number
  | .copyIn source position count =>
    let reply := channel.copyIn store source position count s
    { reply with result := (reply.result.map .number).mapError .channel }

end Channel

end SharedBytes
