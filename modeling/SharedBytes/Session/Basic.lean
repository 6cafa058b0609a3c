import SharedBytes.Channel.Request
import SharedBytes.Store.Probe

/-!
# Sessions

A session holds buffers and those who share them: handles and channels, and the locks that channels
have granted. Handles, channels and locks are known by the number they got when they came into
being; the number stays theirs after they are gone. Several handles and channels may stand for one
buffer.
-/

namespace SharedBytes

structure Slot where
  channel : Channel
  handle : Nat
  buffer : Nat
  /-- The fixed replies of the probe before its store. -/
  fixed : FixedReplies := {}
  traced : Bool := false
  /-- The calls its store has received since they were last shown, in order. -/
  calls : List StoreCall := []

structure HeldLock where
  channel : Nat
  lock : RangeLock
deriving DecidableEq, Repr

structure Session where
  buffers : List Buffer := []
  /-- For each handle the buffer it stands for, until it is dropped. -/
  handles : List (Option Nat) := []
  slots : List (Option Slot) := []
  locks : List (Option HeldLock) := []
  /-- What was recorded since the present step began, in order. -/
  log : List Event := []

namespace Session

def handle? (session : Session) (id : Nat) : Option Nat :=
  session.handles[id]?.join

def slot? (session : Session) (id : Nat) : Option Slot :=
  session.slots[id]?.join

def lock? (session : Session) (id : Nat) : Option HeldLock :=
  session.locks[id]?.join

def bufferAt (session : Session) (index : Nat) : Buffer :=
  session.buffers.getD index {}

def modifyBuffer (session : Session) (index : Nat) (change : Buffer → Buffer) : Session :=
  { session with buffers := session.buffers.modify index change }

def modifySlot (session : Session) (id : Nat) (change : Slot → Slot) : Session :=
  { session with slots := session.slots.modify id (·.map change) }

def modifyLock (session : Session) (id : Nat) (change : RangeLock → RangeLock) : Session :=
  { session with
    locks := session.locks.modify id (·.map fun held =>
      { held with lock := change held.lock }) }

def record (session : Session) (events : List Event) : Session :=
  { session with log := session.log ++ events }

def place [Memory] (π : Type) (index : Nat) : Place (Session × π) :=
  .ofPart (fun s => s.1.bufferAt index)
    fun buffer s => (s.1.modifyBuffer index fun _ => buffer, s.2)

end Session

def Slot.store {π : Type} [Memory] (slot : Slot) (id : Nat) : Store (Session × π) :=
  let note call (s : Session × π) :=
    (s.1.modifySlot id fun slot => { slot with calls := slot.calls ++ [call] }, s.2)
  ((Session.place π slot.buffer).store.replying slot.fixed).noting note

namespace Session

def settle {π α : Type} (id : Nat) (reply : Reply (Session × π) α) : Session × π :=
  let session := reply.state.1.modifySlot id fun slot => { slot with channel := reply.channel }
  (session.record reply.events, reply.state.2)

end Session

end SharedBytes
