import SharedBytes.Session.Op

/-!
# Carrying out the steps of a session
-/

namespace SharedBytes

def Answer.value (nextLock : Nat) : Answer → Value
  | .done => .done
  | .number n => .number n
  | .reading count => .optional count
  | .granted _ => .id nextLock

namespace Session

/-- Releases a lock. Only the first release is recorded, with the lock already invalid. -/
def releaseLock (session : Session) (id : Nat) : Session :=
  match session.lock? id with
  | none => session
  | some held =>
    if held.lock.valid then
      (session.modifyLock id RangeLock.release).record [.released held.lock.release]
    else session

def dropLock (session : Session) (id : Nat) : Session :=
  let session := session.releaseLock id
  { session with locks := session.locks.set id none }

def dropLocksOf (session : Session) (channel : Nat) : Session :=
  (List.range session.locks.length).foldl
    (fun session id =>
      if (session.lock? id).any (·.channel == channel) then session.dropLock id else session)
    session

def runLock (session : Session) (id : Nat) (op : LockOp) : StepResult × Session :=
  match session.lock? id with
  | none => (.absent, session)
  | some held =>
    match op with
    | .fields => (.ok (.lock held), session)
    | .isValid => (.ok (.flag held.lock.valid), session)
    | .release =>
      let session := session.releaseLock id
      (.ok (.flag ((session.lock? id).any (·.lock.valid))), session)
    | .overlaps position size => (.ok (.flag (held.lock.overlaps position size)), session)
    | .inspect => (.ok (.text held.lock.inspect), session)
    | .drop => (.ok .done, session.dropLock id)

def create (session : Session) (origin : Origin) : StepResult × Session :=
  (.ok (.id session.handles.length),
    { session with
      buffers := session.buffers ++ [origin.buffer]
      handles := session.handles ++ [some session.buffers.length] })

variable [Memory]

def runBuffer (session : Session) (handle index : Nat) (op : BufferOp) : StepResult × Session :=
  let buffer := session.bufferAt index
  match op with
  | .clone =>
    (.ok (.id session.handles.length),
      { session.modifyBuffer index Buffer.hold with
        handles := session.handles ++ [some index] })
  | .drop =>
    (.ok .done,
      { session.modifyBuffer index Buffer.release with
        handles := session.handles.set handle none })
  | .limit => (.ok (.optional buffer.limit), session)
  | .size => (.ok (.number buffer.size), session)
  | .holders => (.ok (.number buffer.holders), session)
  | .isEmpty => (.ok (.flag buffer.isEmpty), session)
  | .content => (.ok (.bytes buffer.bytes), session)
  | .view => (.ok (.views buffer.bytes buffer.bytes), session)
  | .inspect => (.ok (.text buffer.inspect), session)
  | .read position slices =>
    let (count, slices) := buffer.read position slices
    ({ outcome := .ok (.optional count), slices := some slices }, session)
  | .write position payload =>
    let (answer, buffer) := buffer.write position payload
    ({ outcome := ((Outcome.ofExcept answer).map .number).mapError .store },
      session.modifyBuffer index fun _ => buffer)
  | .append payload =>
    let (answer, buffer) := buffer.append payload
    ({ outcome := ((Outcome.ofExcept answer).map .appended).mapError .store },
      session.modifyBuffer index fun _ => buffer)
  | .truncate size => (.ok .done, session.modifyBuffer index (·.truncate size))
  | .copyOut position count sink =>
    if sink.isAtHand session none then
      let (answer, session, sink) :=
        (place SinkPeer index).copyOut position count SinkPeer.sink (session, sink)
      (.transfer (((Outcome.ofExcept answer).map .number).mapError .store) (sink.report session),
        session)
    else (.absent, session)
  | .copyIn source position count =>
    if source.isAtHand session none then
      let (outcome, session, source) :=
        (place SourcePeer index).copyIn SourcePeer.source position count (session, source)
      (.transfer ((outcome.map .number).mapError .store) (source.report session), session)
    else (.absent, session)
  | .copyInAtEnd source count =>
    if source.isAtHand session none then
      let (outcome, session, source) :=
        (place SourcePeer index).copyInAtEnd SourcePeer.source count (session, source)
      (.transfer ((outcome.map .appended).mapError .store) (source.report session), session)
    else (.absent, session)

omit [Memory] in
def openChannel (session : Session) (handle : Nat) (capabilities : Capabilities)
    (fixed : FixedReplies) (traced : Bool) : StepResult × Session :=
  match session.handle? handle with
  | none => (.absent, session)
  | some index =>
    let slot := { channel := .opened capabilities, handle, buffer := index, fixed, traced }
    (.ok (.id session.slots.length),
      { session.modifyBuffer index Buffer.hold with slots := session.slots ++ [some slot] })

omit [Memory] in
def keepLock (session : Session) (channel : Nat) : Outcome CallFailure Answer → Session
  | .ok (.granted lock) => { session with locks := session.locks ++ [some { channel, lock }] }
  | _ => session

/-- Does away with a channel, after the locks it has granted. -/
def dropChannel (session : Session) (id : Nat) : Session :=
  match session.slot? id with
  | none => session
  | some slot =>
    let session := session.dropLocksOf id
    let (session, _) := settle id (slot.channel.drop (slot.store id) (session, ()))
    { session with slots := session.slots.set id none }

def runChannel (session : Session) (id : Nat) (slot : Slot) (op : ChannelOp) :
    StepResult × Session :=
  match op with
  | .request request =>
    let reply := slot.channel.perform (slot.store id) (session, ()) (.request request)
    let nextLock := session.locks.length
    let (session, _) := settle id reply
    ({ outcome := (reply.result.map (Answer.value nextLock)).mapError .call,
       slices := request.slices?.map fun _ => reply.slices },
      session.keepLock id reply.result)
  | .copyOut position count sink =>
    if sink.isAtHand session (some id) then
      let reply := slot.channel.perform (slot.store id) (session, sink)
        (.copyOut position count SinkPeer.sink)
      let (session, sink) := settle id reply
      (.transfer ((reply.result.map (Answer.value 0)).mapError .call) (sink.report session),
        session)
    else (.absent, session)
  | .copyIn source position count =>
    if source.isAtHand session (some id) then
      let reply := slot.channel.perform (slot.store id) (session, source)
        (.copyIn SourcePeer.source position count)
      let (session, source) := settle id reply
      (.transfer ((reply.result.map (Answer.value 0)).mapError .call) (source.report session),
        session)
    else (.absent, session)
  | .isOpen => (.ok (.flag slot.channel.isOpen), session)
  | .capabilities => (.ok (.capabilities slot.channel.capabilities), session)
  | .inspect => (.ok (.text slot.channel.inspect), session)
  | .drop => (.ok .done, session.dropChannel id)

def perform (session : Session) : Op → StepResult × Session
  | .create origin => session.create origin
  | .buffer handle op =>
    match session.handle? handle with
    | none => (.absent, session)
    | some index => session.runBuffer handle index op
  | .openChannel handle capabilities fixed traced =>
    session.openChannel handle capabilities fixed traced
  | .channel id op =>
    match session.slot? id with
    | none => (.absent, session)
    | some slot => session.runChannel id slot op
  | .lock id op => session.runLock id op

omit [Memory] in
def standing? (session : Session) (id : Nat) : Option Standing :=
  (session.slot? id).map fun slot =>
    { cursor := if slot.channel.isOpen then some slot.channel.position else none
      size := (session.handle? slot.handle).map fun index => (session.bufferAt index).size
      calls := if slot.traced then some slot.calls else none }

/-- Carries out a step and reports it. The calls to a channel's store are shown once. -/
def step (session : Session) (op : Op) : Report × Session :=
  let (result, session) := { session with log := [] }.perform op
  match op with
  | .channel id _ =>
    ({ result with log := session.log, standing := session.standing? id },
      session.modifySlot id fun slot => { slot with calls := [] })
  | _ => ({ result with log := session.log, standing := none }, session)

def run (session : Session) : List Op → List Report × Session
  | [] => ([], session)
  | op :: ops =>
    let (report, session) := session.step op
    let (reports, session) := session.run ops
    (report :: reports, session)

omit [Memory] in
def contents (session : Session) : List (Option Bytes) :=
  session.handles.map (·.map fun index => (session.bufferAt index).bytes)

omit [Memory] in
def channelTexts (session : Session) : List (Option String) :=
  session.slots.map (·.map (·.channel.inspect))

/-- Ends the session: all locks go, then all channels. Gives what that records. -/
def finish (session : Session) : List Event :=
  let session := (List.range session.locks.length).foldl dropLock { session with log := [] }
  ((List.range session.slots.length).foldl dropChannel session).log

end Session

end SharedBytes
