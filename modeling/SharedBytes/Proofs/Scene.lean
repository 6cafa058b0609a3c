import SharedBytes.Proofs.Channel.Kept

/-!
# A buffer and all who use it

A scene is one buffer, the handles and channels on it, and the rest of the world. Beside them it
keeps a history of what was done to the content, which nobody reads. A course leads from one scene
to another through any number of calls of any users, in any order. The peers of transfers are part
of the world: what a peer does while it is called is a course of its own, so it may work on the
same buffer through other handles and channels, and its reports may be true or not. What other
threads do between the chunks of a transfer counts as its peer's doing. Memory may have another
room for each piece of work.
-/

namespace SharedBytes

inductive Change where
  | stored (position : Nat) (bytes : Bytes)
  | cut (size : Nat)
deriving DecidableEq, Repr

/-- What an attempt to store a payload did to the content: nothing if it failed. -/
def Change.ofAnswer {α : Type} (position : Nat) (payload : List Bytes) :
    Except StoreFailure α → List Change
  | .ok _ => [.stored position payload.flatten]
  | .error _ => []

structure Scene (ω : Type) where
  buffer : Buffer
  handles : Nat := 1
  channels : List Channel := []
  history : List Change := []
  world : ω

namespace Scene

variable {ω : Type}

def ofBuffer (buffer : Buffer) (world : ω) : Scene ω :=
  { buffer, world }

/-- The place of the buffer. Work on it goes into the history, unless it fails. -/
def place (room : Scene ω → Memory) : Place (Scene ω) where
  look := buffer
  write position payload s :=
    let result := @Buffer.write (room s) s.buffer position payload
    (result.1,
      { s with
        buffer := result.2
        history := s.history ++ Change.ofAnswer position payload result.1 })
  append payload s :=
    let result := @Buffer.append (room s) s.buffer payload
    (result.1,
      { s with
        buffer := result.2
        history := s.history ++ Change.ofAnswer s.buffer.size payload result.1 })
  truncate size s :=
    { s with buffer := s.buffer.truncate size, history := s.history ++ [.cut size] }
  release s := { s with buffer := s.buffer.release }

def openChannel (s : Scene ω) (capabilities : Capabilities) : Scene ω :=
  { s with buffer := s.buffer.hold, channels := s.channels ++ [.opened capabilities] }

def settle {α : Type} (id : Nat) (reply : Reply (Scene ω) α) : Scene ω :=
  { reply.state with channels := reply.state.channels.set id reply.channel }

inductive Course (room : Scene ω → Memory) : Scene ω → Scene ω → Prop
  | rest (s : Scene ω) : Course room s s
  | andThen {r s t : Scene ω} : Course room r s → Course room s t → Course room r t
  | elsewhere (s : Scene ω) (world : ω) : Course room s { s with world }
  | clone (s : Scene ω) :
      Course room s { s with buffer := s.buffer.hold, handles := s.handles + 1 }
  | drop (s : Scene ω) (live : 0 < s.handles) :
      Course room s { s with buffer := s.buffer.release, handles := s.handles - 1 }
  | write (s : Scene ω) (position : Nat) (payload : List Bytes) :
      Course room s ((place room).store.write position payload s).2
  | append (s : Scene ω) (payload : List Bytes) :
      Course room s ((place room).store.append payload s).2
  | truncate (s : Scene ω) (size : Nat) :
      Course room s ((place room).store.truncate size s).2
  | copyOut (s : Scene ω) (position count : Nat) (sink : Sink (Scene ω))
      (peer : ∀ offered s, Course room s (sink offered s).2) :
      Course room s ((place room).store.copyOut position count sink s).2
  | copyIn (s : Scene ω) (source : Source (Scene ω)) (position count : Nat)
      (peer : ∀ slice s, Course room s (source slice s).2) :
      Course room s ((place room).store.copyIn source position count s).2
  | copyInAtEnd (s : Scene ω) (source : Source (Scene ω)) (count : Nat)
      (peer : ∀ slice s, Course room s (source slice s).2) :
      Course room s ((place room).store.copyInAtEnd source count s).2
  | openChannel (s : Scene ω) (capabilities : Capabilities) :
      Course room s (s.openChannel capabilities)
  | request (s : Scene ω) (id : Nat) (channel : Channel) (there : s.channels[id]? = some channel)
      (request : Request) :
      Course room s (settle id (channel.perform (place room).store s (.request request)))
  | channelCopyOut (s : Scene ω) (id : Nat) (channel : Channel)
      (there : s.channels[id]? = some channel) (position count : Nat) (sink : Sink (Scene ω))
      (peer : ∀ offered s, Course room s (sink offered s).2) :
      Course room s
        (settle id (channel.perform (place room).store s (.copyOut position count sink)))
  | channelCopyIn (s : Scene ω) (id : Nat) (channel : Channel)
      (there : s.channels[id]? = some channel) (source : Source (Scene ω)) (position count : Nat)
      (peer : ∀ slice s, Course room s (source slice s).2) :
      Course room s
        (settle id (channel.perform (place room).store s (.copyIn source position count)))
  | dropChannel (s : Scene ω) (id : Nat) (channel : Channel)
      (there : s.channels[id]? = some channel) :
      Course room s (settle id (channel.drop (place room).store s))

structure Stable (room : Scene ω → Memory) (kept : Scene ω → Prop) : Prop where
  work : (place room).Keeps kept
  elsewhere : ∀ s world, kept s → kept { s with world }
  holders : ∀ s holders handles, kept s →
    kept { s with buffer := { s.buffer with holders }, handles }
  opened : ∀ s capabilities, kept s → kept (s.openChannel capabilities)
  called : ∀ s id channel call, s.channels[id]? = some channel → Call.Keeps kept call → kept s →
    kept (settle id (channel.perform (place room).store s call))
  dropped : ∀ s id channel, s.channels[id]? = some channel → kept s →
    kept (settle id (channel.drop (place room).store s))

variable {room : Scene ω → Memory} {kept : Scene ω → Prop}

/-- By induction over the course. The peer of a transfer takes a course of its own, so what courses
keep it keeps. -/
theorem Course.preserves (stable : Stable room kept) {s t : Scene ω} (course : Course room s t)
    (before : kept s) : kept t := by
  have work : (place room).store.Keeps kept := Place.store_keeps stable.work
  induction course with
  | rest s => exact before
  | andThen first second firstKeeps secondKeeps => exact secondKeeps (firstKeeps before)
  | elsewhere s world => exact stable.elsewhere s world before
  | clone s => exact stable.holders s _ _ before
  | drop s live => exact stable.holders s _ _ before
  | write s position payload => exact work.write position payload s before
  | append s payload => exact work.append payload s before
  | truncate s size => exact work.truncate size s before
  | copyOut s position count sink peer peerKeeps =>
    exact work.copyOut position count sink (fun offered s => peerKeeps offered s) s before
  | copyIn s source position count peer peerKeeps =>
    exact work.copyIn source position count (fun slice s => peerKeeps slice s) s before
  | copyInAtEnd s source count peer peerKeeps =>
    exact work.copyInAtEnd source count (fun slice s => peerKeeps slice s) s before
  | openChannel s capabilities => exact stable.opened s capabilities before
  | request s id channel there request =>
    exact stable.called s id channel (.request request) there trivial before
  | channelCopyOut s id channel there position count sink peer peerKeeps =>
    exact stable.called s id channel (.copyOut position count sink) there
      (fun offered s => peerKeeps offered s) before
  | channelCopyIn s id channel there source position count peer peerKeeps =>
    exact stable.called s id channel (.copyIn source position count) there
      (fun slice s => peerKeeps slice s) before
  | dropChannel s id channel there => exact stable.dropped s id channel there before

/-- A property of a buffer and its history that all work on the buffer keeps, with whatever room
memory has for it. -/
structure Lasting (property : Buffer → List Change → Prop) : Prop where
  write : ∀ [Memory] buffer history position payload, property buffer history →
    property (buffer.write position payload).2
      (history ++ Change.ofAnswer position payload (buffer.write position payload).1)
  append : ∀ [Memory] buffer history payload, property buffer history →
    property (buffer.append payload).2
      (history ++ Change.ofAnswer buffer.size payload (buffer.append payload).1)
  truncate : ∀ buffer history size, property buffer history →
    property (buffer.truncate size) (history ++ [.cut size])
  holders : ∀ buffer history holders, property buffer history →
    property { buffer with holders } history

variable {property : Buffer → List Change → Prop}

theorem place_keeps (lasting : Lasting property) :
    (place room).Keeps fun s => property s.buffer s.history where
  write position payload s before :=
    @Lasting.write property lasting (room s) s.buffer s.history position payload before
  append payload s before :=
    @Lasting.append property lasting (room s) s.buffer s.history payload before
  truncate size s before := lasting.truncate s.buffer s.history size before
  release s before := lasting.holders s.buffer s.history _ before

theorem Lasting.stable (lasting : Lasting property) :
    Stable room fun s => property s.buffer s.history where
  work := place_keeps lasting
  elsewhere _ _ before := before
  holders s holders _ before := lasting.holders s.buffer s.history holders before
  opened s _ before := lasting.holders s.buffer s.history _ before
  called s _ channel _ _ peer before :=
    channel.perform_keeps (Place.store_keeps (place_keeps lasting)) peer s before
  dropped s _ channel _ before :=
    channel.drop_keeps (Place.store_keeps (place_keeps lasting)) s before

theorem Course.keeps (lasting : Lasting property) {s t : Scene ω} (course : Course room s t)
    (before : property s.buffer s.history) : property t.buffer t.history :=
  course.preserves lasting.stable before

end Scene

end SharedBytes
