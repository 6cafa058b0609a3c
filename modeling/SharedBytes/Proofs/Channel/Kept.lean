import SharedBytes.Proofs.Channel.Alike
import SharedBytes.Proofs.Transfer.Kept

/-!
# What a call of a channel keeps

A channel turns to its store for everything that it does to the state. What the calls to the store
keep is kept by every call of the channel, refused calls and failed ones included, and only the
ways count in which the channel uses the store. This is what going alike comes to when both states
are one.
-/

namespace SharedBytes

variable {σ α : Type}

def Call.Keeps (kept : σ → Prop) : Call σ → Prop
  | .request _ => True
  | .copyOut _ _ sink => Sink.Keeps kept sink
  | .copyIn source _ _ => Source.Keeps kept source

def Call.closes : Call σ → Bool
  | .request .close => true
  | _ => false

theorem Call.eq_close {request : Request} (closes : (.request request : Call σ).closes = true) :
    request = .close := by
  cases request <;> first | rfl | cases closes

/-- The store, of which no hold can be given back. -/
def Store.withoutRelease (store : Store σ) : Store σ :=
  { store with release := id }

/-- As far as the buffer at a place is used, the work on it keeps a property of the state. -/
structure Place.KeepsIn (used : Use → Prop) (kept : σ → Prop) (place : Place σ) : Prop where
  write : used .writing → ∀ position payload, Action.Keeps kept (place.write position payload)
  append : used .appending → ∀ payload, Action.Keeps kept (place.append payload)
  truncate : used .cutting → ∀ size s, kept s → kept (place.truncate size s)
  release : ∀ s, kept s → kept (place.release s)

structure Store.KeepsIn (used : Use → Prop) (kept : σ → Prop) (store : Store σ) : Prop where
  size : Action.Keeps kept store.size
  read : used .reading → ∀ position slices, Action.Keeps kept (store.read position slices)
  write : used .writing → ∀ position payload, Action.Keeps kept (store.write position payload)
  append : used .appending → ∀ payload, Action.Keeps kept (store.append payload)
  truncate : used .cutting → ∀ size, Action.Keeps kept (store.truncate size)
  copyOut : used .reading → ∀ position count sink, Sink.Keeps kept sink →
    Action.Keeps kept (store.copyOut position count sink)
  copyIn : used .writing → ∀ source position count, Source.Keeps kept source →
    Action.Keeps kept (store.copyIn source position count)
  copyInAtEnd : used .appending → ∀ source count, Source.Keeps kept source →
    Action.Keeps kept (store.copyInAtEnd source count)
  release : ∀ s, kept s → kept (store.release s)

variable {used : Use → Prop} {kept : σ → Prop} {store : Store σ}

theorem Place.store_keepsIn {place : Place σ} (work : place.KeepsIn used kept) :
    place.store.KeepsIn used kept where
  size _ before := before
  read _ _ _ _ before := before
  write := work.write
  append := work.append
  truncate cutting size s before := work.truncate cutting size s before
  copyOut _ position count _ peer := Place.copyOut_keeps peer position count
  copyIn writing _ position count peer :=
    Place.copyIn_keeps (work.write writing) peer position count
  copyInAtEnd appending _ count peer :=
    Place.copyInAtEnd_keeps (work.append appending) peer count
  release := work.release

/-- The work on a buffer that does not give a hold on it back. -/
theorem Place.work_keepsIn {place : Place σ}
    (write : used .writing → ∀ position payload, Action.Keeps kept (place.write position payload))
    (append : used .appending → ∀ payload, Action.Keeps kept (place.append payload))
    (truncate : used .cutting → ∀ size s, kept s → kept (place.truncate size s)) :
    place.store.withoutRelease.KeepsIn used kept where
  size _ before := before
  read _ _ _ _ before := before
  write := write
  append := append
  truncate cutting size s before := truncate cutting size s before
  copyOut _ position count _ peer := Place.copyOut_keeps peer position count
  copyIn writing _ position count peer := Place.copyIn_keeps (write writing) peer position count
  copyInAtEnd appending _ count peer := Place.copyInAtEnd_keeps (append appending) peer count
  release _ before := before

theorem Store.Keeps.everywhere (work : store.Keeps kept) : store.KeepsIn (fun _ => True) kept where
  size := work.size
  read _ := work.read
  write _ := work.write
  append _ := work.append
  truncate _ := work.truncate
  copyOut _ := work.copyOut
  copyIn _ := work.copyIn
  copyInAtEnd _ := work.copyInAtEnd
  release := work.release

def Twice (kept : σ → Prop) (s t : σ) : Prop :=
  s = t ∧ kept s

theorem Action.Keeps.alike {action : Action σ α} (keeps : Action.Keeps kept action) :
    Action.Alike (Twice kept) action action := by
  rintro s _ ⟨rfl, before⟩
  exact ⟨rfl, rfl, keeps s before⟩

theorem Store.KeepsIn.alike (work : store.KeepsIn used kept) :
    Store.Alike (Twice kept) used store store where
  size := work.size.alike
  read reading position slices := (work.read reading position slices).alike
  write writing position payload := (work.write writing position payload).alike
  append appending payload := (work.append appending payload).alike
  truncate cutting size := (work.truncate cutting size).alike
  release := by
    rintro s _ ⟨rfl, before⟩
    exact ⟨rfl, work.release s before⟩

theorem Call.Keeps.alike (work : store.KeepsIn used kept) {call : Call σ}
    (peer : call.Keeps kept) : Call.Alike (Twice kept) used store store call call := by
  cases call with
  | request plain => exact .request plain
  | copyOut position count sink =>
    exact .copyOut position count fun reading =>
      (work.copyOut reading position count sink peer).alike
  | copyIn source position count =>
    exact .copyIn position count
      (fun writing => (work.copyIn writing source position count peer).alike)
      (fun appending => (work.copyInAtEnd appending source count peer).alike)

namespace Channel

theorem perform_keepsIn (work : store.KeepsIn used kept) (channel : Channel) {call : Call σ}
    (peer : call.Keeps kept) (uses : ∀ use, channel.use? call = some use → used use) (s : σ)
    (before : kept s) : kept (channel.perform store s call).state :=
  (perform_alike work.alike ⟨rfl, before⟩ (peer.alike work) uses).state.2

theorem drop_keepsIn (work : store.KeepsIn used kept) (channel : Channel) (s : σ)
    (before : kept s) : kept (channel.drop store s).state :=
  (drop_alike work.alike ⟨rfl, before⟩).state.2

/-- A probe that notes each call, and replies to some, keeps what its notes keep. -/
theorem probed_keeps (work : store.KeepsIn used kept) {note : StoreCall → σ → σ}
    (notes : ∀ noted s, kept s → kept (note noted s)) (fixed : FixedReplies) (channel : Channel)
    {call : Call σ} (peer : call.Keeps kept)
    (uses : ∀ use, channel.use? call = some use → used use) (s : σ) (before : kept s) :
    kept (channel.perform ((store.replying fixed).noting note) s call).state := by
  have noted (call : StoreCall) (s t : σ) (twice : Twice kept s t) :
      Twice kept (note call s) (note call t) :=
    ⟨congrArg (note call) twice.1, notes call s twice.2⟩
  have calls := ((peer.alike work).replying fixed).noting noted
  exact (perform_alike ((work.alike.replying fixed).noting noted) ⟨rfl, before⟩ calls uses).state.2

theorem perform_keeps (work : store.Keeps kept) (channel : Channel) {call : Call σ}
    (peer : call.Keeps kept) (s : σ) (before : kept s) :
    kept (channel.perform store s call).state :=
  channel.perform_keepsIn work.everywhere peer (fun _ _ => trivial) s before

theorem streamRead_keeps (work : store.Keeps kept) (channel : Channel) (slice : Bytes) (s : σ)
    (before : kept s) : kept (channel.streamRead store slice s).state :=
  @perform_keeps _ _ _ work channel (.request (.streamRead slice)) trivial s before

theorem streamWrite_keeps (work : store.Keeps kept) (channel : Channel) (bytes : Bytes) (s : σ)
    (before : kept s) : kept (channel.streamWrite store bytes s).state :=
  @perform_keeps _ _ _ work channel (.request (.streamWrite bytes)) trivial s before

theorem drop_keeps (work : store.Keeps kept) (channel : Channel) (s : σ) (before : kept s) :
    kept (channel.drop store s).state :=
  channel.drop_keepsIn work.everywhere s before

theorem fill_withoutRelease (store : Store σ) (channel : Channel) (filled rest : Bytes)
    (events : List Event) (s : σ) :
    channel.fill store.withoutRelease filled rest events s =
      channel.fill store filled rest events s := by
  induction length : rest.length using Nat.strongRecOn
    generalizing channel filled rest events s with
  | ind length induction =>
    rw [fill, fill]
    by_cases full : rest = []
    · simp only [dif_pos full]
    · have same : channel.streamRead store.withoutRelease rest s =
          channel.streamRead store rest s := rfl
      simp only [dif_neg full, same]
      rcases (channel.streamRead store rest s).result with _ | _ | n
      · rfl
      · rfl
      · by_cases tooMany : rest.length < n + 1
        · simp only [if_pos tooMany]
        · simp only [if_neg tooMany]
          apply induction _ _ _ _ _ _ _ rfl
          simp only [List.length_drop, Bytes.length_overlay]
          omega

theorem spill_withoutRelease (store : Store σ) (channel : Channel) (bytes : Bytes)
    (events : List Event) (s : σ) :
    channel.spill store.withoutRelease bytes events s = channel.spill store bytes events s := by
  induction length : bytes.length using Nat.strongRecOn generalizing channel bytes events s with
  | ind length induction =>
    rw [spill, spill]
    by_cases nothing : bytes = []
    · simp only [if_pos nothing]
    · have same : channel.streamWrite store.withoutRelease bytes s =
          channel.streamWrite store bytes s := rfl
      simp only [if_neg nothing, same]
      rcases (channel.streamWrite store bytes s).result with _ | _ | n
      · rfl
      · rfl
      · by_cases tooMany : bytes.length < n + 1
        · simp only [if_pos tooMany]
        · simp only [if_neg tooMany]
          apply induction _ _ _ _ _ _ rfl
          simp only [List.length_drop]
          omega

/-- No call but the one that closes the channel gives its hold on the store back. -/
theorem perform_withoutRelease (store : Store σ) (channel : Channel) (s : σ) {call : Call σ}
    (stays : call.closes = false) :
    channel.perform store.withoutRelease s call = channel.perform store s call := by
  cases call with
  | copyOut position count sink => rfl
  | copyIn source position count => rfl
  | request plain =>
    cases plain with
    | close => cases stays
    | readExact slice =>
      simp only [perform, serve, readExact, fill_withoutRelease]
    | writeAll bytes =>
      simp only [perform, serve, writeAll, spill_withoutRelease]
    | _ => rfl

theorem attempt_state {channel : Channel} {requirement : Requirement} {arguments : List Argument}
    {slices : List Bytes} {s : σ} {refused : ChannelFailure → α} {call : σ → Reply σ α}
    (same : (call s).state = s) :
    (channel.attempt requirement arguments slices s refused call).state = s := by
  rw [attempt]
  cases channel.refusal? requirement arguments with
  | some failure => rfl
  | none => exact same

@[simp] theorem cursor_state (channel : Channel) (s : σ) : (channel.cursor s).state = s :=
  attempt_state rfl

@[simp] theorem setPosition_state (channel : Channel) (position : Nat) (s : σ) :
    (channel.setPosition position s).state = s :=
  attempt_state rfl

@[simp] theorem flush_state (channel : Channel) (metadata : Bool) (s : σ) :
    (channel.flush metadata s).state = s :=
  attempt_state rfl

@[simp] theorem lock_state (channel : Channel) (position size : Nat) (shared : Bool) (s : σ) :
    (channel.lock position size shared s).state = s :=
  attempt_state rfl

end Channel

end SharedBytes
