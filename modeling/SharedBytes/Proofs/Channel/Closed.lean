import SharedBytes.Proofs.Channel.Dialogue

/-!
# Open and closed channels

Only one call closes a channel, and none opens it again. A closed channel stays as it is, and all
that it still answers is what needs no open channel.
-/

namespace SharedBytes

variable {σ : Type}

/-- Whether a call needs an open channel to succeed. A full read or write of nothing makes no call
at all. -/
def Call.needsOpen : Call σ → Bool
  | .request .close | .request (.map ..) | .request (.readExact [])
  | .request (.writeAll []) => false
  | _ => true

namespace Channel

variable {channel : Channel} {call : Call σ}

theorem sought_isOpen (channel : Channel) (target : Int) :
    (channel.sought target).isOpen = channel.isOpen := by
  unfold sought
  split <;> rfl

theorem next_isOpen (stays : call.closes = false) (heard : List Exchange) :
    (channel.next call heard).isOpen = channel.isOpen := by
  cases heard with
  | nil =>
    rw [next]
    fun_cases channel.alone call <;> first | exact sought_isOpen _ _ | rfl | cases stays
  | cons exchange _ =>
    rw [next]
    fun_cases channel.hearing call exchange <;> first | exact sought_isOpen _ _ | rfl

theorem single_isOpen (channel : Channel) (call : Call σ) (single : call.isSingle = true)
    (stays : call.closes = false) (store : Store σ) (s : σ) :
    (channel.perform store s call).channel.isOpen = channel.isOpen := by
  have follows : (channel.perform store s call).channel = channel.next call _ :=
    (episode_heeds single).follows
  rw [follows, next_isOpen stays]

theorem perform_isOpen (stays : call.closes = false) (store : Store σ) (s : σ) :
    (channel.perform store s call).channel.isOpen = channel.isOpen := by
  cases single : call.isSingle with
  | true => exact channel.single_isOpen call single stays store s
  | false =>
    cases call with
    | copyOut _ _ _ => cases single
    | copyIn _ _ _ => cases single
    | request plain =>
      cases plain with
      | readExact slice =>
        apply fill_induction (motive := fun later _ => later.isOpen = channel.isOpen) _ channel []
          slice [] s rfl
        intro later slice s before
        exact (later.single_isOpen (.request (.streamRead slice)) rfl rfl store s).trans before
      | writeAll bytes =>
        apply spill_induction (motive := fun later _ => later.isOpen = channel.isOpen) _ channel
          bytes [] s rfl
        intro later bytes s before
        exact (later.single_isOpen (.request (.streamWrite bytes)) rfl rfl store s).trans before
      | _ => cases single

inductive TurnedAway : Outcome CallFailure Answer → Prop
  | argument (name : String) (value : Nat) :
    TurnedAway (.error (.channel (.invalidArgument name value)))
  | closed : TurnedAway (.error (.channel .notOpen))

inductive AnsweredShut : Call σ → Outcome CallFailure Answer → Prop
  | away {call : Call σ} {outcome : Outcome CallFailure Answer} (needs : call.needsOpen = true)
    (away : TurnedAway outcome) : AnsweredShut call outcome
  | close : AnsweredShut (.request .close) (.ok .done)
  | map (mode : Mapping) (position size : Nat) :
    AnsweredShut (.request (.map mode position size))
      (.error (.channel (.unsupported "memory mapping")))
  | readNothing : AnsweredShut (.request (.readExact [])) (.ok .done)
  | writeNothing : AnsweredShut (.request (.writeAll [])) (.ok .done)

section

variable (closed : channel.isOpen = false)

include closed

theorem refusal?_closed (requirement : Requirement) (arguments : List Argument) :
    ∃ failure, channel.refusal? requirement arguments = some failure ∧
      TurnedAway (.error (.channel failure)) := by
  rw [refusal?, closed]
  cases arguments.find? fun argument => maxPosition < argument.2 with
  | some argument => exact ⟨_, rfl, .argument argument.1 argument.2⟩
  | none => exact ⟨_, rfl, .closed⟩

theorem streamRead_closed (store : Store σ) (slice : Bytes) (s : σ) :
    channel.streamRead store slice s =
      { result := .error .notOpen, channel, state := s, slices := [slice] } := by
  simp [streamRead, read, attempt, refusal?, closed, Except.map]

theorem streamWrite_closed (store : Store σ) (bytes : Bytes) (s : σ) :
    channel.streamWrite store bytes s = { result := .error .notOpen, channel, state := s } := by
  simp [streamWrite, write, attempt, refusal?, closed]

/-- A closed channel leaves everything as it is, itself included. -/
theorem perform_closed (store : Store σ) (s : σ) (call : Call σ) :
    let reply := channel.perform store s call
    reply.channel = channel ∧ reply.state = s ∧ AnsweredShut call reply.result ∧
      (call.needsOpen = true → reply.events = []) := by
  cases terms : call.terms? with
  | some asked =>
    obtain ⟨failure, refused, away⟩ := refusal?_closed closed asked.1 asked.2
    have needs : call.needsOpen = true := by
      cases call with
      | copyOut position count sink => rfl
      | copyIn source position count => rfl
      | request plain => cases plain <;> first | rfl | cases terms
    rw [perform_refused store s terms refused]
    exact ⟨rfl, rfl, .away needs away, fun _ => rfl⟩
  | none =>
    cases call with
    | copyOut position count sink => cases terms
    | copyIn source position count => cases terms
    | request plain =>
      cases plain with
      | seek target | streamSeek target =>
        simp only [perform, serve, seek_closed closed]
        exact ⟨rfl, rfl, .away rfl .closed, fun _ => rfl⟩
      | rewind | streamPosition =>
        simp only [perform, serve, seek_closed closed]
        exact ⟨rfl, rfl, .away rfl .closed, fun _ => rfl⟩
      | map mode position size =>
        exact ⟨rfl, rfl, .map mode position size, fun needs => by cases needs⟩
      | close =>
        simp only [perform, serve, close, closed]
        exact ⟨rfl, rfl, .close, fun needs => by cases needs⟩
      | readExact slice =>
        simp only [perform, serve, readExact]
        rw [fill, streamRead_closed closed]
        cases slice with
        | nil => exact ⟨rfl, rfl, .readNothing, fun needs => by cases needs⟩
        | cons byte slice => exact ⟨rfl, rfl, .away rfl .closed, fun _ => rfl⟩
      | writeAll bytes =>
        simp only [perform, serve, writeAll]
        rw [spill, streamWrite_closed closed]
        cases bytes with
        | nil => exact ⟨rfl, rfl, .writeNothing, fun needs => by cases needs⟩
        | cons byte bytes => exact ⟨rfl, rfl, .away rfl .closed, fun _ => rfl⟩
      | _ => cases terms

end

end Channel

end SharedBytes
