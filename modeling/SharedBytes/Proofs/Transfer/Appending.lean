import SharedBytes.Proofs.Channel.Calls
import SharedBytes.Proofs.Transfer.Laying

/-!
# Transfers to the end of a buffer that others work on

The end of the buffer is wherever the source has left it. A transfer to the end carries the size
after its last deposit along while the source is called again, and reports that size, so that the
last chunk lies right before it, whatever has become of the buffer since. Only a transfer that has
stored nothing reports the size at its return.
-/

namespace SharedBytes

/-- What an appending channel makes of a transfer to the end. -/
theorem Channel.copyIn_at_end {σ : Type} (channel : Channel) (place : Place σ) (source : Source σ)
    (appending : channel.capabilities.isAppending = true) (position count : Nat) (s : σ) :
    let reply := channel.copyIn place.store source position count s
    let answer := place.copyInAtEnd source count s
    (∀ failure, reply.result = .error failure → reply.channel = channel) ∧
      (channel.refusal? .writable [("position", position), ("count", count)] = none →
        reply.result = (answer.1.map (·.written)).mapError .store ∧ reply.state = answer.2 ∧
          ∀ appended, answer.1 = .ok appended →
            reply.channel = channel.moveTo appended.size) := by
  intro reply answer
  cases verdict : channel.refusal? .writable [("position", position), ("count", count)] with
  | some failure =>
    have refused : reply = _ := copyIn_refused place.store verdict source s
    rw [refused]
    exact ⟨fun _ _ => rfl, fun allowed => by cases allowed⟩
  | none =>
    obtain ⟨result, moved, state⟩ := copyIn_appending place.store verdict appending source s
    rw [show place.store.copyInAtEnd source count s = answer from rfl] at result moved state
    refine ⟨?_, fun _ => ⟨result, state, ?_⟩⟩
    · intro failure failed
      have mapped := result.symm.trans failed
      cases outcome : answer.1 with
      | ok appended =>
        rw [outcome] at mapped
        cases mapped
      | error | aborted =>
        rw [outcome] at moved
        exact moved
    · intro appended answered
      rw [answered] at moved
      exact moved

section

variable {σ : Type} [Memory] {place : Place σ}

/-- What an append reports as the size is the size that it leaves. -/
theorem Place.Faithful.receipt_size (faithful : place.Faithful) {payload : List Bytes}
    {before after : σ} {receipt : Receipt}
    (appended : place.append payload before = (.ok receipt, after)) :
    receipt.size = (place.look after).size := by
  obtain ⟨answer, state⟩ := faithful.append payload before
  rw [appended] at answer state
  rcases (place.look before).append_cases payload with ⟨_, stored⟩ | ⟨error, _, refused⟩
  · rw [stored] at answer state
    cases answer
    rw [state]
    exact List.length_append.symm
  · rw [refused] at answer
    cases answer

end

namespace Transfer

section

variable {σ : Type} [Memory] {place : Place σ} {source : Source σ} {count : Nat}
  {s mid : σ} {stored rest : List (Fetch σ)}

def Appended (place : Place σ) : Nat → σ → List (Fetch σ) → σ → Prop :=
  InTurn fun _ fetch next => place.look next =
    { place.look fetch.after with bytes := (place.look fetch.after).bytes ++ fetch.given }

/-- What a transfer to the end reports: the bytes stored, and the size after the last of them, or
the size at the return if there are none. -/
def receipt (place : Place σ) (stored : List (Fetch σ)) (mid final : σ) : Receipt :=
  ⟨(given stored).length, (place.look (if stored = [] then final else mid)).size⟩

theorem Told.receipt_eq {outcome : Outcome StoreFailure (Nat × Option Receipt)}
    {w : Watched σ (Fetch σ)} {last : Option Receipt} (faithful : place.Faithful)
    (told : Told source (fun _ bytes => place.append [bytes]) count s outcome w stored rest mid
      last)
    (final : σ) :
    (⟨(given stored).length, (last.map (·.size)).getD (place.look final).size⟩ : Receipt) =
      receipt place stored mid final := by
  cases latest : last with
  | none =>
    rw [receipt, if_pos (told.intake.fresh.mp latest)]
    rfl
  | some answer =>
    have some : stored ≠ [] := by
      intro nothing
      rw [told.intake.fresh.mpr nothing] at latest
      cases latest
    obtain ⟨_, _, before, appended⟩ := told.intake.latest answer latest
    rw [receipt, if_neg some, ← faithful.receipt_size appended]
    rfl

/-- What a transfer to the end does while the source works on the same buffer, and what a channel
makes of it. -/
theorem copyInAtEnd_interleaves (faithful : place.Faithful) (honest : source.Honest) (count : Nat)
    (s : σ) :
    let run := place.watched.copyInAtEnd source.watched count { state := s }
    (run.1, run.2.state) = place.copyInAtEnd source count s ∧
      (∃ stored rest mid, run.2.seen = stored ++ rest ∧
        Interleaved place (fun _ fetch => (place.look fetch.after).size) count s
          (receipt place stored mid) run.1 run.2.state stored rest mid ∧
        Appended place 0 s stored mid ∧
        ∀ last, stored.getLast? = some last →
          (place.look mid).bytes = (place.look last.after).bytes ++ last.given) ∧
      ∀ channel : Channel, channel.capabilities.isAppending = true → ∀ position,
        let reply := channel.copyIn place.store source position count s
        (∀ failure, reply.result = .error failure → reply.channel = channel) ∧
          (channel.refusal? .writable [("position", position), ("count", count)] = none →
            reply.result = (run.1.map (·.written)).mapError .store ∧
              reply.state = run.2.state ∧
              ∀ answer, run.1 = .ok answer → reply.channel = channel.moveTo answer.size) := by
  intro run
  have same : (run.1, run.2.state) = place.copyInAtEnd source count s :=
    place.copyInAtEnd_watched source count s
  refine ⟨same, ?_, ?_⟩
  · obtain ⟨stored, rest, mid, last, told⟩ := pump_fetches honest
      (fun _ bytes => place.append [bytes]) count s
    have interleaved := told.interleaved honest faithful.appends_lay fun final result =>
      (⟨result.1, (result.2.map (·.size)).getD (place.look final).size⟩ : Receipt)
    simp only [told.receipt_eq faithful] at interleaved
    have appended : Appended place 0 s stored mid := by
      apply interleaved.inTurn.imp
      intro moved fetch _ next laid
      rw [laid.content, Buffer.size, Bytes.splice_length]
    refine ⟨stored, rest, mid, told.seen, interleaved, appended, ?_⟩
    intro last isLast
    obtain ⟨_, content⟩ := appended.getLast? isLast
    rw [content]
  · intro channel appending position
    have through := channel.copyIn_at_end place source appending position count s
    rw [← same] at through
    exact through

end

/-- The size reported is not that at the return: the call that gives nothing has cut the buffer. -/
theorem cut_interleaves :
    let source := sipping (·.truncate 2)
    let s : Buffer × Bytes := (.ofBytes [1, 2, 3], [7, 8, 9])
    let run := besideBytes.watched.copyInAtEnd source.watched 5 { state := s }
    let channel : Channel := { capabilities := { append := true } }
    let reply := channel.copyIn besideBytes.store source 0 5 s
    (run.1 = .ok ⟨3, 3⟩ ∧ run.2.state = (.ofBytes [1, 2], [])) ∧
      (∃ stored rest mid, run.2.seen = stored ++ rest ∧ Appended besideBytes 0 s stored mid) ∧
      reply.result = .ok 3 ∧ reply.state = (.ofBytes [1, 2], []) ∧
      reply.channel = channel.moveTo 3 := by
  intro source s run channel reply
  have made : run.1 = .ok ⟨3, 3⟩ ∧ run.2.state = (.ofBytes [1, 2], []) := by
    simp only [run, source, s]
    decide +kernel
  obtain ⟨_, ⟨stored, rest, mid, calls, _, appended, _⟩, through⟩ :=
    @copyInAtEnd_interleaves _ .standard besideBytes source besideBytes_faithful
      (sipping_honest _) 5 s
  obtain ⟨result, state, moved⟩ := (through channel rfl 0).2 rfl
  refine ⟨made, ⟨stored, rest, mid, calls, appended⟩, ?_, state.trans made.2, moved _ made.1⟩
  rw [show reply.result = (run.1.map (·.written)).mapError .store from result, made.1]
  rfl

end Transfer

end SharedBytes
