import SharedBytes.Proofs.Transfer.Rounds
import SharedBytes.Store.Basic

/-!
# What a transfer keeps

A transfer changes the state only through its peer and through the place of its buffer. A property
that each of their calls keeps is therefore kept by the whole transfer, however it ends.
-/

namespace SharedBytes

variable {σ α : Type}

def Action.Keeps (kept : σ → Prop) (action : Action σ α) : Prop :=
  ∀ s, kept s → kept (action s).2

def Sink.Keeps (kept : σ → Prop) (sink : Sink σ) : Prop :=
  ∀ offered, Action.Keeps kept (sink offered)

def Source.Keeps (kept : σ → Prop) (source : Source σ) : Prop :=
  ∀ slice, Action.Keeps kept (source slice)

structure Place.Keeps (kept : σ → Prop) (place : Place σ) : Prop where
  write : ∀ position payload, Action.Keeps kept (place.write position payload)
  append : ∀ payload, Action.Keeps kept (place.append payload)
  truncate : ∀ size s, kept s → kept (place.truncate size s)
  release : ∀ s, kept s → kept (place.release s)

structure Store.Keeps (kept : σ → Prop) (store : Store σ) : Prop where
  size : Action.Keeps kept store.size
  read : ∀ position slices, Action.Keeps kept (store.read position slices)
  write : ∀ position payload, Action.Keeps kept (store.write position payload)
  append : ∀ payload, Action.Keeps kept (store.append payload)
  truncate : ∀ size, Action.Keeps kept (store.truncate size)
  copyOut : ∀ position count sink, Sink.Keeps kept sink →
    Action.Keeps kept (store.copyOut position count sink)
  copyIn : ∀ source position count, Source.Keeps kept source →
    Action.Keeps kept (store.copyIn source position count)
  copyInAtEnd : ∀ source count, Source.Keeps kept source →
    Action.Keeps kept (store.copyInAtEnd source count)
  release : ∀ s, kept s → kept (store.release s)

namespace Transfer

variable {kept : σ → Prop}

theorem offer_keeps {sink : Sink σ} (peer : sink.Keeps kept) (taken : Nat) (pending : Bytes)
    (s : σ) (before : kept s) : kept (offer sink taken pending s).2 := by
  induction taken, pending, s using offer.induct sink with
  | case1 taken s => simpa [offer] using before
  | case2 taken pending s nonempty kind next answered =>
    have after := peer pending s before
    rw [answered] at after
    simpa [offer, nonempty, answered] using after
  | case3 taken pending s nonempty next answered =>
    have after := peer pending s before
    rw [answered] at after
    simpa [offer, nonempty, answered] using after
  | case4 taken pending s nonempty n next answered tooMany =>
    have after := peer pending s before
    rw [answered] at after
    rw [offer]
    simpa [nonempty, answered, tooMany] using after
  | case5 taken pending s nonempty n next answered fits induction =>
    have after := peer pending s before
    rw [answered] at after
    rw [offer]
    simpa [nonempty, answered, fits] using induction after

theorem drain_keeps {place : Place σ} {sink : Sink σ} (peer : sink.Keeps kept)
    (position moved remaining : Nat) (s : σ) (before : kept s) :
    kept (drain place sink position moved remaining s).2 := by
  induction moved, remaining, s using drain.induct place sink position with
  | case1 moved remaining s chunk exhausted =>
    rw [drain]
    simpa [chunk, exhausted] using before
  | case2 moved remaining s chunk nonempty next offered induction =>
    have after := offer_keeps peer 0 chunk s before
    rw [offered] at after
    rw [drain]
    simpa [chunk, nonempty, offered] using induction after
  | case3 moved remaining s chunk nonempty taken next offered =>
    have after := offer_keeps peer 0 chunk s before
    rw [offered] at after
    rw [drain]
    simpa [chunk, nonempty, offered] using after
  | case4 moved remaining s chunk nonempty kind next offered =>
    have after := offer_keeps peer 0 chunk s before
    rw [offered] at after
    rw [drain]
    simpa [chunk, nonempty, offered] using after

section

variable {ω : Type} {source : Source σ} {deposit : Nat → Bytes → Action σ (Except StoreFailure ω)}
  {good : ω → Prop}

/-- What the deposits keep a transfer keeps, and of its last answer holds what holds of theirs. -/
theorem pump_answers (peer : source.Keeps kept)
    (deposits : ∀ moved bytes s, kept s → kept (deposit moved bytes s).2 ∧
      ∀ answer, (deposit moved bytes s).1 = .ok answer → good answer)
    (count : Nat) (chunk : Bytes) (moved : Nat) (last : Option ω) (s : σ) (before : kept s)
    (lastGood : ∀ answer ∈ last, good answer) :
    let run := pump source deposit count chunk moved last s
    kept run.2 ∧ ∀ total answer, run.1 = .ok (total, some answer) → good answer := by
  have asked {slice s supply next} (held : kept s) (answered : source slice s = (supply, next)) :
      kept next := by
    have after := peer slice s held
    rwa [answered] at after
  have deposited {moved bytes s answer final} (held : kept s)
      (answered : deposit moved bytes s = (answer, final)) :
      kept final ∧ ∀ value, answer = .ok value → good value := by
    have after := deposits moved bytes s held
    rwa [answered] at after
  have ended {moved : Nat} {last : Option ω} (lastGood : ∀ answer ∈ last, good answer) :
      ∀ total answer, (.ok (moved, last) : Outcome StoreFailure _) = .ok (total, some answer) →
        good answer := by
    rintro total answer ⟨⟩
    exact lastGood answer rfl
  have rounds : Rounds source deposit count
      (fun _ _ last s => kept s ∧ ∀ answer ∈ last, good answer)
      (fun outcome s => kept s ∧ ∀ total answer, outcome = .ok (total, some answer) →
        good answer) :=
    { finished := fun _ _ _ _ inv _ => ⟨inv.1, ended inv.2⟩
      failed := fun _ _ _ _ _ _ _ inv _ answered => ⟨asked inv.1 answered, nofun⟩
      ended := fun _ _ _ _ _ _ inv _ answered => ⟨asked inv.1 answered, ended inv.2⟩
      overrun := fun _ _ _ _ _ _ _ inv _ answered _ => ⟨asked inv.1 answered, nofun⟩
      refused := fun _ _ _ _ _ _ _ _ _ inv _ answered _ refusal =>
        ⟨(deposited (asked inv.1 answered) refusal).1, nofun⟩
      stored := by
        intro chunk moved last s n bytes next answer final inv _ answered _ storage
        obtain ⟨after, answers⟩ := deposited (asked inv.1 answered) storage
        refine ⟨after, ?_⟩
        rintro value ⟨⟩
        exact answers answer rfl }
  exact pump_ends rounds chunk moved last s ⟨before, lastGood⟩

theorem pump_keeps (peer : source.Keeps kept)
    (deposits : ∀ moved bytes, Action.Keeps kept (deposit moved bytes)) (count : Nat)
    (chunk : Bytes) (moved : Nat) (last : Option ω) (s : σ) (before : kept s) :
    kept (pump source deposit count chunk moved last s).2 := by
  have answers (moved bytes s) (held : kept s) : kept (deposit moved bytes s).2 ∧
      ∀ answer, (deposit moved bytes s).1 = .ok answer → True :=
    ⟨deposits moved bytes s held, fun _ _ => trivial⟩
  exact (pump_answers peer answers count chunk moved last s before fun _ _ => trivial).1

end

end Transfer

namespace Place

variable {kept : σ → Prop} {place : Place σ}

theorem copyOut_keeps {sink : Sink σ} (peer : sink.Keeps kept) (position count : Nat) :
    Action.Keeps kept (place.copyOut position count sink) :=
  fun s before => Transfer.drain_keeps peer position 0 count s before

theorem copyIn_keeps
    (writes : ∀ position payload, Action.Keeps kept (place.write position payload))
    {source : Source σ} (peer : source.Keeps kept) (position count : Nat) :
    Action.Keeps kept (place.copyIn source position count) := by
  intro s before
  rcases Nat.lt_or_ge (place.look s).size position with beyond | within
  · rwa [copyIn_beyond place source count beyond]
  · rw [copyIn_within place source count within]
    exact Transfer.pump_keeps peer (fun moved bytes => writes (position + moved) [bytes]) count
      (Transfer.freshChunk count) 0 none s before

theorem copyInAtEnd_keeps (appends : ∀ payload, Action.Keeps kept (place.append payload))
    {source : Source σ} (peer : source.Keeps kept) (count : Nat) :
    Action.Keeps kept (place.copyInAtEnd source count) :=
  fun s before => Transfer.pump_keeps peer (fun _ bytes => appends [bytes]) count
    (Transfer.freshChunk count) 0 none s before

theorem store_keeps (work : place.Keeps kept) : place.store.Keeps kept where
  size _ before := before
  read _ _ _ before := before
  write := work.write
  append := work.append
  truncate size s before := work.truncate size s before
  copyOut position count _ peer := copyOut_keeps peer position count
  copyIn _ position count peer := copyIn_keeps work.write peer position count
  copyInAtEnd _ count peer := copyInAtEnd_keeps work.append peer count
  release := work.release

end Place

end SharedBytes
