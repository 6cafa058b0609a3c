import SharedBytes.Proofs.Channel.Exchanges
import SharedBytes.Proofs.Channel.Kept
import SharedBytes.Proofs.Channel.Runs
import SharedBytes.Proofs.Channel.Seeking

/-!
# Channels go by what their stores answer

Each single call is an episode in which the channel heeds its store, whatever the store is and
answers. So at the end of a run the channel can be told from the answers that its store has given.

Positions are numbers of any size here, so no sum of a cursor and a reported count overflows.
-/

namespace SharedBytes.Channel

variable {σ α : Type}

section

variable {store : Store σ} {channel : Channel} {s : σ} {call : Call σ}

theorem failure_map {β : Type} (answer : Except StoreFailure α) (value : α → β) :
    (Outcome.ofExcept (answer.map value)).failure? = (Outcome.ofExcept answer).failure? := by
  cases answer <;> rfl

theorem answering_failed {reply : Reply σ (Except ChannelFailure α)}
    {answer : Except StoreFailure α} (value : α → Answer) {failure : StoreFailure}
    (passed : reply.result = answer.mapError .store)
    (failed : (Outcome.ofExcept answer).failure? = some failure) :
    (reply.answering value).result = .error (.channel (.store failure)) := by
  cases answer with
  | ok _ => cases failed
  | error _ =>
    cases failed
    rw [Reply.answering, passed]
    rfl

/-- A call that is refused is not heard of, so it is enough to look at one that is not. -/
theorem heeds_unless_refused {requirement : Requirement} {arguments : List Argument}
    (terms : call.terms? = some (requirement, arguments)) (stays : channel.alone call = channel)
    (allowed : channel.refusal? requirement arguments = none →
      (channel.episode store s call).Heeds) : (channel.episode store s call).Heeds := by
  cases refused : channel.refusal? requirement arguments with
  | none => exact allowed refused
  | some failure =>
    apply heeds_silent
    · rw [perform_refused store.recorded (s, []) (call.beside_terms.trans terms) refused]
    · rw [perform_refused store s terms refused, stays]
    · intro answer succeeded
      rw [perform_refused store s terms refused] at succeeded
      cases succeeded

/-- What is said of a call holds of another that does the same. -/
theorem Episode.Heeds.recall {episode : Episode σ} (heeds : episode.Heeds)
    (asks : episode.before.asks call = episode.before.asks episode.call)
    (next : episode.before.next call = episode.before.next episode.call) :
    { episode with call }.Heeds where
  once := heeds.once
  asked := asks ▸ heeds.asked
  appending := heeds.appending
  positional := heeds.positional
  failed := heeds.failed
  follows := next ▸ heeds.follows
  succeeded := asks ▸ heeds.succeeded

theorem read_heeds (slices : List Bytes) :
    (channel.episode store s (.request (.read slices))).Heeds := by
  refine heeds_unless_refused rfl (ite_self _) ?_
  intro allowed
  obtain ⟨result, _, moved, _⟩ := read_allowed store allowed slices s
  have said := (read_allowed store.recorded allowed slices (s, [])).2.2.2
  refine heeds_asked (congrArg Prod.snd said) rfl ?_ ?_
  · intro failure failed
    exact answering_failed .reading result failed
  · refine moved.trans ?_
    cases (store.read channel.position slices s).1.1 <;> rfl

theorem streamRead_heeds (slice : Bytes) :
    (channel.episode store s (.request (.streamRead slice))).Heeds := by
  refine heeds_unless_refused rfl (ite_self _) ?_
  intro allowed
  obtain ⟨result, moved, _⟩ := streamRead_allowed store allowed slice s
  have said := (streamRead_allowed store.recorded allowed slice (s, [])).2.2
  refine heeds_asked (congrArg Prod.snd said) rfl ?_ ?_
  · intro failure failed
    exact answering_failed .number result ((failure_map _ _).trans failed)
  · refine moved.trans ?_
    cases (store.read channel.position [slice] s).1.1 <;> rfl

theorem readAt_heeds (slice : Bytes) (position : Nat) :
    (channel.episode store s (.request (.readAt slice position))).Heeds := by
  refine heeds_unless_refused rfl (ite_self _) ?_
  intro allowed
  obtain ⟨result, _, same, _⟩ := readAt_allowed store allowed slice s
  have said := (readAt_allowed store.recorded allowed slice (s, [])).2.2.2
  refine heeds_asked (congrArg Prod.snd said) rfl ?_ ?_
  · intro failure failed
    exact answering_failed .reading result failed
  · refine same.trans ?_
    cases (store.read position [slice] s).1.1 <;> rfl

theorem write_heeds (payload : List Bytes) :
    (channel.episode store s (.request (.write payload))).Heeds := by
  refine heeds_unless_refused rfl (ite_self _) ?_
  intro allowed
  cases mode : channel.capabilities.isAppending with
  | true =>
    obtain ⟨result, moved, _⟩ := write_appending store allowed mode payload s
    have said := (write_appending store.recorded allowed mode payload (s, [])).2.2
    refine heeds_asked (congrArg Prod.snd said) ?_ ?_ ?_
    · simp only [asks, mode, if_true]
      rfl
    · intro failure failed
      exact answering_failed .number result ((failure_map _ _).trans failed)
    · refine moved.trans ?_
      cases (store.append payload s).1 <;> rfl
  | false =>
    obtain ⟨result, moved, _⟩ := write_positional store allowed mode payload s
    have said := (write_positional store.recorded allowed mode payload (s, [])).2.2
    refine heeds_asked (congrArg Prod.snd said) ?_ ?_ ?_
    · simp only [asks, mode]
      rfl
    · intro failure failed
      exact answering_failed .number result failed
    · refine moved.trans ?_
      cases (store.write channel.position payload s).1 <;> rfl

theorem streamWrite_heeds (bytes : Bytes) :
    (channel.episode store s (.request (.streamWrite bytes))).Heeds :=
  (write_heeds [bytes]).recall rfl rfl

theorem writeAt_heeds (payload : Bytes) (position : Nat) :
    (channel.episode store s (.request (.writeAt payload position))).Heeds := by
  refine heeds_unless_refused rfl (ite_self _) ?_
  intro allowed
  cases mode : channel.capabilities.isAppending with
  | true =>
    obtain ⟨result, moved, _⟩ := writeAt_appending store allowed mode payload s
    have said := (writeAt_appending store.recorded allowed mode payload (s, [])).2.2
    refine heeds_asked (congrArg Prod.snd said) ?_ ?_ ?_
    · simp only [asks, mode, if_true]
      rfl
    · intro failure failed
      exact answering_failed .number result ((failure_map _ _).trans failed)
    · refine moved.trans ?_
      cases (store.append [payload] s).1 <;> rfl
  | false =>
    obtain ⟨result, same, _⟩ := writeAt_positional store allowed mode payload s
    have said := (writeAt_positional store.recorded allowed mode payload (s, [])).2.2
    refine heeds_asked (congrArg Prod.snd said) ?_ ?_ ?_
    · simp only [asks, mode]
      rfl
    · intro failure failed
      exact answering_failed .number result failed
    · refine same.trans ?_
      cases (store.write position [payload] s).1 <;> rfl

theorem size_heeds : (channel.episode store s (.request .size)).Heeds := by
  refine heeds_unless_refused rfl (ite_self _) ?_
  intro allowed
  have said := congrArg Reply.state (size_allowed store.recorded allowed (s, []))
  refine heeds_asked (congrArg Prod.snd said) rfl ?_ ?_
  · nofun
  · exact congrArg Reply.channel (size_allowed store allowed s)

theorem truncate_heeds (size : Nat) :
    (channel.episode store s (.request (.truncate size))).Heeds := by
  refine heeds_unless_refused rfl (ite_self _) ?_
  intro allowed
  obtain ⟨result, moved, _⟩ := truncate_allowed store allowed s
  have said := (truncate_allowed store.recorded allowed (s, [])).2.2
  refine heeds_asked (congrArg Prod.snd said) rfl ?_ ?_
  · intro failure failed
    exact answering_failed (fun _ => .done) result failed
  · refine moved.trans ?_
    cases (store.truncate size s).1 <;> rfl

theorem copyOut_heeds (position count : Nat) (sink : Sink σ) :
    (channel.episode store s (.copyOut position count sink)).Heeds := by
  refine heeds_unless_refused rfl (ite_self _) ?_
  intro allowed
  obtain ⟨result, same, _⟩ := copyOut_allowed store allowed sink s
  have said := (copyOut_allowed store.recorded allowed sink.beside (s, [])).2.2
  refine heeds_asked (congrArg Prod.snd said) rfl ?_ ?_
  · intro failure failed
    exact answering_failed .number result failed
  · exact same

theorem failure_mapped {β : Type} (answer : Outcome StoreFailure α) (value : α → β) :
    (answer.map value).failure? = answer.failure? := by
  cases answer <;> rfl

theorem copyIn_failed {source : Source σ} {position count : Nat} {answer : Outcome StoreFailure Nat}
    {failure : StoreFailure}
    (passed : (channel.copyIn store source position count s).result = answer.mapError .store)
    (failed : answer.failure? = some failure) :
    (channel.perform store s (.copyIn source position count)).result =
      .error (.channel (.store failure)) := by
  cases answer with
  | ok _ | aborted => cases failed
  | error _ =>
    cases failed
    simp only [perform, passed]
    rfl

theorem copyIn_heeds (source : Source σ) (position count : Nat) :
    (channel.episode store s (.copyIn source position count)).Heeds := by
  refine heeds_unless_refused rfl (ite_self _) ?_
  intro allowed
  cases mode : channel.capabilities.isAppending with
  | true =>
    obtain ⟨result, moved, _⟩ := copyIn_appending store allowed mode source s
    have said := (copyIn_appending store.recorded allowed mode source.beside (s, [])).2.2
    have heard : _ = [Exchange.copyInAtEnd count (store.copyInAtEnd source count s).1] :=
      congrArg Prod.snd said
    refine heeds_asked heard ?_ ?_ ?_
    · simp only [asks, mode, if_true]
      rfl
    · intro failure failed
      exact copyIn_failed result ((failure_mapped _ _).trans failed)
    · refine moved.trans ?_
      cases (store.copyInAtEnd source count s).1 <;> rfl
  | false =>
    obtain ⟨result, same, _⟩ := copyIn_positional store allowed mode source s
    have said := (copyIn_positional store.recorded allowed mode source.beside (s, [])).2.2
    refine heeds_asked (congrArg Prod.snd said) ?_ ?_ ?_
    · simp only [asks, mode]
      rfl
    · intro failure failed
      exact copyIn_failed result failed
    · exact same

theorem seek_channel (target : SeekTarget) :
    (channel.seek store target s).channel =
      if channel.isOpen then channel.sought (channel.resolve store target s).1 else channel := by
  cases isOpen : channel.isOpen with
  | true => exact (seek_allowed store (channel.justOpen_allowed isOpen) target s).1
  | false => simp only [seek_closed isOpen, Bool.false_eq_true, if_false]

theorem seek_state (target : SeekTarget) :
    (channel.seek store target s).state =
      if channel.isOpen then (channel.resolve store target s).2 else s := by
  cases isOpen : channel.isOpen with
  | true => exact (seek_allowed store (channel.justOpen_allowed isOpen) target s).2
  | false => simp only [seek_closed isOpen, Bool.false_eq_true, if_false]

theorem seek_heeds (target : SeekTarget) :
    (channel.episode store s (.request (.seek target))).Heeds := by
  cases target with
  | start offset =>
    refine heeds_alone rfl ?_ ?_
    · exact congrArg Prod.snd ((seek_state (.start offset)).trans (ite_self _))
    · exact seek_channel (.start offset)
  | current delta =>
    refine heeds_alone rfl ?_ ?_
    · exact congrArg Prod.snd ((seek_state (.current delta)).trans (ite_self _))
    · exact seek_channel (.current delta)
  | ending delta =>
    have said := @seek_state _ store.recorded channel (s, []) (.ending delta)
    have moved := @seek_channel _ store channel s (.ending delta)
    cases isOpen : channel.isOpen with
    | true =>
      rw [if_pos isOpen] at said moved
      refine heeds_asked (congrArg Prod.snd said) rfl ?_ ?_
      · nofun
      · exact moved
    | false =>
      rw [if_neg (Bool.not_eq_true _ ▸ isOpen)] at said moved
      refine heeds_silent (congrArg Prod.snd said) (moved.trans (ite_self channel).symm) ?_
      intro answer succeeded
      rw [perform, serve, seek_closed isOpen] at succeeded
      cases succeeded

theorem streamSeek_heeds (target : SeekTarget) :
    (channel.episode store s (.request (.streamSeek target))).Heeds := by
  apply (seek_heeds target).recall
  · cases target <;> rfl
  · cases target <;> rfl

theorem rewind_heeds : (channel.episode store s (.request .rewind)).Heeds := by
  refine heeds_alone rfl ?_ ?_
  · exact congrArg Prod.snd ((seek_state (.start 0)).trans (ite_self _))
  · exact seek_channel (.start 0)

theorem streamPosition_heeds : (channel.episode store s (.request .streamPosition)).Heeds := by
  refine heeds_alone rfl ?_ ?_
  · exact congrArg Prod.snd ((seek_state (.current 0)).trans (ite_self _))
  · refine (seek_channel (.current 0)).trans ?_
    simp only [resolve, Int.add_zero]
    rfl

theorem setPosition_heeds (position : Nat) :
    (channel.episode store s (.request (.setPosition position))).Heeds := by
  refine heeds_alone rfl ?_ ?_
  · exact congrArg Prod.snd (setPosition_state channel position (s, []))
  · change (channel.setPosition position s).channel =
      channel.alone (.request (.setPosition position))
    by_cases inRange : position ≤ maxPosition
    · cases isOpen : channel.isOpen with
      | true => simp [setPosition, attempt, refusal?, missing?, alone, sought, isOpen, inRange,
          Nat.not_lt_of_le inRange]
      | false => simp [setPosition, attempt, refusal?, alone, isOpen, Nat.not_lt_of_le inRange]
    · simp [setPosition, attempt, refusal?, alone, sought, inRange, Nat.lt_of_not_le inRange]

theorem close_heeds : (channel.episode store s (.request .close)).Heeds := by
  refine heeds_alone rfl ?_ ?_
  · change (channel.close store.recorded (s, [])).state.2 = []
    rw [close]
    cases channel.isOpen <;> rfl
  · change (channel.close store s).channel = channel.alone (.request .close)
    rw [close]
    cases isOpen : channel.isOpen <;> simp [alone, isOpen]

theorem episode_heeds (single : call.isSingle = true) : (channel.episode store s call).Heeds := by
  cases call with
  | copyOut position count sink => exact copyOut_heeds position count sink
  | copyIn source position count => exact copyIn_heeds source position count
  | request plain =>
    cases plain with
    | read slices => exact read_heeds slices
    | readAt slice position => exact readAt_heeds slice position
    | streamRead slice => exact streamRead_heeds slice
    | write payload => exact write_heeds payload
    | writeAt payload position => exact writeAt_heeds payload position
    | streamWrite bytes => exact streamWrite_heeds bytes
    | size => exact size_heeds
    | truncate size => exact truncate_heeds size
    | seek target => exact seek_heeds target
    | streamSeek target => exact streamSeek_heeds target
    | rewind => exact rewind_heeds
    | streamPosition => exact streamPosition_heeds
    | setPosition position => exact setPosition_heeds position
    | close => exact close_heeds
    -- The others need no store and leave the channel as it is, whether they are refused or not.
    | cursor =>
      refine heeds_alone rfl ?_ ?_
      · exact congrArg Prod.snd (cursor_state channel (s, []))
      · exact (channel.cursor_channel s).trans (ite_self channel).symm
    | flush metadata =>
      refine heeds_alone rfl ?_ ?_
      · exact congrArg Prod.snd (flush_state channel metadata (s, []))
      · exact (channel.flush_channel metadata s).trans (ite_self channel).symm
    | streamFlush =>
      refine heeds_alone rfl ?_ ?_
      · exact congrArg Prod.snd (flush_state channel false (s, []))
      · exact (channel.flush_channel false s).trans (ite_self channel).symm
    | lock position size shared | tryLock position size shared =>
      refine heeds_alone rfl ?_ ?_
      · exact congrArg Prod.snd (lock_state channel position size shared (s, []))
      · exact (channel.lock_channel position size shared s).trans (ite_self channel).symm
    | map mode position size => exact heeds_alone rfl rfl (ite_self channel).symm
    | readExact _ | writeAll _ => cases single

end

theorem singles_follow_store (store : Store σ) (channel : Channel) (s : σ) {calls : List (Call σ)}
    (single : ∀ call ∈ calls, call.isSingle = true) :
    (∀ episode ∈ channel.episodes store s calls, episode.Heeds) ∧
      (channel.run store s calls).1 = channel.retold ((channel.episodes store s calls).map
        fun episode => (episode.call, episode.heard)) := by
  -- After the first episode comes a run of the channel and the store that it leaves behind.
  induction calls generalizing channel s with
  | nil => exact ⟨List.forall_mem_nil _, rfl⟩
  | cons call calls induction =>
    obtain ⟨isSingle, singles⟩ := List.forall_mem_cons.mp single
    have heeds : (channel.episode store s call).Heeds := episode_heeds isSingle
    obtain ⟨later, told⟩ := induction (channel.perform store s call).channel
      (channel.perform store s call).state singles
    have follows : (channel.perform store s call).channel =
        channel.next call (channel.episode store s call).heard := heeds.follows
    refine ⟨List.forall_mem_cons.mpr ⟨heeds, later⟩, ?_⟩
    rw [episodes, List.map_cons, retold_cons, run, told]
    exact congrArg (retold · _) follows

/-- A run is a run of single calls, and itself if its calls are single. In each of them the channel
goes by what its store answers, and it ends as those answers say. -/
theorem run_follows_store (store : Store σ) (channel : Channel) (s : σ) (calls : List (Call σ)) :
    ∃ singles : List (Call σ), (∀ call ∈ singles, call.isSingle = true) ∧
      ((∀ call ∈ calls, call.isSingle = true) → singles = calls) ∧
      channel.run store s singles = channel.run store s calls ∧
      let episodes := channel.episodes store s singles
      (∀ episode ∈ episodes, episode.Heeds) ∧
        (channel.run store s calls).1 =
          channel.retold (episodes.map fun episode => (episode.call, episode.heard)) := by
  by_cases single : ∀ call ∈ calls, call.isSingle = true
  · exact ⟨calls, single, fun _ => rfl, rfl, singles_follow_store store channel s single⟩
  · obtain ⟨singles, allSingle, reached⟩ := run_reaches store channel s calls
    obtain ⟨heeds, retold⟩ := singles_follow_store store channel s allSingle
    refine ⟨singles, allSingle, fun all => absurd all single, reached, heeds, ?_⟩
    rw [← retold, reached]

/-- A size that the store makes up is believed. -/
example : ((opened { append := true }).run
    (watched.replying { append := some (.ok { written := 9, size := 40 }) }) (.ofBytes [1, 2], [])
    [.request (.write [[3]])]).1.position = 40 := rfl

end SharedBytes.Channel
