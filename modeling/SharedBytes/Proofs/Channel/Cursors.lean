import SharedBytes.Proofs.Channel.Dialogue

/-!
# Cursors that stay in range

A channel goes by what its store answers. So if no answer of the store leads a cursor past the
largest position, every call of the channel leaves the cursor in range.
-/

namespace SharedBytes

variable {σ : Type} {kept : σ → Prop} {fits : Exchange → Prop} {store : Store σ}

structure Store.Answers (kept : σ → Prop) (fits : Exchange → Prop) (store : Store σ) : Prop where
  size : ∀ s, kept s → fits (.size (store.size s).1)
  read : ∀ position slices s, kept s →
    fits (.read position slices (store.read position slices s).1.1)
  write : ∀ position payload s, kept s →
    fits (.write position payload (store.write position payload s).1)
  append : ∀ payload s, kept s → fits (.append payload (store.append payload s).1)
  truncate : ∀ size s, kept s → fits (.truncate size (store.truncate size s).1)
  copyOut : ∀ position count sink s, Sink.Keeps kept sink → kept s →
    fits (.copyOut position count (store.copyOut position count sink s).1)
  copyIn : ∀ source position count s, Source.Keeps kept source → kept s →
    fits (.copyIn position count (store.copyIn source position count s).1)
  copyInAtEnd : ∀ source count s, Source.Keeps kept source → kept s →
    fits (.copyInAtEnd count (store.copyInAtEnd source count s).1)

theorem Store.recorded_keeps (work : store.Keeps kept) (answers : store.Answers kept fits) :
    store.recorded.Keeps fun s => kept s.1 ∧ ∀ exchange ∈ s.2, fits exchange := by
  have noted {log : List Exchange} {latest : Exchange} (before : ∀ exchange ∈ log, fits exchange)
      (new : fits latest) : ∀ exchange ∈ log ++ [latest], fits exchange := by
    simpa only [List.mem_append, List.mem_singleton, or_imp, forall_and, forall_eq] using
      ⟨before, new⟩
  constructor
  · intro s before
    exact ⟨work.size s.1 before.1, noted before.2 (answers.size s.1 before.1)⟩
  · intro position slices s before
    exact ⟨work.read position slices s.1 before.1,
      noted before.2 (answers.read position slices s.1 before.1)⟩
  · intro position payload s before
    exact ⟨work.write position payload s.1 before.1,
      noted before.2 (answers.write position payload s.1 before.1)⟩
  · intro payload s before
    exact ⟨work.append payload s.1 before.1,
      noted before.2 (answers.append payload s.1 before.1)⟩
  · intro size s before
    exact ⟨work.truncate size s.1 before.1,
      noted before.2 (answers.truncate size s.1 before.1)⟩
  · intro position count sink peer s before
    have offers : Sink.Keeps kept fun offered state =>
        ((sink offered (state, s.2)).1, (sink offered (state, s.2)).2.1) :=
      fun offered state held => (peer offered (state, s.2) ⟨held, before.2⟩).1
    exact ⟨work.copyOut position count _ offers s.1 before.1,
      noted before.2 (answers.copyOut position count _ s.1 offers before.1)⟩
  · intro source position count peer s before
    have asks : Source.Keeps kept fun slice state =>
        ((source slice (state, s.2)).1, (source slice (state, s.2)).2.1) :=
      fun slice state held => (peer slice (state, s.2) ⟨held, before.2⟩).1
    exact ⟨work.copyIn _ position count asks s.1 before.1,
      noted before.2 (answers.copyIn _ position count s.1 asks before.1)⟩
  · intro source count peer s before
    have asks : Source.Keeps kept fun slice state =>
        ((source slice (state, s.2)).1, (source slice (state, s.2)).2.1) :=
      fun slice state held => (peer slice (state, s.2) ⟨held, before.2⟩).1
    exact ⟨work.copyInAtEnd _ count asks s.1 before.1,
      noted before.2 (answers.copyInAtEnd _ count s.1 asks before.1)⟩
  · intro s before
    exact ⟨work.release s.1 before.1, before.2⟩

theorem Call.beside_keeps {τ : Type} (known : τ → Prop) {call : Call σ}
    (peer : call.Keeps kept) : call.beside.Keeps fun s => kept s.1 ∧ known s.2 := by
  cases call with
  | request _ => trivial
  | copyOut _ _ sink => exact fun offered s before => ⟨peer offered s.1 before.1, before.2⟩
  | copyIn source _ _ => exact fun slice s before => ⟨peer slice s.1 before.1, before.2⟩

def Exchange.InRange : Exchange → Prop
  | .read position _ (.ok count) => position ≤ maxPosition → position + count.getD 0 ≤ maxPosition
  | .write position _ (.ok written) => position ≤ maxPosition → position + written ≤ maxPosition
  | .append _ (.ok receipt) => receipt.size ≤ maxPosition
  | .copyInAtEnd _ (.ok receipt) => receipt.size ≤ maxPosition
  | _ => True

namespace Channel

variable {channel : Channel} {call : Call σ} {s : σ}

theorem heard_fits (work : store.Keeps kept) (answers : store.Answers kept fits)
    (peer : call.Keeps kept) (before : kept s) :
    ∀ exchange ∈ (channel.episode store s call).heard, fits exchange := by
  have peers := Call.beside_keeps (fun log : List Exchange => ∀ exchange ∈ log, fits exchange) peer
  have recorded := Store.recorded_keeps work answers
  exact (perform_keeps recorded channel peers (s, []) ⟨before, List.forall_mem_nil _⟩).2

theorem sought_inRange (before : channel.position ≤ maxPosition) (target : Int) :
    (channel.sought target).position ≤ maxPosition := by
  rw [sought]
  by_cases inRange : 0 ≤ target ∧ target ≤ maxPosition
  · rw [if_pos inRange, moveTo_position]
    omega
  · rwa [if_neg inRange]

theorem alone_inRange (before : channel.position ≤ maxPosition) :
    (channel.alone call).position ≤ maxPosition := by
  fun_cases channel.alone call <;> first | exact sought_inRange before _ | exact before

theorem asks_at_cursor (atCursor : call.isAtCursor = true) {position : Nat} {lengths : List Nat}
    (asks : channel.asks call = some (.read position lengths) ∨
      channel.asks call = some (.write position lengths)) : position = channel.position := by
  revert asks
  cases mode : channel.capabilities.isAppending <;> fun_cases channel.asks call <;>
    simp_all [Call.isAtCursor]

theorem hearing_inRange {exchange : Exchange} (asks : channel.asks call = some exchange.call)
    (inRange : exchange.InRange) (before : channel.position ≤ maxPosition) :
    (channel.hearing call exchange).position ≤ maxPosition := by
  fun_cases channel.hearing call exchange with
  | case1 | case2 => exact inRange
  | case3 _ position slices count atCursor =>
    cases asks_at_cursor atCursor (.inl asks)
    exact inRange before
  | case5 _ position payload written atCursor =>
    cases asks_at_cursor atCursor (.inr asks)
    exact inRange before
  | case7 => exact Nat.le_trans (Nat.min_le_left _ _) before
  | case8 | case9 => exact sought_inRange before _
  | case4 | case6 | case10 | case11 => exact before

theorem single_inRange (work : store.Keeps kept) (answers : store.Answers kept Exchange.InRange)
    (peer : call.Keeps kept) (single : call.isSingle = true) (held : kept s)
    (before : channel.position ≤ maxPosition) :
    (channel.perform store s call).channel.position ≤ maxPosition := by
  have heeds : (channel.episode store s call).Heeds := episode_heeds single
  have inRange := @heard_fits _ _ _ _ channel call s work answers peer held
  have after : (channel.perform store s call).channel = channel.next call _ := heeds.follows
  rw [after]
  cases heard : (channel.episode store s call).heard with
  | nil => exact alone_inRange before
  | cons exchange _ =>
    have first : exchange ∈ (channel.episode store s call).heard := heard ▸ List.mem_cons_self
    exact hearing_inRange (heeds.asked exchange first) (inRange exchange first) before

/-- A full read and a full write are runs of single calls, which leave the cursor in range. -/
theorem perform_inRange (work : store.Keeps kept) (answers : store.Answers kept Exchange.InRange)
    (peer : call.Keeps kept) (held : kept s) (before : channel.position ≤ maxPosition) :
    (channel.perform store s call).channel.position ≤ maxPosition := by
  cases single : call.isSingle with
  | true => exact single_inRange work answers peer single held before
  | false =>
    cases call with
    | copyOut _ _ _ => cases single
    | copyIn _ _ _ => cases single
    | request plain =>
      cases plain with
      | readExact slice =>
        apply (fill_induction (motive := fun channel s => channel.position ≤ maxPosition ∧ kept s)
          _ channel [] slice [] s ⟨before, held⟩).1
        intro channel slice s between
        exact ⟨@single_inRange _ _ _ channel (.request (.streamRead slice)) s work answers trivial
          rfl between.2 between.1, streamRead_keeps work channel slice s between.2⟩
      | writeAll bytes =>
        apply (spill_induction (motive := fun channel s => channel.position ≤ maxPosition ∧ kept s)
          _ channel bytes [] s ⟨before, held⟩).1
        intro channel bytes s between
        exact ⟨@single_inRange _ _ _ channel (.request (.streamWrite bytes)) s work answers trivial
          rfl between.2 between.1, streamWrite_keeps work channel bytes s between.2⟩
      | _ => cases single

end Channel

end SharedBytes
