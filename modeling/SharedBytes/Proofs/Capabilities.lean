import SharedBytes.Proofs.Channel.Dialogue
import SharedBytes.Proofs.Scene

/-!
# What the capabilities of a channel bound

A channel uses its store in no other way than its capabilities allow: `Channel.use?_cases` says once
which way goes with which capability. No call changes the capabilities, so whatever the allowed uses
keep, a run of any calls keeps. For a channel on a buffer this bounds what becomes of the content.
-/

namespace SharedBytes

variable {σ ω : Type}

def Call.isTruncate : Call σ → Bool
  | .request (.truncate _) => true
  | _ => false

namespace Channel

variable {channel later : Channel} {call : Call σ} {use : Use}

theorem use?_cases (found : channel.use? call = some use) :
    (use = .reading ∧ channel.capabilities.isReadable = true) ∨
      (use = .writing ∧ channel.capabilities.isWritable = true ∧
        channel.capabilities.isAppending = false) ∨
      (use = .appending ∧ channel.capabilities.isAppending = true) ∨
      (use = .cutting ∧ channel.capabilities.isWritable = true ∧ call.isTruncate = true) := by
  have allowed {capability : Bool} {way : Use}
      (found : (if capability then some way else none) = some use) :
      use = way ∧ capability = true := by
    obtain ⟨present, same⟩ := Option.ite_none_right_eq_some.mp found
    exact ⟨(Option.some.inj same).symm, present⟩
  have writing (found : channel.writing? = some use) :
      (use = .writing ∧ channel.capabilities.isWritable = true ∧
          channel.capabilities.isAppending = false) ∨
        (use = .appending ∧ channel.capabilities.isAppending = true) := by
    cases mode : channel.capabilities.isAppending with
    | true =>
      rw [writing?, if_pos mode] at found
      exact .inr ⟨(Option.some.inj found).symm, rfl⟩
    | false =>
      rw [writing?, mode, if_neg Bool.false_ne_true] at found
      obtain ⟨same, writable⟩ := allowed found
      exact .inl ⟨same, writable, rfl⟩
  revert found
  fun_cases channel.use? call with
  | case1 | case2 | case3 | case4 | case5 => exact fun found => .inl (allowed found)
  | case6 | case7 | case8 | case9 | case10 =>
    intro found
    rcases writing found with positional | appending
    · exact .inr (.inl positional)
    · exact .inr (.inr (.inl appending))
  | case11 size writable =>
    intro found
    exact .inr (.inr (.inr ⟨(Option.some.inj found).symm, writable, rfl⟩))
  | case12 | case13 =>
    intro found
    cases found

def OnlyAppends (channel : Channel) (call : Call σ) : Prop :=
  ∀ use, channel.use? call = some use → use = .reading ∨ use = .appending

theorem onlyAppends_of_appending (appending : channel.capabilities.isAppending = true)
    (uncut : call.isTruncate = false) : channel.OnlyAppends call := by
  intro use found
  rcases use?_cases found with ⟨reading, _⟩ | ⟨_, _, mode⟩ | ⟨appended, _⟩ | ⟨_, _, cutting⟩
  · exact .inl reading
  · cases appending.symm.trans mode
  · exact .inr appended
  · cases uncut.symm.trans cutting

theorem reads_of_unwritable (unwritable : channel.capabilities.isWritable = false)
    (found : channel.use? call = some use) : use = .reading := by
  rcases use?_cases found with ⟨reading, _⟩ | ⟨_, writable, _⟩ | ⟨_, appending⟩ | ⟨_, writable, _⟩
  · exact reading
  · cases unwritable.symm.trans writable
  · cases (Bool.or_eq_false_iff.mp unwritable).2.symm.trans appending
  · cases unwritable.symm.trans writable

theorem use?_congr (same : later.capabilities = channel.capabilities) (call : Call σ) :
    later.use? call = channel.use? call := by
  have reading : later.reading? = channel.reading? := by rw [reading?, reading?, same]
  have writing : later.writing? = channel.writing? := by rw [writing?, writing?, same]
  fun_cases channel.use? call <;> simp_all [use?]

theorem single_capabilities (single : call.isSingle = true) (store : Store σ) (s : σ) :
    (channel.perform store s call).channel.capabilities = channel.capabilities := by
  have follows : (channel.perform store s call).channel = channel.next call _ :=
    (episode_heeds single).follows
  rw [follows, next_capabilities]

theorem singles_capabilities (store : Store σ) (channel : Channel) (s : σ)
    {calls : List (Call σ)} (single : ∀ call ∈ calls, call.isSingle = true) :
    (channel.run store s calls).1.capabilities = channel.capabilities := by
  induction calls generalizing channel s with
  | nil => rfl
  | cons call calls induction =>
    obtain ⟨isSingle, singles⟩ := List.forall_mem_cons.mp single
    rw [run, induction _ _ singles, single_capabilities isSingle]

/-- Every run is one of single calls, none of which changes the capabilities. -/
theorem run_capabilities (store : Store σ) (channel : Channel) (s : σ) (calls : List (Call σ)) :
    (channel.run store s calls).1.capabilities = channel.capabilities := by
  obtain ⟨singles, single, reached⟩ := run_reaches store channel s calls
  rw [← reached, singles_capabilities store channel s single]

theorem perform_capabilities (store : Store σ) (channel : Channel) (s : σ) (call : Call σ) :
    (channel.perform store s call).channel.capabilities = channel.capabilities :=
  run_capabilities store channel s [call]

variable {store : Store σ} {used : Use → Prop} {kept : σ → Prop}

/-- What the uses keep that a channel makes of its store, a run of its calls keeps. -/
theorem run_keepsIn (work : store.KeepsIn used kept) (channel : Channel) {calls : List (Call σ)}
    (peers : ∀ call ∈ calls, call.Keeps kept)
    (uses : ∀ call ∈ calls, ∀ use, channel.use? call = some use → used use) (s : σ)
    (before : kept s) : kept (channel.run store s calls).2 := by
  induction calls generalizing channel s with
  | nil => exact before
  | cons call calls induction =>
    obtain ⟨peer, peers⟩ := List.forall_mem_cons.mp peers
    obtain ⟨first, others⟩ := List.forall_mem_cons.mp uses
    apply induction _ peers
    · intro next member use found
      rw [use?_congr (perform_capabilities store channel s call)] at found
      exact others next member use found
    · exact channel.perform_keepsIn work peer first s before

end Channel

namespace Scene

open Channel

variable {room : Scene ω → Memory}

theorem place_keeps_bytes (bytes : Bytes) :
    (place room).KeepsIn (fun use => use = .reading) fun s => s.buffer.bytes = bytes where
  write := nofun
  append := nofun
  truncate := nofun
  release _ before := before

theorem place_keeps_start (start : Bytes) :
    (place room).KeepsIn (fun use => use = .reading ∨ use = .appending)
      fun s => start <+: s.buffer.bytes where
  write := nofun
  append := by
    intro _ payload s before
    rcases @Buffer.append_cases (room s) s.buffer payload with ⟨_, appended⟩ | ⟨error, _, refused⟩
    · simp only [place, appended]
      exact before.trans (List.prefix_append _ _)
    · simpa only [place, refused] using before
  truncate := nofun
  release _ before := before

theorem place_keeps_length (length : Nat) :
    (place room).KeepsIn (fun use => use ≠ .cutting) fun s => length ≤ s.buffer.bytes.length where
  write := by
    intro _ position payload s before
    rcases @Buffer.write_cases (room s) s.buffer position payload with
      ⟨_, written⟩ | ⟨_, _, written⟩ | ⟨_, _, error, _, written⟩
    · simpa only [place, written] using before
    · simp only [place, written, Bytes.length_splice]
      exact Nat.le_trans before (Nat.le_max_left _ _)
    · simpa only [place, written] using before
  append := by
    intro _ payload s before
    rcases @Buffer.append_cases (room s) s.buffer payload with ⟨_, appended⟩ | ⟨error, _, refused⟩
    · simp only [place, appended, List.length_append]
      exact Nat.le_add_right_of_le before
    · simpa only [place, refused] using before
  truncate cutting := absurd rfl cutting
  release _ before := before

/-- A peer that leaves the content alone keeps all that can be said of the content. -/
theorem peer_keeps {call : Call (Scene ω)}
    (peer : ∀ bytes, call.Keeps fun s => s.buffer.bytes = bytes) (property : Bytes → Prop) :
    call.Keeps fun s => property s.buffer.bytes := by
  cases call with
  | request _ => trivial
  | copyOut _ _ sink =>
    intro offered s before
    rwa [peer s.buffer.bytes offered s rfl]
  | copyIn source _ _ =>
    intro slice s before
    rwa [peer s.buffer.bytes slice s rfl]

theorem run_within_capabilities (channel : Channel) (s : Scene ω) {calls : List (Call (Scene ω))}
    (peers : ∀ call ∈ calls, ∀ bytes, call.Keeps fun s => s.buffer.bytes = bytes) :
    let content (calls : List (Call (Scene ω))) :=
      (channel.run (place room).store s calls).2.buffer.bytes
    (channel.capabilities.write = false → channel.capabilities.append = false →
        content calls = s.buffer.bytes) ∧
      ((∀ call ∈ calls, call.isTruncate = false) →
        (channel.capabilities.append = true → s.buffer.bytes <+: content calls) ∧
        ∀ early late, early <+: late → late <+: calls →
          (content early).length ≤ (content late).length) := by
  intro content
  refine ⟨?_, fun uncut => ⟨?_, ?_⟩⟩
  · intro unwritten unappended
    have unwritable : channel.capabilities.isWritable = false :=
      Bool.or_eq_false_iff.mpr ⟨unwritten, unappended⟩
    exact channel.run_keepsIn (Place.store_keepsIn (place_keeps_bytes s.buffer.bytes))
      (fun call member => peers call member s.buffer.bytes)
      (fun _ _ _ found => reads_of_unwritable unwritable found) s rfl
  · intro appending
    exact channel.run_keepsIn (Place.store_keepsIn (place_keeps_start s.buffer.bytes))
      (fun call member => peer_keeps (peers call member) (s.buffer.bytes <+: ·))
      (fun call member => onlyAppends_of_appending appending (uncut call member)) s
      List.prefix_rfl
  · rintro early _ ⟨more, rfl⟩ ⟨rest, rfl⟩
    simp only [content, run_append]
    -- The later calls are a run of their own, from what the earlier ones have left.
    have later : ∀ call ∈ more, call ∈ early ++ more ++ rest := by
      intro call member
      simp [member]
    apply run_keepsIn (Place.store_keepsIn (place_keeps_length _)) _ _ _ _ (Nat.le_refl _)
    · intro call member
      exact peer_keeps (peers call (later call member)) (_ ≤ List.length ·)
    · rintro call member use found rfl
      rcases use?_cases found with ⟨⟨⟩, _⟩ | ⟨⟨⟩, _⟩ | ⟨⟨⟩, _⟩ | ⟨_, _, cutting⟩
      rw [uncut call (later call member)] at cutting
      cases cutting

def supplies : Source (Scene Bytes) := fun slice s =>
  let moved := s.world.take slice.length
  (⟨.ok moved.length, moved⟩, { s with world := s.world.drop slice.length })

def notebook : Scene Bytes :=
  { buffer := { bytes := [1, 2], limit := some 6 }, world := [7, 8, 9] }

/-- Calls that name the start of the content, the last of which asks for more than fits. -/
def notes : List (Call (Scene Bytes)) :=
  [.request (.setPosition 0), .request (.writeAt [3] 0), .copyIn supplies 0 5,
    .request (.write [[4]])]

theorem notebook_within_capabilities :
    let content (calls : List (Call (Scene Bytes))) :=
      ((Channel.opened { append := true }).run (place fun _ => Memory.standard).store notebook
        calls).2.buffer.bytes
    content notes = [1, 2, 3, 7, 8, 9] ∧ [1, 2] <+: content notes ∧
      (content (notes.take 2)).length ≤ (content (notes.take 3)).length := by
  intro content
  have peers : ∀ call ∈ notes, ∀ bytes, call.Keeps fun s => s.buffer.bytes = bytes := by
    simp only [notes, List.forall_mem_cons, Call.Keeps, implies_true, true_and]
    exact ⟨fun bytes slice s before => before, List.forall_mem_nil _⟩
  have uncut : ∀ call ∈ notes, call.isTruncate = false := by
    simp [notes, Call.isTruncate]
  obtain ⟨prefixed, growing⟩ := (@run_within_capabilities _ (fun _ => Memory.standard)
    (Channel.opened { append := true }) notebook notes peers).2 uncut
  refine ⟨by decide +kernel, prefixed rfl, growing _ _ ?_ (List.take_prefix 3 notes)⟩
  exact List.take_prefix_take_left (by decide)

end Scene

end SharedBytes
