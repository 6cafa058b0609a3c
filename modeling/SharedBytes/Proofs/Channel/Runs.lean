import SharedBytes.Channel.Request

/-!
# Runs of calls

A run makes calls on one channel, one after the other. A full read is a run of reads, and a full
write is a run of writes, as long as may be. Every other call is single.
-/

namespace SharedBytes

variable {σ : Type}

def Call.isSingle : Call σ → Bool
  | .request (.readExact _) | .request (.writeAll _) => false
  | _ => true

theorem Reply.answering_ok {α : Type} {reply : Reply σ (Except ChannelFailure α)} {value : α}
    (succeeded : reply.result = .ok value) (answer : α → Answer) :
    (reply.answering answer).result = .ok (answer value) := by
  rw [answering, succeeded]
  rfl

theorem Reply.answering_ok_iff {α : Type} (reply : Reply σ (Except ChannelFailure α))
    (answer : α → Answer) :
    (∃ given, (reply.answering answer).result = .ok given) ↔ ∃ value, reply.result = .ok value := by
  cases found : reply.result with
  | ok value => exact iff_of_true ⟨_, answering_ok found answer⟩ ⟨value, rfl⟩
  | error failure =>
    rw [answering, found]
    exact iff_of_false nofun nofun

namespace Channel

variable {store : Store σ}

/-- By induction over the rounds of a full read: what each of its reads keeps, it keeps. -/
theorem fill_induction {motive : Channel → σ → Prop}
    (reads : ∀ channel slice s, motive channel s →
      motive (channel.streamRead store slice s).channel (channel.streamRead store slice s).state)
    (channel : Channel) (filled rest : Bytes) (events : List Event) (s : σ)
    (before : motive channel s) :
    let reply := channel.fill store filled rest events s
    motive reply.channel reply.state := by
  induction channel, filled, rest, events, s using fill.induct store with
  | case1 channel filled events s =>
    rw [fill]
    simpa using before
  | case2 channel filled rest events s unfilled reply error failed =>
    have after := reads channel rest s before
    rw [fill]
    simpa [unfilled, reply, failed] using after
  | case3 channel filled rest events s unfilled reply ended =>
    have after := reads channel rest s before
    rw [fill]
    simpa [unfilled, reply, ended] using after
  | case4 channel filled rest events s unfilled reply n reported tooMany =>
    have after := reads channel rest s before
    rw [fill]
    simpa [unfilled, reply, reported, tooMany] using after
  | case5 channel filled rest events s unfilled reply slice n reported fits induction =>
    have after := induction (reads channel rest s before)
    rw [fill]
    simpa [unfilled, reply, slice, reported, fits] using after

/-- By induction over the rounds of a full write: what each of its writes keeps, it keeps. -/
theorem spill_induction {motive : Channel → σ → Prop}
    (writes : ∀ channel bytes s, motive channel s →
      motive (channel.streamWrite store bytes s).channel (channel.streamWrite store bytes s).state)
    (channel : Channel) (bytes : Bytes) (events : List Event) (s : σ) (before : motive channel s) :
    let reply := channel.spill store bytes events s
    motive reply.channel reply.state := by
  induction channel, bytes, events, s using spill.induct store with
  | case1 channel events s =>
    rw [spill]
    simpa using before
  | case2 channel bytes events s nonempty reply error failed =>
    have after := writes channel bytes s before
    rw [spill]
    simpa [nonempty, reply, failed] using after
  | case3 channel bytes events s nonempty reply none =>
    have after := writes channel bytes s before
    rw [spill]
    simpa [nonempty, reply, none] using after
  | case4 channel bytes events s nonempty reply n reported tooMany =>
    have after := writes channel bytes s before
    rw [spill]
    simpa [nonempty, reply, reported, tooMany] using after
  | case5 channel bytes events s nonempty reply n reported fits induction =>
    have after := induction (writes channel bytes s before)
    rw [spill]
    simpa [nonempty, reply, reported, fits] using after

def run (store : Store σ) (channel : Channel) (s : σ) : List (Call σ) → Channel × σ
  | [] => (channel, s)
  | call :: calls =>
    let reply := channel.perform store s call
    run store reply.channel reply.state calls

theorem run_append (channel : Channel) (s : σ) (first second : List (Call σ)) :
    channel.run store s (first ++ second) =
      (channel.run store s first).1.run store (channel.run store s first).2 second := by
  induction first generalizing channel s with
  | nil => rfl
  | cons call calls induction => exact induction _ _

theorem run_single (channel : Channel) (s : σ) (call : Call σ) :
    channel.run store s [call] =
      ((channel.perform store s call).channel, (channel.perform store s call).state) := rfl

def answers (store : Store σ) (channel : Channel) (s : σ) :
    List (Call σ) → List (Outcome CallFailure Answer)
  | [] => []
  | call :: calls =>
    let reply := channel.perform store s call
    reply.result :: reply.channel.answers store reply.state calls

def Completes (store : Store σ) (channel : Channel) (s : σ) (calls : List (Call σ)) : Prop :=
  ∀ answer ∈ channel.answers store s calls, ∃ value, answer = .ok value

theorem completes_nil (channel : Channel) (s : σ) : channel.Completes store s [] :=
  List.forall_mem_nil _

theorem completes_cons (channel : Channel) (s : σ) (call : Call σ) (calls : List (Call σ)) :
    channel.Completes store s (call :: calls) ↔
      let reply := channel.perform store s call
      (∃ value, reply.result = .ok value) ∧
        reply.channel.Completes store reply.state calls :=
  List.forall_mem_cons

def Reaches (store : Store σ) (start : Channel) (origin : σ) (channel : Channel) (s : σ) : Prop :=
  ∃ calls : List (Call σ), (∀ call ∈ calls, call.isSingle = true) ∧
    start.run store origin calls = (channel, s)

theorem Reaches.next {start channel : Channel} {origin s : σ}
    (before : Reaches store start origin channel s) (call : Call σ)
    (single : call.isSingle = true) :
    let reply := channel.perform store s call
    Reaches store start origin reply.channel reply.state := by
  obtain ⟨calls, singles, reached⟩ := before
  refine ⟨calls ++ [call], ?_, ?_⟩
  · simpa [or_imp, forall_and] using ⟨singles, single⟩
  · rw [run_append, reached, run_single]

/-- Every call is a run of single calls. -/
theorem perform_reaches (channel : Channel) (s : σ) (call : Call σ) :
    let reply := channel.perform store s call
    Reaches store channel s reply.channel reply.state := by
  have rest : Reaches store channel s channel s := ⟨[], by simp, rfl⟩
  cases single : call.isSingle with
  | true => exact rest.next call single
  | false =>
    cases call with
    | copyOut _ _ _ => cases single
    | copyIn _ _ _ => cases single
    | request plain =>
      cases plain with
      | readExact slice =>
        apply fill_induction (motive := Reaches store channel s) _ channel [] slice [] s rest
        intro later slice s reached
        exact reached.next (.request (.streamRead slice)) rfl
      | writeAll bytes =>
        apply spill_induction (motive := Reaches store channel s) _ channel bytes [] s rest
        intro later bytes s reached
        exact reached.next (.request (.streamWrite bytes)) rfl
      | _ => cases single

theorem run_reaches (store : Store σ) (channel : Channel) (s : σ) (calls : List (Call σ)) :
    ∃ singles : List (Call σ), (∀ call ∈ singles, call.isSingle = true) ∧
      channel.run store s singles = channel.run store s calls := by
  induction calls generalizing channel s with
  | nil => exact ⟨[], by simp, rfl⟩
  | cons call calls induction =>
    obtain ⟨first, firstSingle, firstReached⟩ := perform_reaches channel s call
    obtain ⟨later, laterSingle, laterReached⟩ := induction
      (channel.perform store s call).channel (channel.perform store s call).state
    refine ⟨first ++ later, ?_, ?_⟩
    · simpa only [List.mem_append, or_imp, forall_and] using ⟨firstSingle, laterSingle⟩
    · rw [run_append, firstReached]
      exact laterReached

end Channel

end SharedBytes
