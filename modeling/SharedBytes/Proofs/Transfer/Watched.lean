import SharedBytes.Proofs.Transfer.Alike

/-!
# Transfers that are watched

Beside the state of a transfer a list is kept of the calls that its peer has received, each with the
state before it and the state after it. The transfer and the peer know nothing of the list. What
happens between two calls is what the transfer itself does.
-/

namespace SharedBytes

variable {σ ν : Type}

structure Watched (σ ν : Type) where
  state : σ
  seen : List ν := []

structure Offer (σ : Type) where
  before : σ
  offered : Bytes
  answer : Except FailureKind Nat
  after : σ

structure Fetch (σ : Type) where
  before : σ
  slice : Bytes
  supply : Supply
  after : σ

def Sink.watched (sink : Sink σ) : Sink (Watched σ (Offer σ)) := fun offered w =>
  let result := sink offered w.state
  (result.1, ⟨result.2, w.seen ++ [⟨w.state, offered, result.1, result.2⟩]⟩)

def Source.watched (source : Source σ) : Source (Watched σ (Fetch σ)) := fun slice w =>
  let result := source slice w.state
  (result.1, ⟨result.2, w.seen ++ [⟨w.state, slice, result.1, result.2⟩]⟩)

def Action.unseen {α : Type} (action : Action σ α) : Action (Watched σ ν) α := fun w =>
  let result := action w.state
  (result.1, { w with state := result.2 })

theorem Action.unseen_eq {α : Type} {action : Action σ α} {w final : Watched σ ν} {answer : α}
    (done : action.unseen w = (answer, final)) :
    action w.state = (answer, final.state) ∧ final.seen = w.seen := by
  cases done
  exact ⟨rfl, rfl⟩

def Place.watched (place : Place σ) : Place (Watched σ ν) where
  look w := place.look w.state
  write position payload := (place.write position payload).unseen
  append payload := (place.append payload).unseen
  truncate size w := { w with state := place.truncate size w.state }
  release w := { w with state := place.release w.state }

namespace Place

variable (place : Place σ) (source : Source σ)

theorem copyOut_watched (sink : Sink σ) (position count : Nat) (s : σ) :
    let run := place.watched.copyOut position count sink.watched { state := s }
    (run.1, run.2.state) = place.copyOut position count sink s := by
  have alike : Action.Alike (fun w s => w.state = s)
      (place.watched.copyOut position count sink.watched) (place.copyOut position count sink) := by
    apply copyOut_alike
    · intro w s same
      exact congrArg (fun s => (place.look s).bytes) same
    · intro offered w s same
      subst same
      exact ⟨rfl, rfl⟩
  obtain ⟨answer, state⟩ := alike { state := s } s rfl
  exact Prod.ext answer state

theorem copyIn_watched_alike (position count : Nat) :
    Action.Alike (fun w s => w.state = s)
      (place.watched.copyIn source.watched position count)
      (place.copyIn source position count) := by
  apply copyIn_alike
  · intro w s same
    exact congrArg (fun s => (place.look s).size) same
  · intro position payload w s same
    subst same
    exact ⟨rfl, rfl⟩
  · intro slice w s same
    subst same
    exact ⟨rfl, rfl⟩

theorem copyIn_watched (position count : Nat) (s : σ) :
    let run := place.watched.copyIn source.watched position count { state := s }
    (run.1, run.2.state) = place.copyIn source position count s := by
  obtain ⟨answer, state⟩ := place.copyIn_watched_alike source position count { state := s } s rfl
  exact Prod.ext answer state

theorem copyInAtEnd_watched_alike (count : Nat) :
    Action.Alike (fun w s => w.state = s) (place.watched.copyInAtEnd source.watched count)
      (place.copyInAtEnd source count) := by
  apply copyInAtEnd_alike
  · intro w s same
    exact congrArg (fun s => (place.look s).size) same
  · intro payload w s same
    subst same
    exact ⟨rfl, rfl⟩
  · intro slice w s same
    subst same
    exact ⟨rfl, rfl⟩

theorem copyInAtEnd_watched (count : Nat) (s : σ) :
    let run := place.watched.copyInAtEnd source.watched count { state := s }
    (run.1, run.2.state) = place.copyInAtEnd source count s := by
  obtain ⟨answer, state⟩ := place.copyInAtEnd_watched_alike source count { state := s } s rfl
  exact Prod.ext answer state

end Place

namespace Transfer

/-- What holds of each call, given the calls before it, holds of one more call. -/
theorem forall_getElem?_concat {P : List ν → ν → Prop} {seen : List ν} {last : ν}
    (earlier : ∀ i call, seen[i]? = some call → P (seen.take i) call) (now : P seen last) :
    ∀ i call, (seen ++ [last])[i]? = some call → P ((seen ++ [last]).take i) call := by
  intro i call found
  rcases Nat.lt_trichotomy i seen.length with before | rfl | beyond
  · rw [List.getElem?_append_left before] at found
    rw [List.take_append_of_le_length (Nat.le_of_lt before)]
    exact earlier i call found
  · rw [List.getElem?_concat_length] at found
    rw [List.take_left, ← Option.some.inj found]
    exact now
  · have outside : (seen ++ [last]).length ≤ i := by
      rw [List.length_append, List.length_singleton]
      omega
    rw [List.getElem?_eq_none outside] at found
    cases found

end Transfer

end SharedBytes
