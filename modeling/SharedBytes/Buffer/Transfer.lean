import SharedBytes.Buffer.Basic
import SharedBytes.Outcome
import SharedBytes.Peer

/-!
# Transfers between a buffer and a peer

The buffer lies somewhere in a larger state, which the peer may change as well. A transfer goes in
chunks. It looks at the buffer afresh for each chunk and never while the peer is at work, so what a
peer does to the buffer between two chunks shows in the next one.

Going out, each chunk is offered to the sink until it is used up. The transfer ends when the count
is reached, when the buffer has no more, or when the sink takes nothing.

Coming in, one chunk is filled by the source again and again, from the front, and as much of it as
the source reports is stored. A report of more than the slice is believed as long as the chunk holds
that much, so that older bytes of the chunk are stored too; a report of more than the chunk cuts the
transfer short.
-/

namespace SharedBytes

/-- Where in a larger state a buffer lies: how it is looked at, and how it is worked on. Each piece
of work has the buffer to itself. -/
structure Place (σ : Type) where
  look : σ → Buffer
  write : Nat → List Bytes → Action σ (Except StoreFailure Nat)
  append : List Bytes → Action σ (Except StoreFailure Receipt)
  truncate : Nat → σ → σ
  release : σ → σ

def Place.ofPart {σ : Type} [Memory] (get : σ → Buffer) (set : Buffer → σ → σ) : Place σ where
  look := get
  write position payload s :=
    let result := (get s).write position payload
    (result.1, set result.2 s)
  append payload s :=
    let result := (get s).append payload
    (result.1, set result.2 s)
  truncate size s := set ((get s).truncate size) s
  release s := set (get s).release s

def chunkSize : Nat :=
  8192

namespace Transfer

variable {σ ω : Type}

inductive Delivery where
  | complete
  /-- The sink has taken so many bytes and then none. -/
  | stopped (taken : Nat)
  | failed (kind : FailureKind)
deriving DecidableEq, Repr

/-- Offers bytes to a sink until it has taken all of them. A sink that reports more than it was
offered has failed. -/
def offer (sink : Sink σ) (taken : Nat) (pending : Bytes) (s : σ) : Delivery × σ :=
  if pending = [] then (.complete, s)
  else
    match sink pending s with
    | (.error kind, s) => (.failed kind, s)
    | (.ok 0, s) => (.stopped taken, s)
    | (.ok (n + 1), s) =>
      if pending.length < n + 1 then (.failed .invalidData, s)
      else offer sink (taken + (n + 1)) (pending.drop (n + 1)) s
termination_by pending.length
decreasing_by
  simp only [List.length_drop]
  omega

def nextChunk (content : Bytes) (position remaining : Nat) : Bytes :=
  (content.drop position).take (min remaining chunkSize)

theorem length_nextChunk_le (content : Bytes) (position remaining : Nat) :
    (nextChunk content position remaining).length ≤ remaining := by
  simp only [nextChunk, List.length_take]
  omega

def drain (place : Place σ) (sink : Sink σ) (position moved remaining : Nat) (s : σ) :
    Except StoreFailure Nat × σ :=
  let chunk := nextChunk (place.look s).bytes (position + moved) remaining
  if _exhausted : chunk = [] then (.ok moved, s)
  else
    match offer sink 0 chunk s with
    | (.complete, next) =>
      drain place sink position (moved + chunk.length) (remaining - chunk.length) next
    | (.stopped taken, next) => (.ok (moved + taken), next)
    | (.failed kind, next) => (.error (.sink kind), next)
termination_by remaining
decreasing_by
  have nonempty : chunk.length ≠ 0 := fun h => _exhausted (List.length_eq_zero_iff.mp h)
  have bounded := length_nextChunk_le (place.look s).bytes (position + moved) remaining
  simp only [chunk] at nonempty
  omega

def slice (count moved : Nat) (chunk : Bytes) : Bytes :=
  chunk.take (min (count - moved) chunkSize)

def refilled (count moved : Nat) (chunk bytes : Bytes) : Bytes :=
  Bytes.overlay bytes (slice count moved chunk) ++ chunk.drop (min (count - moved) chunkSize)

theorem length_slice (count moved : Nat) (chunk : Bytes) :
    (slice count moved chunk).length = min (min (count - moved) chunkSize) chunk.length := by
  rw [slice, List.length_take]

@[simp] theorem length_refilled (count moved : Nat) (chunk bytes : Bytes) :
    (refilled count moved chunk bytes).length = chunk.length := by
  simp only [refilled, List.length_append, Bytes.length_overlay, length_slice, List.length_drop]
  omega

/-- Fills the chunk from a source and deposits what the source reports, until `count` bytes are
moved or the source has no more. Gives the number of bytes moved and the last deposit's answer. -/
def pump (source : Source σ) (deposit : Nat → Bytes → Action σ (Except StoreFailure ω))
    (count : Nat) (chunk : Bytes) (moved : Nat) (last : Option ω) (s : σ) :
    Outcome StoreFailure (Nat × Option ω) × σ :=
  if moved < count then
    match source (slice count moved chunk) s with
    | (⟨.error kind, _⟩, s) => (.error (.source kind), s)
    | (⟨.ok 0, _⟩, s) => (.ok (moved, last), s)
    | (⟨.ok (n + 1), bytes⟩, s) =>
      if chunk.length < n + 1 then (.aborted, s)
      else
        let chunk := refilled count moved chunk bytes
        match deposit moved (chunk.take (n + 1)) s with
        | (.error error, s) => (.error error, s)
        | (.ok answer, s) => pump source deposit count chunk (moved + (n + 1)) (some answer) s
  else (.ok (moved, last), s)
termination_by count - moved

def freshChunk (count : Nat) : Bytes :=
  Bytes.zeros (min count chunkSize)

@[simp] theorem length_freshChunk (count : Nat) :
    (freshChunk count).length = min count chunkSize := by
  simp [freshChunk]

end Transfer

namespace Place

variable {σ : Type} (place : Place σ)

def copyOut (position count : Nat) (sink : Sink σ) : Action σ (Except StoreFailure Nat) :=
  Transfer.drain place sink position 0 count

/-- Stores up to `count` bytes of a source at a position. From past the end nothing is stored and
the source is not asked. -/
def copyIn (source : Source σ) (position count : Nat) : Action σ (Outcome StoreFailure Nat) :=
  fun s =>
    if (place.look s).size < position then (.ok 0, s)
    else
      let deposit := fun moved bytes => place.write (position + moved) [bytes]
      let (outcome, s) := Transfer.pump source deposit count (Transfer.freshChunk count) 0 none s
      (outcome.map (·.1), s)

/-- Stores up to `count` bytes of a source at the end. The size is that after the last chunk, or the
present one if nothing was stored. -/
def copyInAtEnd (source : Source σ) (count : Nat) : Action σ (Outcome StoreFailure Receipt) :=
  fun s =>
    let deposit := fun _ bytes => place.append [bytes]
    let (outcome, s) := Transfer.pump source deposit count (Transfer.freshChunk count) 0 none s
    let size := (place.look s).size
    (outcome.map fun (moved, last) => ⟨moved, (last.map (·.size)).getD size⟩, s)

end Place

end SharedBytes
