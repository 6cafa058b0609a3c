import SharedBytes.Proofs.Transfer.Deposits
import SharedBytes.Proofs.Transfer.Fetches

/-!
# What becomes of what a source gives

A source may work on the buffer while it is called. What it gives is laid in the buffer as the
source has left it: at its own offset in a transfer to a position, at the end in a transfer to the
end. The two kinds of transfer differ in nothing else, so what a whole transfer does is said once,
for any rule by which the offset of a fetch is found.
-/

namespace SharedBytes

variable {σ α ω : Type}

theorem Source.Honest.reported {source : Source σ} (honest : source.Honest) {fetch : Fetch σ}
    (answered : source fetch.slice fetch.before = (fetch.supply, fetch.after))
    (some : fetch.given ≠ []) : fetch.supply.report = .ok fetch.given.length := by
  cases reported : fetch.supply.report with
  | error kind =>
    have nothing : fetch.given = [] := by
      rw [Fetch.given, reported]
      exact List.take_zero
    exact absurd nothing some
  | ok n =>
    have fits : n ≤ fetch.slice.length := honest fetch.slice fetch.before n (by rwa [answered])
    rw [Fetch.given, reported, List.length_take, Bytes.length_overlay]
    exact congrArg Except.ok (Nat.min_eq_left fits).symm

def besideBytes : Place (Buffer × Bytes) :=
  @Place.ofPart _ .standard Prod.fst fun buffer s => (buffer, s.2)

theorem besideBytes_faithful : @Place.Faithful _ .standard besideBytes :=
  @Place.ofPart_faithful _ .standard _ _ fun _ _ => rfl

/-- A source that does some work on the buffer each time it is called, and then gives the next two
of the bytes it has left. -/
def sipping (work : Buffer → Buffer) : Source (Buffer × Bytes) := fun slice (buffer, left) =>
  let taken := left.take (min 2 slice.length)
  (⟨.ok taken.length, taken⟩, work buffer, left.drop taken.length)

theorem sipping_honest (work : Buffer → Buffer) : (sipping work).Honest := by
  rintro slice ⟨buffer, left⟩ n answered
  cases answered
  rw [List.length_take]
  omega

variable [Memory]

structure Laid (place : Place σ) (offset : Nat) (fetch : Fetch σ) (next : σ) : Prop where
  admitted : (place.look fetch.after).Admits (offset + fetch.given.length)
  content : place.look next =
    { place.look fetch.after with
      bytes := (place.look fetch.after).bytes.splice offset fetch.given }

structure Refused (place : Place σ) (offset : Nat) (fetch : Fetch σ) (error : StoreFailure)
    (final : σ) : Prop where
  beyond : ¬ (place.look fetch.after).Admits (offset + fetch.given.length)
  failure : error = (place.look fetch.after).overflow (offset + fetch.given.length)
  same : place.look final = place.look fetch.after

/-- Each deposit lays what was given at its offset, or is refused. The offset goes by the number of
bytes laid before and by what the source has left. -/
structure Lays (place : Place σ) (offset : Nat → Fetch σ → Nat)
    (deposit : Nat → Bytes → Action σ (Except StoreFailure ω)) : Prop where
  laid : ∀ {moved fetch answer next}, fetch.given ≠ [] →
    deposit moved fetch.given fetch.after = (.ok answer, next) →
      Laid place (offset moved fetch) fetch next
  refused : ∀ {moved fetch error final}, fetch.given ≠ [] →
    deposit moved fetch.given fetch.after = (.error error, final) →
      Refused place (offset moved fetch) fetch error final

namespace Place.Faithful

variable {place : Place σ}

theorem writes_lay (faithful : place.Faithful) (position : Nat) :
    Lays place (fun moved _ => position + moved)
      (fun moved bytes => place.write (position + moved) [bytes]) where
  laid {moved fetch _ _} some written := by
    rcases faithful.write_cases (s := fetch.after) some (position + moved) with
      ⟨admitted, _, content⟩ | ⟨_, refused, _⟩
    · rw [written] at content
      exact ⟨admitted, content⟩
    · rw [written] at refused
      cases refused
  refused {moved fetch _ _} some refusal := by
    rcases faithful.write_cases (s := fetch.after) some (position + moved) with
      ⟨_, written, _⟩ | ⟨beyond, failure, same⟩
    · rw [refusal] at written
      cases written
    · rw [refusal] at failure same
      cases failure
      exact ⟨beyond, rfl, same⟩

theorem appends_lay (faithful : place.Faithful) :
    Lays place (fun _ fetch => (place.look fetch.after).size)
      (fun _ bytes => place.append [bytes]) where
  laid {_ fetch _ _} some appended := by
    rcases faithful.append_cases (s := fetch.after) some with
      ⟨admitted, _, content⟩ | ⟨_, refused, _⟩
    · rw [appended, ← Bytes.splice_length] at content
      exact ⟨admitted, content⟩
    · rw [appended] at refused
      cases refused
  refused {_ fetch _ _} some refusal := by
    rcases faithful.append_cases (s := fetch.after) some with
      ⟨_, appended, _⟩ | ⟨beyond, failure, same⟩
    · rw [refusal] at appended
      cases appended
    · rw [refusal] at failure same
      cases failure
      exact ⟨beyond, rfl, same⟩

end Place.Faithful

namespace Transfer

/-- A transfer in which the source works on the buffer between the deposits. It has laid the fetches
`stored`, each whole, has come to the state `mid`, and has ended with the `rest`. -/
structure Interleaved (place : Place σ) (offset : Nat → Fetch σ → Nat) (count : Nat) (s : σ)
    (answer : σ → α) (outcome : Outcome StoreFailure α) (final : σ) (stored rest : List (Fetch σ))
    (mid : σ) : Prop where
  whole : ∀ fetch ∈ stored, fetch.given ≠ []
  reported : ∀ fetch ∈ stored, fetch.supply.report = .ok fetch.given.length
  within : (given stored).length ≤ count
  inTurn : InTurn (fun moved fetch => Laid place (offset moved fetch) fetch) 0 s stored mid
  ends : Ends count (given stored).length mid answer
    (fun fetch => Refused place (offset (given stored).length fetch) fetch) rest outcome final

section

variable {place : Place σ} {source : Source σ} {offset : Nat → Fetch σ → Nat} {count : Nat}
  {s mid final : σ} {stored rest : List (Fetch σ)}

theorem Told.interleaved {deposit : Nat → Bytes → Action σ (Except StoreFailure ω)}
    {outcome : Outcome StoreFailure (Nat × Option ω)} {w : Watched σ (Fetch σ)} {last : Option ω}
    (told : Told source deposit count s outcome w stored rest mid last) (honest : source.Honest)
    (lays : Lays place offset deposit) (f : σ → Nat × Option ω → α) :
    Interleaved place offset count s (fun t => f t ((given stored).length, last))
      (outcome.map (f w.state)) w.state stored rest mid where
  whole := told.intake.whole
  reported fetch member :=
    honest.reported (told.intake.answered fetch member) (told.intake.whole fetch member)
  within := told.intake.within
  inTurn := told.intake.inTurn.imp fun _ fetch member _ ⟨_, stored⟩ =>
    lays.laid (told.intake.whole fetch member) stored
  ends := (told.ends.map f).imp fun _ _ some _ _ _ refusal => lays.refused some refusal

/-- The buffer is in the end as the last deposit has left it, or the call after that. -/
theorem Interleaved.look_final {answer : σ → α} {outcome : Outcome StoreFailure α}
    (interleaved : Interleaved place offset count s answer outcome final stored rest mid) :
    place.look final = place.look mid ∨
      ∃ fetch ∈ rest, fetch.before = mid ∧ place.look final = place.look fetch.after := by
  cases interleaved.ends with
  | full reached => exact .inl rfl
  | dry fetch more next nothing => exact .inr ⟨fetch, List.mem_singleton.mpr rfl, next, rfl⟩
  | failed fetch kind more next failed =>
    exact .inr ⟨fetch, List.mem_singleton.mpr rfl, next, rfl⟩
  | refused fetch error final more next some refused =>
    exact .inr ⟨fetch, List.mem_singleton.mpr rfl, next, refused.same⟩

end

end Transfer

end SharedBytes
