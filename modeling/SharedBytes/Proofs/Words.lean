import SharedBytes.Proofs.Checked.Transfers

/-!
# Words of 64 bits are enough

Wherever its users have brought a buffer to, work on it needs no number that is larger than a word
or negative, and no byte that is not there. Gone through step by step, each step checked, the work
comes to what it comes to unchecked. This holds of work that no channel has looked at before: its
position and its count may be any words. The peer of a transfer may change the buffer between two
chunks, a sink may report any number, but a source has to be honest.
-/

namespace SharedBytes.Scene

variable {ω : Type} {room : Scene ω → Memory} {s t : Scene ω}

def Held (s : Scene ω) : Prop :=
  s.buffer.size ≤ maxPosition

theorem Course.held (course : Course room s t) (before : s.Held) : t.Held :=
  course.keeps fits_lasting before

theorem place_fitting : Checked.Fitting (place room) room Held where
  work := place_keeps fits_lasting
  fits _ held := held
  answers _ _ _ := rfl

/-- Of a sink no more is asked than that memory still holds the content afterwards, whatever else
was done to it; users of the buffer can do nothing against that. A source has to be honest besides. -/
theorem words_suffice {buffer : Buffer} {world : ω} (fits : buffer.size ≤ maxPosition)
    (course : Course room (ofBuffer buffer world) s) :
    (∀ position slices,
      Checked.read s.buffer position slices = some (s.buffer.read position slices)) ∧
    (∀ [Memory] position (payload : List Bytes), payload.flatten.length ≤ maxWord →
      Checked.write s.buffer position payload = some (s.buffer.write position payload) ∧
        Checked.append s.buffer payload = some (s.buffer.append payload)) ∧
    ∀ position count, position ≤ maxWord → count ≤ maxWord →
      (∀ sink, Sink.Keeps Held sink →
        Checked.copyOut (place room) position count sink s =
          some ((place room).copyOut position count sink s)) ∧
      ∀ source, source.Honest → Source.Keeps Held source →
        (∃ answer next,
          Checked.copyIn (place room) room source position count s = some (answer, next) ∧
            (place room).copyIn source position count s = (.ofExcept answer, next)) ∧
        ∃ answer next,
          Checked.copyInAtEnd (place room) room source count s = some (answer, next) ∧
            (place room).copyInAtEnd source count s = (.ofExcept answer, next) := by
  have held : s.Held := course.held fits
  refine ⟨?_, ?_, ?_⟩
  · intro position slices
    exact Checked.read_eq held position slices
  · intro _ position payload words
    exact ⟨Checked.write_eq held position words, Checked.append_eq held words⟩
  · intro position count start words
    constructor
    · intro sink peer
      exact Checked.copyOut_eq place_fitting peer start words held
    · intro source honest peer
      exact ⟨Checked.copyIn_eq place_fitting honest peer position words held,
        Checked.copyInAtEnd_eq place_fitting honest peer words held⟩

def cutBack : Scene Unit :=
  let store := (place fun _ => Memory.standard).store
  (store.truncate 4 (store.append [[1, 2, 3], [4, 5]] (ofBuffer (.bounded 6) ())).2).2

def cuttingSink : Sink (Scene Unit) := fun offered s =>
  (.ok (offered.length + 1), ((place fun _ => Memory.standard).store.truncate 1 s).2)

def cuttingSource : Source (Scene Unit) := fun slice s =>
  (⟨.ok (min slice.length 2), [7, 7]⟩, ((place fun _ => Memory.standard).store.truncate 1 s).2)

theorem cuttingSource_honest : cuttingSource.Honest := by
  intro slice s n answered
  cases answered
  exact Nat.min_le_left _ _

/-- The write is at the largest word, and the sink could have as many bytes. The copy into the buffer
is refused in its second round, and the append goes on with what is left after each cut. -/
theorem cutBack_words_suffice :
    let room := fun _ : Scene Unit => Memory.standard
    Course room (ofBuffer (.bounded 6) ()) cutBack ∧
      Sink.Keeps Held cuttingSink ∧ cuttingSource.Honest ∧ Source.Keeps Held cuttingSource ∧
      Checked.read cutBack.buffer 1 [[0, 0], [0, 0]] = some (some 3, [[2, 3], [4, 0]]) ∧
      @Checked.write .standard cutBack.buffer maxWord [[9]] =
        some (.error (.capacityExceeded 6 maxWord), cutBack.buffer) ∧
      (Checked.copyOut (place room) 2 maxWord cuttingSink cutBack).map Prod.fst =
        some (.error (.sink .invalidData)) ∧
      (Checked.copyIn (place room) room cuttingSource 4 20 cutBack).map Prod.fst =
        some (.error (.capacityExceeded 6 8)) ∧
      (Checked.copyInAtEnd (place room) room cuttingSource 5 cutBack).map Prod.fst =
        some (.ok ⟨5, 2⟩) := by
  intro room
  have course : Course room (ofBuffer (.bounded 6) ()) cutBack :=
    .andThen (.append _ _) (.truncate _ _)
  have sink : Sink.Keeps Held cuttingSink := by
    intro offered s before
    have cut : Course room s (cuttingSink offered s).2 := .truncate s 1
    exact cut.held before
  have source : Source.Keeps Held cuttingSource := by
    intro slice s before
    have cut : Course room s (cuttingSource slice s).2 := .truncate s 1
    exact cut.held before
  obtain ⟨reads, stores, transfers⟩ := words_suffice (by decide) course
  refine ⟨course, sink, cuttingSource_honest, source, reads 1 [[0, 0], [0, 0]],
    (@stores .standard maxWord [[9]] (by decide)).1, ?_, ?_, ?_⟩
  · rw [(transfers 2 maxWord (by decide) (by decide)).1 cuttingSink sink]
    decide +kernel
  · obtain ⟨answer, next, goes, same⟩ :=
      ((transfers 4 20 (by decide) (by decide)).2 cuttingSource cuttingSource_honest source).1
    have refused : ((place room).copyIn cuttingSource 4 20 cutBack).1 =
        .error (.capacityExceeded 6 8) := by
      decide +kernel
    rw [same] at refused
    rw [goes]
    cases answer <;> cases refused
    rfl
  · obtain ⟨answer, next, goes, same⟩ :=
      ((transfers 0 5 (by decide) (by decide)).2 cuttingSource cuttingSource_honest source).2
    have stored : ((place room).copyInAtEnd cuttingSource 5 cutBack).1 = .ok ⟨5, 2⟩ := by
      decide +kernel
    rw [same] at stored
    rw [goes]
    cases answer <;> cases stored
    rfl

end SharedBytes.Scene
