import SharedBytes.Proofs.Cursors
import SharedBytes.Session.Op

/-!
# Buffers that can be reached

A buffer is made empty, with a limit or without, or from some bytes. What its users make of it
afterwards never passes its limit nor the largest position.
-/

namespace SharedBytes

structure Buffer.Sound (buffer : Buffer) : Prop where
  within : ∀ limit, buffer.limit = some limit → buffer.size ≤ limit
  fits : buffer.size ≤ maxPosition

/-- A buffer as its users may leave it, whatever room memory has for each piece of their work. -/
inductive Buffer.Reachable : Buffer → Prop
  | left {ω : Type} {room : Scene ω → Memory} {world : ω} {scene : Scene ω} (origin : Origin)
      (fits : origin.buffer.size ≤ maxPosition)
      (course : Scene.Course room (.ofBuffer origin.buffer world) scene) : Reachable scene.buffer

theorem Scene.sound_lasting : Lasting fun buffer _ => buffer.Sound where
  write buffer history position payload before := by
    constructor
    · intro limit limited
      rw [Buffer.write_limit] at limited
      have within := (withinLimit_lasting limit).write buffer history position payload
        ⟨limited, before.within limit limited⟩
      exact within.2
    · exact fits_lasting.write buffer history position payload before.fits
  append buffer history payload before := by
    constructor
    · intro limit limited
      rw [Buffer.append_limit] at limited
      have within := (withinLimit_lasting limit).append buffer history payload
        ⟨limited, before.within limit limited⟩
      exact within.2
    · exact fits_lasting.append buffer history payload before.fits
  truncate _ _ size before := by
    constructor
    · intro limit limited
      exact Buffer.truncate_size_le (before.within limit limited) size
    · exact Buffer.truncate_size_le before.fits size
  holders _ _ _ before := ⟨before.within, before.fits⟩

theorem Origin.sound (origin : Origin) (fits : origin.buffer.size ≤ maxPosition) :
    origin.buffer.Sound := by
  refine ⟨?_, fits⟩
  intro limit limited
  cases origin with
  | empty | filled _ => cases limited
  | bounded _ => exact Nat.zero_le limit

theorem Buffer.Reachable.sound {buffer : Buffer} (reachable : buffer.Reachable) :
    buffer.Sound := by
  cases reachable with
  | left origin fits course => exact course.keeps Scene.sound_lasting (origin.sound fits)

end SharedBytes
