import SharedBytes.Buffer.Transfer

/-!
# Byte stores

A store is what a channel works on: something that can be read, written, cut down and filled by
transfers, as part of a larger state. A buffer is a store. Nothing is asked of a store's answers.
-/

namespace SharedBytes

structure Store (σ : Type) where
  size : Action σ Nat
  /-- Reads at a position into slices: the number of bytes read, or none at the end, and the
  slices as the read leaves them. -/
  read : Nat → List Bytes → Action σ (Except StoreFailure (Option Nat) × List Bytes)
  write : Nat → List Bytes → Action σ (Except StoreFailure Nat)
  append : List Bytes → Action σ (Except StoreFailure Receipt)
  truncate : Nat → Action σ (Except StoreFailure Unit)
  copyOut : Nat → Nat → Sink σ → Action σ (Except StoreFailure Nat)
  copyIn : Source σ → Nat → Nat → Action σ (Outcome StoreFailure Nat)
  copyInAtEnd : Source σ → Nat → Action σ (Outcome StoreFailure Receipt)
  /-- Gives the channel's hold on the store back. -/
  release : σ → σ

def Place.store {σ : Type} (place : Place σ) : Store σ where
  size s := ((place.look s).size, s)
  read position slices s :=
    let reading := (place.look s).read position slices
    ((.ok reading.1, reading.2), s)
  write := place.write
  append := place.append
  truncate size s := (.ok (), place.truncate size s)
  copyOut := place.copyOut
  copyIn := place.copyIn
  copyInAtEnd := place.copyInAtEnd
  release := place.release

end SharedBytes
