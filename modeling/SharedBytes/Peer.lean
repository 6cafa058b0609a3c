import SharedBytes.Bytes
import SharedBytes.Failure

/-!
# Peers of a transfer

A transfer moves bytes between a store and a peer: into a sink or out of a source. A peer acts on a
state of its own choosing, which may hold the very buffer that the transfer works on, and it may
report any number, true or not.
-/

namespace SharedBytes

abbrev Action (σ α : Type) := σ → α × σ

/-- Takes bytes from the front of a slice and reports how many, or fails. -/
abbrev Sink (σ : Type) := Bytes → Action σ (Except FailureKind Nat)

structure Supply where
  /-- How many bytes the source says it has put there, or its failure. -/
  report : Except FailureKind Nat
  bytes : Bytes

/-- Puts bytes at the front of a slice and reports how many, or fails. -/
abbrev Source (σ : Type) := Bytes → Action σ Supply

end SharedBytes
