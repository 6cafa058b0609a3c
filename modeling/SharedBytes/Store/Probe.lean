import SharedBytes.Store.Basic

/-!
# Watching and standing in for a store

A probe sits between a channel and its store. It notes each call, and for a call that has a fixed
reply it gives that reply, in which case neither the store nor the peer of a transfer hears of it.
-/

namespace SharedBytes

inductive StoreCall where
  | size
  | read (position : Nat) (lengths : List Nat)
  | write (position : Nat) (lengths : List Nat)
  | append (lengths : List Nat)
  | truncate (size : Nat)
  | copyOut (position count : Nat)
  | copyIn (position count : Nat)
  | copyInAtEnd (count : Nat)
deriving DecidableEq, Repr

namespace StoreCall

def lengthsText (lengths : List Nat) : String :=
  "[" ++ ",".intercalate (lengths.map toString) ++ "]"

def text : StoreCall → String
  | size => "size()"
  | read position lengths =>
    let lengths := lengthsText lengths
    s!"read({position},{lengths})"
  | write position lengths =>
    let lengths := lengthsText lengths
    s!"write({position},{lengths})"
  | append lengths => "append(" ++ lengthsText lengths ++ ")"
  | truncate length => s!"truncate({length})"
  | copyOut position count => s!"transfer_to({position},{count})"
  | copyIn position count => s!"transfer_from({position},{count})"
  | copyInAtEnd count => s!"append_from({count})"

end StoreCall

structure FixedReplies where
  size : Option Nat := none
  read : Option (Except StoreFailure (Option Nat)) := none
  write : Option (Except StoreFailure Nat) := none
  append : Option (Except StoreFailure Receipt) := none
  truncate : Option StoreFailure := none
  copyOut : Option (Except StoreFailure Nat) := none
  copyIn : Option (Except StoreFailure Nat) := none
  copyInAtEnd : Option (Except StoreFailure Receipt) := none

namespace Store

variable {σ : Type}

def noting (note : StoreCall → σ → σ) (store : Store σ) : Store σ where
  size s := store.size (note .size s)
  read position slices s :=
    store.read position slices (note (.read position (slices.map List.length)) s)
  write position payload s :=
    store.write position payload (note (.write position (payload.map List.length)) s)
  append payload s := store.append payload (note (.append (payload.map List.length)) s)
  truncate size s := store.truncate size (note (.truncate size) s)
  copyOut position count sink s :=
    store.copyOut position count sink (note (.copyOut position count) s)
  copyIn source position count s :=
    store.copyIn source position count (note (.copyIn position count) s)
  copyInAtEnd source count s := store.copyInAtEnd source count (note (.copyInAtEnd count) s)
  release := store.release

/-- The store, with fixed replies to some calls. A read with a fixed reply leaves the slices as they
are. -/
def replying (fixed : FixedReplies) (store : Store σ) : Store σ where
  size := match fixed.size with
    | some size => fun s => (size, s)
    | none => store.size
  read position slices := match fixed.read with
    | some reply => fun s => ((reply, slices), s)
    | none => store.read position slices
  write position payload := match fixed.write with
    | some reply => fun s => (reply, s)
    | none => store.write position payload
  append payload := match fixed.append with
    | some reply => fun s => (reply, s)
    | none => store.append payload
  truncate size := match fixed.truncate with
    | some error => fun s => (.error error, s)
    | none => store.truncate size
  copyOut position count sink := match fixed.copyOut with
    | some reply => fun s => (reply, s)
    | none => store.copyOut position count sink
  copyIn source position count := match fixed.copyIn with
    | some reply => fun s => (Outcome.ofExcept reply, s)
    | none => store.copyIn source position count
  copyInAtEnd source count := match fixed.copyInAtEnd with
    | some reply => fun s => (Outcome.ofExcept reply, s)
    | none => store.copyInAtEnd source count
  release := store.release

end Store

end SharedBytes
