/-!
# What a channel may do

A channel is opened with a set of capabilities that never changes. Appending implies writing: a
channel opened for append is writable, and each write goes to the end of the store.
-/

namespace SharedBytes

inductive Capability where
  | read
  | write
  | append
deriving DecidableEq, Repr

/-- The capabilities that were asked for, and not those that they imply. -/
structure Capabilities where
  read : Bool := false
  write : Bool := false
  append : Bool := false
deriving DecidableEq, Repr

namespace Capabilities

def set (capabilities : Capabilities) (capability : Capability) (asked : Bool) : Capabilities :=
  match capability with
  | .read => { capabilities with read := asked }
  | .write => { capabilities with write := asked }
  | .append => { capabilities with append := asked }

def change (capabilities : Capabilities) (changes : List (Capability × Bool)) : Capabilities :=
  changes.foldl (fun capabilities change => capabilities.set change.1 change.2) capabilities

/-- Asks for each capability of a list. Order and repetition do not matter. -/
def ofList (wanted : List Capability) : Capabilities :=
  wanted.foldl (fun capabilities capability => capabilities.set capability true) {}

def isReadable (capabilities : Capabilities) : Bool :=
  capabilities.read

def isWritable (capabilities : Capabilities) : Bool :=
  capabilities.write || capabilities.append

def isAppending (capabilities : Capabilities) : Bool :=
  capabilities.append

def contains (capabilities : Capabilities) : Capability → Bool
  | .read => capabilities.isReadable
  | .write => capabilities.isWritable
  | .append => capabilities.isAppending

def inspect (capabilities : Capabilities) : String :=
  "OpenOptions \x7b read: " ++ toString capabilities.read
    ++ ", write: " ++ toString capabilities.write
    ++ ", append: " ++ toString capabilities.append ++ " \x7d"

end Capabilities

inductive Requirement where
  | justOpen
  | readable
  | writable
deriving DecidableEq, Repr

/-- How a region would be mapped, if a store in memory could be mapped. -/
inductive Mapping where
  | readOnly
  | readWrite
  | copyOnWrite
deriving DecidableEq, Repr

def Mapping.name : Mapping → String
  | .readOnly => "ReadOnly"
  | .readWrite => "ReadWrite"
  | .copyOnWrite => "Private"

end SharedBytes
