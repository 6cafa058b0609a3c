import SharedBytes.Capability
import SharedBytes.RangeLock
import SharedBytes.Text.Number

/-!
# What is recorded of a run

Channels and locks record what they have done. Each record has a level and a text.
-/

namespace SharedBytes

inductive Level where
  | trace
  | debug
  | warn
deriving DecidableEq, Repr

def Level.name : Level → String
  | .trace => "TRACE"
  | .debug => "DEBUG"
  | .warn => "WARN"

/-- A record. A `cursor` is the channel's position afterwards. -/
inductive Event where
  | read (count : Option Nat) (cursor : Nat)
  | wrote (count cursor : Nat)
  | appended (count cursor : Nat)
  | appendedFromSource (count cursor : Nat)
  | flushed (metadata : Bool)
  | mapRefused (mode : Mapping) (position size : Nat)
  | closed (cursor : Nat)
  | closedAgain
  | droppedOpen (cursor : Nat)
  | released (lock : RangeLock)
deriving DecidableEq, Repr

namespace Event

def level : Event → Level
  | read .. | wrote .. | appended .. | flushed _ | released _ => .trace
  | appendedFromSource .. | mapRefused .. | closed _ | droppedOpen _ => .debug
  | closedAgain => .warn

def message : Event → String
  | read count cursor =>
    let count := Text.optional count
    s!"read {count} bytes, position now {cursor}"
  | wrote count cursor => s!"wrote {count} bytes, position now {cursor}"
  | appended count cursor => s!"appended {count} bytes, position now {cursor}"
  | appendedFromSource count cursor =>
    s!"appended {count} bytes from source, position now {cursor}"
  | flushed metadata => s!"flush(metadata={metadata}) is a no-op"
  | mapRefused mode position size =>
    s!"refusing to map {size} bytes at {position} (" ++ mode.name ++ ")"
  | closed cursor => s!"channel closed at position {cursor}"
  | closedAgain => "Channel::close() called on already closed channel"
  | droppedOpen cursor => s!"channel dropped without close() at position {cursor}"
  | released lock => "released " ++ lock.inspect

def line (event : Event) : String :=
  event.level.name ++ " " ++ event.message

end Event

end SharedBytes
