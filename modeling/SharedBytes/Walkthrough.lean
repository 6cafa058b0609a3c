import SharedBytes.Channel.Basic
import SharedBytes.Text.Blank
import SharedBytes.Text.Utf8

/-!
# A walk through the library

Lines of text are appended to a buffer through one channel and read back through another that has a
cursor of its own. The input is taken line by line, each without the blanks at its ends, up to the
first blank line. A line that is not text ends the walk.
-/

namespace SharedBytes.Walkthrough

/-- What is at hand on a walk: one buffer, a channel that appends to it, a channel that reads it,
and what was shown so far. The desk and the two channels hold the buffer. -/
structure Desk where
  buffer : Buffer := Buffer.empty.hold.hold
  writer : Channel := .opened { append := true }
  reader : Channel := .opened { read := true }
  shown : Bytes := []

inductive Trouble where
  | notText
  | channel (error : ChannelFailure)
deriving DecidableEq, Repr

def Trouble.message : Trouble → String
  | .notText =>
    "Error: Error \x7b kind: InvalidData, message: \"stream did not contain valid UTF-8\" \x7d\n"
  | .channel error => "Error: " ++ error.inspect ++ "\n"

abbrev WalkM := ExceptT Trouble (StateM Desk)

def lineBytes (text : List Char) : Bytes :=
  Text.Utf8.encode text ++ [0x0a]

def say (line : String) : WalkM Unit :=
  modify fun desk => { desk with shown := desk.shown ++ lineBytes line.toList }

def screen : Sink Desk := fun bytes desk =>
  (.ok bytes.length, { desk with shown := desk.shown ++ bytes })

variable [Memory]

def place : Place Desk :=
  .ofPart Desk.buffer fun buffer desk => { desk with buffer }

def onWriter {α : Type}
    (call : Store Desk → Channel → Desk → Reply Desk (Except ChannelFailure α)) : WalkM α :=
  fun desk =>
    let reply := call place.store desk.writer desk
    (reply.result.mapError .channel, { reply.state with writer := reply.channel })

def onReader {α : Type}
    (call : Store Desk → Channel → Desk → Reply Desk (Except ChannelFailure α)) : WalkM α :=
  fun desk =>
    let reply := call place.store desk.reader desk
    (reply.result.mapError .channel, { reply.state with reader := reply.channel })

omit [Memory] in
/-- The lines of an input. A line feed ends a line, and the last line needs none. -/
def splitLines : Bytes → List Bytes
  | [] => []
  | byte :: rest =>
    if byte = 0x0a then [] :: splitLines rest
    else
      match splitLines rest with
      | [] => [[byte]]
      | line :: lines => (byte :: line) :: lines

/-- Appends the lines of an input to the buffer, up to the first blank one. -/
def enter : List Bytes → WalkM Unit
  | [] => pure ()
  | line :: lines => do
    match Text.Utf8.decode? line with
    | none => throw .notText
    | some text =>
      let entry := Text.trim text
      if entry = [] then pure ()
      else
        let _ ← onWriter fun store channel =>
          channel.write store [Text.Utf8.encode entry, [0x0a]]
        enter lines

def showFirst : WalkM Unit := fun desk =>
  let reply := desk.reader.read place.store [Bytes.zeros 16] desk
  let desk := { reply.state with reader := reply.channel }
  match reply.result with
  | .error error => (.error (.channel error), desk)
  | .ok none => (.ok (), desk)
  | .ok (some count) =>
    let text := Text.quoted (Text.Utf8.decodeLossy (reply.slices.flatten.take count))
    say (s!"First {count} bytes: " ++ text) desk

def walk (input : Bytes) : WalkM Unit := do
  say "Enter text (empty line to quit):"
  enter (splitLines input)
  let position ← onWriter fun _ channel => channel.cursor
  let stored := (← get).buffer.size
  say s!"Writer at position {position}, store holds {stored} bytes"
  onWriter fun store channel => channel.close store
  showFirst
  say "Everything, via transfer_to:"
  let size ← onReader fun store channel => channel.size store
  let _ ← onReader fun store channel => channel.copyOut store 0 size screen
  let lock ← onReader fun _ channel => channel.lock 0 size true
  say ("Holding " ++ lock.inspect)
  onReader fun store channel => channel.close store
  let holders := (← get).buffer.holders
  say s!"Reader closed, buffer still has {holders} handle(s)"

structure Transcript where
  code : Nat
  shown : Bytes
  complaint : String
deriving DecidableEq, Repr

def run (input : Bytes) : Transcript :=
  match (walk input).run.run {} with
  | (.ok (), desk) => { code := 0, shown := desk.shown, complaint := "" }
  | (.error trouble, desk) => { code := 1, shown := desk.shown, complaint := trouble.message }

end SharedBytes.Walkthrough
