import SharedBytes.Walkthrough

/-!
# Command line

Reads text from standard input and shows a walk through the library.
-/

namespace SharedBytes

partial def readBytes (input : IO.FS.Stream) (read : ByteArray) : IO ByteArray := do
  let piece ← input.read 4096
  if piece.isEmpty then return read
  readBytes input (read ++ piece)

end SharedBytes

def main : IO UInt32 := do
  let input ← SharedBytes.readBytes (← IO.getStdin) .empty
  let transcript := @SharedBytes.Walkthrough.run .standard input.toList
  (← IO.getStdout).write ⟨transcript.shown.toArray⟩
  (← IO.getStderr).putStr transcript.complaint
  return transcript.code.toUInt32
