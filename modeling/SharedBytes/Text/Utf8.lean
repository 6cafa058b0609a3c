import SharedBytes.Bytes

/-!
# Reading bytes as text

A byte sequence is read as a run of pieces: the characters it encodes, and the places where it
breaks off. A broken place takes the longest run of bytes that could have started a character, and
at least one byte. A strict reader refuses a sequence with a broken place; a lenient one shows the
replacement character there.
-/

namespace SharedBytes.Text.Utf8

inductive Piece where
  | char (c : Char)
  | broken
deriving DecidableEq, Repr

def Piece.char? : Piece → Option Char
  | .char c => some c
  | .broken => none

/-- What a first byte of `0x80` or more announces: how many bytes follow, the bounds of the next
one, and the leading bits of the code point. -/
structure Lead where
  more : Nat
  low : Nat
  high : Nat
  bits : Nat

/-- The announcement of a first byte, or none for a byte that starts no character. The bounds leave
out longer spellings of a shorter character, surrogates, and code points beyond the last one. -/
def Lead.ofByte? (byte : UInt8) : Option Lead :=
  let b := byte.toNat
  if b < 0xc2 then none
  else if b < 0xe0 then some ⟨1, 0x80, 0xbf, b - 0xc0⟩
  else if b = 0xe0 then some ⟨2, 0xa0, 0xbf, 0⟩
  else if b = 0xed then some ⟨2, 0x80, 0x9f, b - 0xe0⟩
  else if b < 0xf0 then some ⟨2, 0x80, 0xbf, b - 0xe0⟩
  else if b = 0xf0 then some ⟨3, 0x90, 0xbf, 0⟩
  else if b < 0xf4 then some ⟨3, 0x80, 0xbf, b - 0xf0⟩
  else if b = 0xf4 then some ⟨3, 0x80, 0x8f, 4⟩
  else none

/-- Reads the bytes that follow a first byte. The first that is out of bounds stays unread. -/
def follow : (more low high bits : Nat) → Bytes → Piece × Bytes
  | 0, _, _, bits, rest => (.char (Char.ofNat bits), rest)
  | _ + 1, _, _, _, [] => (.broken, [])
  | more + 1, low, high, bits, byte :: rest =>
    if low ≤ byte.toNat ∧ byte.toNat ≤ high then
      follow more 0x80 0xbf (bits * 64 + byte.toNat % 64) rest
    else
      (.broken, byte :: rest)

def piece (byte : UInt8) (rest : Bytes) : Piece × Bytes :=
  if byte.toNat < 0x80 then (.char (Char.ofNat byte.toNat), rest)
  else
    match Lead.ofByte? byte with
    | none => (.broken, rest)
    | some lead => follow lead.more lead.low lead.high lead.bits rest

theorem length_follow_le (more low high bits : Nat) (rest : Bytes) :
    (follow more low high bits rest).2.length ≤ rest.length := by
  induction more generalizing low high bits rest with
  | zero => simp [follow]
  | succ more ih =>
    cases rest with
    | nil => simp [follow]
    | cons byte rest =>
      simp only [follow]
      split
      · exact Nat.le_succ_of_le (ih ..)
      · simp

theorem length_piece_le (byte : UInt8) (rest : Bytes) :
    (piece byte rest).2.length ≤ rest.length := by
  simp only [piece]
  split
  · simp
  · split
    · simp
    · exact length_follow_le ..

def pieces : Bytes → List Piece
  | [] => []
  | byte :: rest => (piece byte rest).1 :: pieces (piece byte rest).2
termination_by bytes => bytes.length
decreasing_by
  have := length_piece_le byte rest
  simp only [List.length_cons]
  omega

def decode? (bytes : Bytes) : Option (List Char) :=
  (pieces bytes).mapM Piece.char?

def decodeLossy (bytes : Bytes) : List Char :=
  (pieces bytes).map fun piece => piece.char?.getD '\ufffd'

def encode (text : List Char) : Bytes :=
  text.flatMap String.utf8EncodeChar

end SharedBytes.Text.Utf8
