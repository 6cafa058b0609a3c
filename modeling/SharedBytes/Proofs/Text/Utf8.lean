import Mathlib.Algebra.Group.Nat.Defs
import SharedBytes.Text.Utf8

/-!
# Bytes and the text they encode

The strict reader finds a text in just those bytes that encode one, and finds that text. The lenient
reader, given the front of an encoded text, finds the characters that lie in it whole and, if the
front ends within a character, one broken place.

A character of more than one byte has a first byte, which announces it, and trailing bytes that hold
six bits of its code point each.
-/

namespace SharedBytes.Text.Utf8

/-- The trailing bytes that hold the last `6 * more` bits of a code point. -/
def trail : (more code : Nat) → Bytes
  | 0, _ => []
  | more + 1, code => UInt8.ofNat (code / 64 ^ more % 64 + 0x80) :: trail more code

theorem length_trail (more code : Nat) : (trail more code).length = more := by
  induction more with
  | zero => rfl
  | succ more induction => rw [trail, List.length_cons, induction]

/-- The next trailing byte lies within the bounds that were announced for it. -/
def Within (low high : Nat) : (more code : Nat) → Prop
  | 0, _ => True
  | more + 1, code => low ≤ code / 64 ^ more % 64 + 0x80 ∧ code / 64 ^ more % 64 + 0x80 ≤ high

theorem within_any (more code : Nat) : Within 0x80 0xbf more code := by
  cases more with
  | zero => trivial
  | succ more =>
    unfold Within
    omega

theorem toNat_trailing (code : Nat) :
    (UInt8.ofNat (code % 64 + 0x80)).toNat = code % 64 + 0x80 := by
  rw [UInt8.toNat_ofNat']
  omega

theorem bits_succ (code more : Nat) :
    code / 64 ^ (more + 1) * 64 + (code / 64 ^ more % 64 + 0x80) % 64 = code / 64 ^ more := by
  rw [Nat.pow_succ, ← Nat.div_div_eq_div_mul]
  omega

/-- By induction over the trailing bytes: what was read of the code point are its leading bits. -/
theorem follow_trail {low high more code : Nat} (within : Within low high more code)
    (rest : Bytes) :
    follow more low high (code / 64 ^ more) (trail more code ++ rest) =
      (.char (Char.ofNat code), rest) := by
  induction more generalizing low high with
  | zero => simp [follow, trail]
  | succ more induction =>
    rw [trail, List.cons_append, follow, toNat_trailing, bits_succ]
    unfold Within at within
    rw [if_pos within]
    exact induction (within_any more code)

theorem follow_cut {low high more code kept : Nat} (within : Within low high more code)
    (cut : kept < more) :
    follow more low high (code / 64 ^ more) ((trail more code).take kept) = (.broken, []) := by
  induction more generalizing low high kept with
  | zero => cases cut
  | succ more induction =>
    cases kept with
    | zero => rfl
    | succ kept =>
      rw [trail, List.take_succ_cons, follow, toNat_trailing, bits_succ]
      unfold Within at within
      rw [if_pos within]
      exact induction (within_any more code) (Nat.lt_of_succ_lt_succ cut)

/-- By induction over the bytes that follow: each gives its six bits. -/
theorem trail_of_follow {low high more bits : Nat} {rest left : Bytes} {c : Char}
    (least : 0x80 ≤ low) (most : high ≤ 0xbf)
    (followed : follow more low high bits rest = (.char c, left)) :
    ∃ code, c = Char.ofNat code ∧ rest = trail more code ++ left ∧ code / 64 ^ more = bits ∧
      Within low high more code := by
  induction more generalizing low high bits rest with
  | zero =>
    simp only [follow, Prod.mk.injEq, Piece.char.injEq] at followed
    exact ⟨bits, followed.1.symm, followed.2, Nat.div_one bits, trivial⟩
  | succ more induction =>
    cases rest with
    | nil => simp [follow] at followed
    | cons byte rest =>
      rw [follow] at followed
      by_cases bounded : low ≤ byte.toNat ∧ byte.toNat ≤ high
      · rw [if_pos bounded] at followed
        obtain ⟨code, char, same, rests, -⟩ := induction (Nat.le_refl _) (Nat.le_refl _) followed
        have lower : code / 64 ^ more % 64 + 0x80 = byte.toNat := by omega
        refine ⟨code, char, ?_, ?_, ?_⟩
        · rw [trail, lower, UInt8.ofNat_toNat, same, List.cons_append]
        · rw [Nat.pow_succ, ← Nat.div_div_eq_div_mul, rests]
          omega
        · rw [Within, lower]
          exact bounded
      · rw [if_neg bounded] at followed
        simp at followed

structure Lead.Announces (lead : Lead) (code : Nat) : Prop where
  bits : code / 64 ^ lead.more = lead.bits
  within : Within lead.low lead.high lead.more code

section

variable {c : Char} {code : Nat} {byte : UInt8} {lead : Lead}

theorem lead_cases (found : Lead.ofByte? byte = some lead) :
    (0xc2 ≤ byte.toNat ∧ byte.toNat < 0xe0 ∧ lead = ⟨1, 0x80, 0xbf, byte.toNat - 0xc0⟩) ∨
      (byte.toNat = 0xe0 ∧ lead = ⟨2, 0xa0, 0xbf, 0⟩) ∨
      (byte.toNat = 0xed ∧ lead = ⟨2, 0x80, 0x9f, byte.toNat - 0xe0⟩) ∨
      (0xe1 ≤ byte.toNat ∧ byte.toNat < 0xf0 ∧ byte.toNat ≠ 0xed ∧
        lead = ⟨2, 0x80, 0xbf, byte.toNat - 0xe0⟩) ∨
      (byte.toNat = 0xf0 ∧ lead = ⟨3, 0x90, 0xbf, 0⟩) ∨
      (0xf1 ≤ byte.toNat ∧ byte.toNat < 0xf4 ∧ lead = ⟨3, 0x80, 0xbf, byte.toNat - 0xf0⟩) ∨
      (byte.toNat = 0xf4 ∧ lead = ⟨3, 0x80, 0x8f, 4⟩) := by
  unfold Lead.ofByte? at found
  grind

theorem exists_lead (least : 0xc2 ≤ byte.toNat) (most : byte.toNat ≤ 0xf4) :
    ∃ lead, Lead.ofByte? byte = some lead := by
  apply Option.isSome_iff_exists.mp
  unfold Lead.ofByte?
  grind

theorem toNat_ofNat (valid : code.isValidChar) : (Char.ofNat code).val.toNat = code := by
  unfold Char.ofNat
  rw [dif_pos valid]
  rfl

theorem encode_two (least : 0x80 ≤ code) (most : code ≤ 0x7ff)
    (first : code / 64 + 0xc0 = byte.toNat) :
    String.utf8EncodeChar (Char.ofNat code) = byte :: trail 1 code := by
  have valid : code.isValidChar := .inl (by omega)
  have longer : ¬ code ≤ 0x7f := by omega
  have head : UInt8.ofNat (code / 64 % 32 + 0xc0) = byte := by
    rw [← UInt8.toNat_inj, UInt8.toNat_ofNat', ← first]
    omega
  simp only [String.utf8EncodeChar, toNat_ofNat valid, if_neg longer, if_pos most, head, trail,
    Nat.pow_zero, Nat.div_one]

theorem encode_three (valid : code.isValidChar) (least : 0x800 ≤ code) (most : code ≤ 0xffff)
    (first : code / 4096 + 0xe0 = byte.toNat) :
    String.utf8EncodeChar (Char.ofNat code) = byte :: trail 2 code := by
  have longer : ¬ code ≤ 0x7f := by omega
  have longer' : ¬ code ≤ 0x7ff := by omega
  have head : UInt8.ofNat (code / 4096 % 16 + 0xe0) = byte := by
    rw [← UInt8.toNat_inj, UInt8.toNat_ofNat', ← first]
    omega
  simp only [String.utf8EncodeChar, toNat_ofNat valid, if_neg longer, if_neg longer', if_pos most,
    head, trail, Nat.pow_zero, Nat.pow_one, Nat.div_one]

theorem encode_four (least : 0x10000 ≤ code) (most : code ≤ 0x10ffff)
    (first : code / 262144 + 0xf0 = byte.toNat) :
    String.utf8EncodeChar (Char.ofNat code) = byte :: trail 3 code := by
  have valid : code.isValidChar := .inr (by omega)
  have longer : ¬ code ≤ 0x7f := by omega
  have longer' : ¬ code ≤ 0x7ff := by omega
  have longest : ¬ code ≤ 0xffff := by omega
  have square : 64 ^ 2 = 4096 := rfl
  have head : UInt8.ofNat (code / 262144 % 8 + 0xf0) = byte := by
    rw [← UInt8.toNat_inj, UInt8.toNat_ofNat', ← first]
    omega
  simp only [String.utf8EncodeChar, toNat_ofNat valid, if_neg longer, if_neg longer',
    if_neg longest, head, trail, square, Nat.pow_zero, Nat.pow_one, Nat.div_one]

/-- A code point that no announcement rules out is that of a character, which is encoded as
announced. -/
theorem encode_of_lead (found : Lead.ofByte? byte = some lead) (announced : lead.Announces code) :
    String.utf8EncodeChar (Char.ofNat code) = byte :: trail lead.more code := by
  obtain ⟨bits, within⟩ := announced
  rcases lead_cases found with ⟨least, most, rfl⟩ | ⟨first, rfl⟩ | ⟨first, rfl⟩ |
    ⟨least, most, other, rfl⟩ | ⟨first, rfl⟩ | ⟨least, most, rfl⟩ | ⟨first, rfl⟩ <;>
    simp only [Within, Nat.pow_zero, Nat.pow_one, Nat.div_one, Nat.reducePow] at bits within
  · exact encode_two (by omega) (by omega) (by omega)
  · exact encode_three (.inl (by omega)) (by omega) (by omega) (by omega)
  · exact encode_three (.inl (by omega)) (by omega) (by omega) (by omega)
  · rcases Nat.lt_or_gt_of_ne other with lower | higher
    · exact encode_three (.inl (by omega)) (by omega) (by omega) (by omega)
    · exact encode_three (.inr (by omega)) (by omega) (by omega) (by omega)
  · exact encode_four (by omega) (by omega) (by omega)
  · exact encode_four (by omega) (by omega) (by omega)
  · exact encode_four (by omega) (by omega) (by omega)

def firstByte (code : Nat) : Nat :=
  if code ≤ 0x7ff then code / 64 + 0xc0
  else if code ≤ 0xffff then code / 4096 + 0xe0
  else code / 262144 + 0xf0

theorem announces_of_first (valid : code.isValidChar) (long : 0x80 ≤ code)
    (first : byte.toNat = firstByte code) (found : Lead.ofByte? byte = some lead) :
    lead.Announces code := by
  unfold Nat.isValidChar at valid
  unfold firstByte at first
  by_cases two : code ≤ 0x7ff
  · rw [if_pos two] at first
    rcases lead_cases found with ⟨_, _, rfl⟩ | ⟨_, _⟩ | ⟨_, _⟩ | ⟨_, _, _, _⟩ | ⟨_, _⟩ |
      ⟨_, _, _⟩ | ⟨_, _⟩ <;> try omega
    constructor <;> simp only [Within, Nat.pow_zero, Nat.pow_one, Nat.div_one] <;> omega
  · by_cases three : code ≤ 0xffff
    · rw [if_neg two, if_pos three] at first
      rcases lead_cases found with ⟨_, _, _⟩ | ⟨_, rfl⟩ | ⟨_, rfl⟩ | ⟨_, _, _, rfl⟩ | ⟨_, _⟩ |
        ⟨_, _, _⟩ | ⟨_, _⟩ <;> try omega
      all_goals
        constructor <;> simp only [Within, Nat.reducePow, Nat.pow_one] <;> omega
    · rw [if_neg two, if_neg three] at first
      rcases lead_cases found with ⟨_, _, _⟩ | ⟨_, _⟩ | ⟨_, _⟩ | ⟨_, _, _, _⟩ | ⟨_, rfl⟩ |
        ⟨_, _, rfl⟩ | ⟨_, rfl⟩ <;> try omega
      all_goals
        constructor <;> simp only [Within, Nat.reducePow] <;> omega

/-- A character of more than one byte has a first byte that announces its code point. -/
theorem lead_of_char (long : 0x80 ≤ c.toNat) :
    ∃ byte lead, 0x80 ≤ byte.toNat ∧ Lead.ofByte? byte = some lead ∧ lead.Announces c.toNat := by
  have valid : c.toNat.isValidChar := c.valid
  have bounds : 0xc2 ≤ firstByte c.toNat ∧ firstByte c.toNat ≤ 0xf4 := by
    unfold Nat.isValidChar at valid
    unfold firstByte
    grind
  have same : (UInt8.ofNat (firstByte c.toNat)).toNat = firstByte c.toNat := by
    rw [UInt8.toNat_ofNat']
    omega
  have least : 0xc2 ≤ (UInt8.ofNat (firstByte c.toNat)).toNat := by omega
  have most : (UInt8.ofNat (firstByte c.toNat)).toNat ≤ 0xf4 := by omega
  obtain ⟨lead, found⟩ := exists_lead least most
  exact ⟨_, lead, by omega, found, announces_of_first valid long same found⟩

theorem encode_one (short : c.toNat < 0x80) : String.utf8EncodeChar c = [UInt8.ofNat c.toNat] := by
  have most : c.val.toNat ≤ 0x7f := Nat.le_of_lt_succ short
  simp only [String.utf8EncodeChar, if_pos most]
  rfl

theorem encode_long (found : Lead.ofByte? byte = some lead) (announced : lead.Announces c.toNat) :
    String.utf8EncodeChar c = byte :: trail lead.more c.toNat := by
  have encoded := encode_of_lead found announced
  rwa [Char.ofNat_toNat] at encoded

/-- An encoded character is read as that character, whatever comes after it. -/
theorem pieces_encodeChar (c : Char) (rest : Bytes) :
    pieces (String.utf8EncodeChar c ++ rest) = .char c :: pieces rest := by
  by_cases short : c.toNat < 0x80
  · have same : (UInt8.ofNat c.toNat).toNat = c.toNat := by
      rw [UInt8.toNat_ofNat']
      omega
    rw [encode_one short, List.singleton_append, pieces, piece, same, if_pos short,
      Char.ofNat_toNat]
  · obtain ⟨byte, lead, large, found, announced⟩ := lead_of_char (Nat.le_of_not_lt short)
    rw [encode_long found announced, List.cons_append, pieces, piece,
      if_neg (Nat.not_lt_of_le large), found]
    simp only [← announced.bits, follow_trail announced.within, Char.ofNat_toNat]

/-- An encoded character that breaks off is one broken place. -/
theorem pieces_cut (c : Char) {kept : Nat} (some : kept ≠ 0)
    (cut : kept < (String.utf8EncodeChar c).length) :
    pieces ((String.utf8EncodeChar c).take kept) = [.broken] := by
  obtain ⟨kept, rfl⟩ := Nat.exists_eq_succ_of_ne_zero some
  by_cases short : c.toNat < 0x80
  · rw [encode_one short, List.length_singleton] at cut
    omega
  · obtain ⟨byte, lead, large, found, announced⟩ := lead_of_char (Nat.le_of_not_lt short)
    rw [encode_long found announced, List.length_cons, length_trail] at cut
    rw [encode_long found announced, List.take_succ_cons, pieces, piece,
      if_neg (Nat.not_lt_of_le large), found]
    simp only [← announced.bits, follow_cut announced.within (Nat.lt_of_succ_lt_succ cut), pieces]

theorem encode_of_piece {rest left : Bytes} (read : piece byte rest = (.char c, left)) :
    byte :: rest = String.utf8EncodeChar c ++ left := by
  unfold piece at read
  by_cases short : byte.toNat < 0x80
  · rw [if_pos short] at read
    simp only [Prod.mk.injEq, Piece.char.injEq] at read
    obtain ⟨rfl, rfl⟩ := read
    have same : (Char.ofNat byte.toNat).toNat = byte.toNat := toNat_ofNat (.inl (by omega))
    have small : (Char.ofNat byte.toNat).toNat < 0x80 := by omega
    rw [encode_one small, same, UInt8.ofNat_toNat, List.singleton_append]
  · rw [if_neg short] at read
    cases found : Lead.ofByte? byte with
    | none => simp [found] at read
    | some lead =>
      simp only [found] at read
      have bounds : 0x80 ≤ lead.low ∧ lead.high ≤ 0xbf := by
        rcases lead_cases found with ⟨_, _, rfl⟩ | ⟨_, rfl⟩ | ⟨_, rfl⟩ | ⟨_, _, _, rfl⟩ | ⟨_, rfl⟩ |
          ⟨_, _, rfl⟩ | ⟨_, rfl⟩ <;> simp
      obtain ⟨code, rfl, rfl, bits, within⟩ := trail_of_follow bounds.1 bounds.2 read
      rw [encode_of_lead found ⟨bits, within⟩, List.cons_append]

end

theorem encode_cons (c : Char) (text : List Char) :
    encode (c :: text) = String.utf8EncodeChar c ++ encode text :=
  List.flatMap_cons

theorem encode_append (text more : List Char) :
    encode (text ++ more) = encode text ++ encode more :=
  List.flatMap_append

theorem pieces_encode (text : List Char) : pieces (encode text) = text.map .char := by
  induction text with
  | nil => simp [encode, pieces]
  | cons c text induction => rw [encode_cons, pieces_encodeChar, induction, List.map_cons]

/-- By induction over the bytes that are left: each piece that is a character encodes it. -/
theorem encode_of_pieces {bytes : Bytes} {text : List Char}
    (read : pieces bytes = text.map .char) : bytes = encode text := by
  induction text generalizing bytes with
  | nil =>
    cases bytes with
    | nil => rfl
    | cons byte rest => simp [pieces] at read
  | cons c text induction =>
    cases bytes with
    | nil => simp [pieces] at read
    | cons byte rest =>
      rw [pieces, List.map_cons, List.cons.injEq] at read
      rw [encode_cons, ← induction read.2]
      exact encode_of_piece (Prod.ext read.1 rfl)

theorem mapM_char (pieces : List Piece) (text : List Char) :
    pieces.mapM Piece.char? = some text ↔ pieces = text.map .char := by
  induction pieces generalizing text with
  | nil => cases text <;> simp
  | cons piece pieces induction =>
    cases piece with
    | broken => cases text <;> simp [Piece.char?]
    | char c =>
      rw [List.mapM_cons]
      simp only [Piece.char?, Option.pure_def, Option.bind_eq_bind, Option.bind_some,
        Option.bind_eq_some_iff, induction, Option.some.injEq]
      constructor
      · rintro ⟨text, rfl, rfl⟩
        rfl
      · intro read
        cases text with
        | nil => cases read
        | cons c' text =>
          rw [List.map_cons, List.cons.injEq, Piece.char.injEq] at read
          exact ⟨text, read.2, congrArg (· :: text) read.1⟩

/-- The strict reader finds a text in just those bytes that encode it. -/
theorem decode_eq_some_iff (bytes : Bytes) (text : List Char) :
    decode? bytes = some text ↔ bytes = encode text := by
  unfold decode?
  rw [mapM_char]
  constructor
  · exact encode_of_pieces
  · rintro rfl
    exact pieces_encode text

@[simp] theorem decode_encode (text : List Char) : decode? (encode text) = some text :=
  (decode_eq_some_iff _ _).mpr rfl

theorem encode_injective {text other : List Char} (same : encode text = encode other) :
    text = other := by
  have read := decode_encode text
  rw [same, decode_encode] at read
  exact (Option.some.inj read).symm

/-- The characters of a text that lie whole within its first bytes, and the replacement character
for one that does not, if any byte of it is among them. -/
def clip : Nat → List Char → List Char
  | _, [] => []
  | size, c :: text =>
    if c.utf8Size ≤ size then c :: clip (size - c.utf8Size) text
    else if size = 0 then []
    else ['\ufffd']

/-- By induction over the text: the front ends after a character or within one. -/
theorem decodeLossy_take (size : Nat) (text : List Char) :
    decodeLossy ((encode text).take size) = clip size text := by
  induction text generalizing size with
  | nil => simp [encode, decodeLossy, pieces, clip]
  | cons c text induction =>
    have length := String.length_utf8EncodeChar c
    rw [encode_cons, clip, List.take_append, length]
    by_cases whole : c.utf8Size ≤ size
    · rw [if_pos whole, List.take_of_length_le (length ▸ whole), ← induction, decodeLossy,
        pieces_encodeChar]
      rfl
    · have none : size - c.utf8Size = 0 := by omega
      rw [if_neg whole, none, List.take_zero, List.append_nil]
      by_cases empty : size = 0
      · simp [empty, decodeLossy, pieces]
      · rw [if_neg empty, decodeLossy, pieces_cut c empty (by omega)]
        rfl

end SharedBytes.Text.Utf8
