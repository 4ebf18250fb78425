/-
# UTF-8

Bytes are read as text in two ways. `decode?` refuses bytes that are not UTF-8.
`decodeLossy` puts the replacement character in the place of every maximal part
that starts a character and does not finish it, and of every byte that starts none.
-/

namespace CommitHistory.Text.Utf8

/-- The replacement character. -/
def replacement : Char := '\ufffd'

/-- What a lead byte announces: how many bytes follow, the least and the greatest first
of them, and the bits that the lead byte itself contributes. -/
structure Lead where
  following : Nat
  least : Nat
  greatest : Nat
  bits : Nat
deriving DecidableEq, Repr

/-- The meaning of a byte at the start of a character. The bounds on the byte that follows
exclude overlong forms, surrogates and code points above U+10FFFF. -/
def Lead.ofByte? (b : Nat) : Option Lead :=
  if b < 0x80 then some ⟨0, 0, 0, b⟩
  else if 0xc2 ≤ b ∧ b ≤ 0xdf then some ⟨1, 0x80, 0xbf, b - 0xc0⟩
  else if b = 0xe0 then some ⟨2, 0xa0, 0xbf, 0⟩
  else if b = 0xed then some ⟨2, 0x80, 0x9f, 0xd⟩
  else if 0xe1 ≤ b ∧ b ≤ 0xef then some ⟨2, 0x80, 0xbf, b - 0xe0⟩
  else if b = 0xf0 then some ⟨3, 0x90, 0xbf, 0⟩
  else if 0xf1 ≤ b ∧ b ≤ 0xf3 then some ⟨3, 0x80, 0xbf, b - 0xf0⟩
  else if b = 0xf4 then some ⟨3, 0x80, 0x8f, 4⟩
  else none

/-- What one reading step finds: a character or a part that is none. -/
inductive Piece where
  | char (c : Char)
  | broken
deriving DecidableEq, Repr

/-- Reads the bytes that have to follow a lead byte. The bytes from the second on lie
between 0x80 and 0xbf. -/
def follow : Nat → Nat → Nat → Nat → List UInt8 → Piece × List UInt8
  | 0, _, _, bits, rest => (.char (Char.ofNat bits), rest)
  | _ + 1, _, _, _, [] => (.broken, [])
  | n + 1, least, greatest, bits, b :: rest =>
    if least ≤ b.toNat ∧ b.toNat ≤ greatest then
      follow n 0x80 0xbf (bits * 64 + (b.toNat - 0x80)) rest
    else (.broken, b :: rest)

theorem length_follow_le (n least greatest bits : Nat) (bytes : List UInt8) :
    (follow n least greatest bits bytes).2.length ≤ bytes.length := by
  induction n generalizing least greatest bits bytes with
  | zero => simp [follow]
  | succ n ih =>
    cases bytes with
    | nil => simp [follow]
    | cons b rest =>
      simp only [follow]
      split
      · exact Nat.le_succ_of_le (ih ..)
      · exact Nat.le_refl _

/-- The characters and broken parts of a run of bytes. -/
def pieces : List UInt8 → List Piece
  | [] => []
  | b :: rest =>
    match Lead.ofByte? b.toNat with
    | none => .broken :: pieces rest
    | some lead =>
      let found := follow lead.following lead.least lead.greatest lead.bits rest
      found.1 :: pieces found.2
termination_by bytes => bytes.length
decreasing_by
  · simp
  · exact Nat.lt_succ_of_le (length_follow_le ..)

/-- The text of a piece when broken parts are replaced. -/
def Piece.shown : Piece → Char
  | .char c => c
  | .broken => replacement

/-- The text of a piece, if it is one. -/
def Piece.char? : Piece → Option Char
  | .char c => some c
  | .broken => none

/-- The text of any bytes. -/
def decodeLossy (bytes : List UInt8) : List Char := (pieces bytes).map Piece.shown

/-- The text of bytes that are UTF-8. -/
def decode? (bytes : List UInt8) : Option (List Char) := (pieces bytes).mapM Piece.char?

/-- The bytes of a text. -/
def encode (text : List Char) : List UInt8 := text.flatMap String.utf8EncodeChar

end CommitHistory.Text.Utf8
