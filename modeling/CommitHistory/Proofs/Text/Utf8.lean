/-
# Texts that come back from their bytes

Every character is encoded in one to four bytes. The lead byte tells how many bytes follow and
which of them may come first, and the bounds that exclude overlong forms and surrogates leave room
for every character, so decoding gives the text back.

## Main results

* `Utf8.decode?_encode` — decoding undoes encoding.
-/

import CommitHistory.Text.Utf8

namespace CommitHistory.Text.Utf8

variable {n first least greatest bits : Nat} {rest : List UInt8}

theorem pieces_cons_of_lead {b : UInt8} {lead : Lead} (found : Lead.ofByte? b.toNat = some lead)
    (rest : List UInt8) :
    pieces (b :: rest) =
      (follow lead.following lead.least lead.greatest lead.bits rest).1 ::
        pieces (follow lead.following lead.least lead.greatest lead.bits rest).2 := by
  rw [pieces, found]

/-- With no byte left to follow, the bits are the character. -/
theorem follow_zero (least greatest bits : Nat) (rest : List UInt8) :
    follow 0 least greatest bits rest = (.char (Char.ofNat bits), rest) :=
  rfl

/-- A byte that follows adds six bits. -/
theorem follow_cons (n : Nat) (low : least ≤ first + 0x80) (high : first + 0x80 ≤ greatest)
    (small : first < 0x40) (bits : Nat) (rest : List UInt8) :
    follow (n + 1) least greatest bits (UInt8.ofNat (first + 0x80) :: rest) =
      follow n 0x80 0xbf (bits * 64 + first) rest := by
  have byte : (UInt8.ofNat (first + 0x80)).toNat = first + 0x80 := by
    rw [UInt8.toNat_ofNat']
    omega
  rw [follow, byte, if_pos ⟨low, high⟩, Nat.add_sub_cancel]

/-- A byte that is not the first of those that follow has the widest bounds. -/
theorem follow_cons_later (n : Nat) (small : first < 0x40) (bits : Nat) (rest : List UInt8) :
    follow (n + 1) 0x80 0xbf bits (UInt8.ofNat (first + 0x80) :: rest) =
      follow n 0x80 0xbf (bits * 64 + first) rest :=
  follow_cons n (by omega) (by omega) small bits rest

/-- The lead byte of two. -/
theorem ofByte?_two (low : 2 ≤ n) (high : n < 0x20) :
    Lead.ofByte? (UInt8.ofNat (n + 0xc0)).toNat = some ⟨1, 0x80, 0xbf, n⟩ := by
  have byte : (UInt8.ofNat (n + 0xc0)).toNat = n + 0xc0 := by
    rw [UInt8.toNat_ofNat']
    omega
  rw [byte, Lead.ofByte?, if_neg (by omega), if_pos (by omega), Nat.add_sub_cancel]

/-- The lead byte of three. The byte behind it is bounded from below after 0 and from above after
0xd. -/
theorem ofByte?_three (high : n < 0x10) :
    Lead.ofByte? (UInt8.ofNat (n + 0xe0)).toNat =
      some ⟨2, if n = 0 then 0xa0 else 0x80, if n = 0xd then 0x9f else 0xbf, n⟩ := by
  have all : ∀ n < 0x10, Lead.ofByte? (UInt8.ofNat (n + 0xe0)).toNat =
      some ⟨2, if n = 0 then 0xa0 else 0x80, if n = 0xd then 0x9f else 0xbf, n⟩ := by decide
  exact all n high

/-- The lead byte of four. -/
theorem ofByte?_four (high : n < 5) :
    Lead.ofByte? (UInt8.ofNat (n + 0xf0)).toNat =
      some ⟨3, if n = 0 then 0x90 else 0x80, if n = 4 then 0x8f else 0xbf, n⟩ := by
  have all : ∀ n < 5, Lead.ofByte? (UInt8.ofNat (n + 0xf0)).toNat =
      some ⟨3, if n = 0 then 0x90 else 0x80, if n = 4 then 0x8f else 0xbf, n⟩ := by decide
  exact all n high

/-- The bytes of a character are read as the character. -/
theorem pieces_utf8EncodeChar (c : Char) (rest : List UInt8) :
    pieces (String.utf8EncodeChar c ++ rest) = .char c :: pieces rest := by
  have valid : c.val.toNat < 0xd800 ∨ 0xdfff < c.val.toNat ∧ c.val.toNat < 0x110000 := c.valid
  have whole : Char.ofNat c.val.toNat = c := Char.ofNat_toNat c
  rw [String.utf8EncodeChar]
  generalize c.val.toNat = v at valid whole ⊢
  split
  next one =>
    have lead : Lead.ofByte? (UInt8.ofNat v).toNat = some ⟨0, 0, 0, v⟩ := by
      have byte : (UInt8.ofNat v).toNat = v := by
        rw [UInt8.toNat_ofNat']
        omega
      rw [byte, Lead.ofByte?, if_pos (by omega)]
    rw [List.singleton_append, pieces_cons_of_lead lead, follow_zero, whole]
  next more =>
  split
  next two =>
    have first : v / 64 % 0x20 = v / 64 := by omega
    have sum : v / 64 * 64 + v % 0x40 = v := by omega
    rw [first, List.cons_append, List.cons_append,
      pieces_cons_of_lead (ofByte?_two (by omega) (by omega))]
    simp only [follow_cons_later 0 (Nat.mod_lt v (by decide : 0x40 > 0)), follow_zero, sum, whole,
      List.nil_append]
  next more =>
  split
  next three =>
    have first : v / 4096 % 0x10 = v / 4096 := by omega
    have sum : (v / 4096 * 64 + v / 64 % 0x40) * 64 + v % 0x40 = v := by omega
    rw [first, List.cons_append, List.cons_append, List.cons_append,
      pieces_cons_of_lead (ofByte?_three (by omega))]
    -- Neither an overlong form nor a surrogate is a character.
    have low : (if v / 4096 = 0 then 0xa0 else 0x80) ≤ v / 64 % 0x40 + 0x80 := by split <;> omega
    have high : v / 64 % 0x40 + 0x80 ≤ if v / 4096 = 0xd then 0x9f else 0xbf := by split <;> omega
    simp only [follow_cons 1 low high (by omega),
      follow_cons_later 0 (Nat.mod_lt v (by decide : 0x40 > 0)), follow_zero, sum, whole,
      List.nil_append]
  next four =>
    have first : v / 262144 % 0x08 = v / 262144 := by omega
    have sum : ((v / 262144 * 64 + v / 4096 % 0x40) * 64 + v / 64 % 0x40) * 64 + v % 0x40 = v := by
      omega
    rw [first, List.cons_append, List.cons_append, List.cons_append, List.cons_append,
      pieces_cons_of_lead (ofByte?_four (by omega))]
    have low : (if v / 262144 = 0 then 0x90 else 0x80) ≤ v / 4096 % 0x40 + 0x80 := by
      split <;> omega
    have high : v / 4096 % 0x40 + 0x80 ≤ if v / 262144 = 4 then 0x8f else 0xbf := by
      split <;> omega
    simp only [follow_cons 2 low high (by omega),
      follow_cons_later 1 (Nat.mod_lt (v / 64) (by decide : 0x40 > 0)),
      follow_cons_later 0 (Nat.mod_lt v (by decide : 0x40 > 0)), follow_zero, sum, whole,
      List.nil_append]

theorem pieces_encode (text : List Char) : pieces (encode text) = text.map .char := by
  induction text with
  | nil => simp [encode, pieces]
  | cons c text ih =>
    rw [encode, List.flatMap_cons, pieces_utf8EncodeChar, List.map_cons, ← ih, encode]

/-- Decoding undoes encoding. -/
theorem decode?_encode (text : List Char) : decode? (encode text) = some text := by
  rw [decode?, pieces_encode]
  induction text with
  | nil => rfl
  | cons c text ih => simp [Piece.char?, ih]

end CommitHistory.Text.Utf8
