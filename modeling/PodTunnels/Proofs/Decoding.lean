import PodTunnels.Proofs.ByteOrder

/-!
# Texts in bytes

A reader of bytes gets back every text that was written. A character of several bytes is begun by
the first of them, which says how many are owed and in which range the next one lies
(`exists_lead_three`, `exists_lead_four`); each further one adds six bits. So the bytes of a
character are one piece, whatever follows (`pieces_encodeChar`), and the bytes of a text have no
fault (`decode?_encode`).
-/

namespace PodTunnels.Text.Utf8

variable {bs : List UInt8} {b : UInt8} {p : Begun} {n v : Nat}

theorem toNat_ofNat_byte (h : n < 256) : (UInt8.ofNat n).toNat = n :=
  UInt8.toNat_ofNat_of_lt' h

/-! ## One byte -/

/-- A begun character goes on with a byte. -/
structure Begun.Takes (p : Begun) (n : Nat) : Prop where
  byte : n < 256
  low : p.low.toNat ≤ n
  high : n ≤ p.high.toNat

theorem Begun.Takes.inRange (h : p.Takes n) : p.low ≤ UInt8.ofNat n ∧ UInt8.ofNat n ≤ p.high := by
  rw [UInt8.le_iff_toNat_le, UInt8.le_iff_toNat_le, toNat_ofNat_byte h.byte]
  exact ⟨h.low, h.high⟩

theorem pieces_begun (h : lead b = .begun p) : pieces none (b :: bs) = pieces (some p) bs := by
  rw [pieces, h]

theorem pieces_next (h : p.Takes n) (howed : 1 < p.owed) :
    pieces (some p) (UInt8.ofNat n :: bs) =
      pieces (some ⟨p.read + 1, p.owed - 1, 0x80, 0xBF, 64 * p.bits + (n - 0x80)⟩) bs := by
  rw [pieces, if_pos h.inRange, toNat_ofNat_byte h.byte, if_neg (Nat.not_le_of_lt howed)]

theorem pieces_last (h : p.Takes n) (howed : p.owed = 1) :
    pieces (some p) (UInt8.ofNat n :: bs) =
      .char (Char.ofNat (64 * p.bits + (n - 0x80))) :: pieces none bs := by
  rw [pieces, if_pos h.inRange, toNat_ofNat_byte h.byte, if_pos (Nat.le_of_eq howed)]

/-- After the second byte of a character every further one lies in the same range. -/
theorem takes_tail (read owed bits m : Nat) :
    Begun.Takes ⟨read, owed, 0x80, 0xBF, bits⟩ (m % 64 + 128) where
  byte := by omega
  low := Nat.le_add_left ..
  high := Nat.add_le_add_right (Nat.le_of_lt_succ (Nat.mod_lt m (by decide))) 128

/-! ## First bytes -/

theorem lead_whole (h : v < 0x80) : lead (UInt8.ofNat v) = .whole (Char.ofNat v) := by
  rw [lead, toNat_ofNat_byte (by omega), if_pos h]

theorem lead_two (hlow : 0x80 ≤ v) (hhigh : v < 0x800) :
    lead (UInt8.ofNat (v / 64 % 32 + 192)) = .begun ⟨1, 1, 0x80, 0xBF, v / 64⟩ := by
  have hn : (UInt8.ofNat (v / 64 % 32 + 192)).toNat = v / 64 + 192 := by
    rw [toNat_ofNat_byte (by omega), Nat.mod_eq_of_lt (by omega)]
  rw [lead, hn, if_neg (by omega), if_neg (by omega), if_pos (by omega), Nat.add_sub_cancel]

theorem exists_lead_three (hlow : 0x800 ≤ v) (hhigh : v < 0x10000)
    (hchar : v < 0xD800 ∨ 0xE000 ≤ v) :
    ∃ p : Begun, lead (UInt8.ofNat (v / 4096 % 16 + 224)) = .begun p ∧ p.owed = 2 ∧
      p.bits = v / 4096 ∧ p.Takes (v / 64 % 64 + 128) := by
  have hn : (UInt8.ofNat (v / 4096 % 16 + 224)).toNat = v / 4096 + 224 := by
    rw [toNat_ofNat_byte (by omega), Nat.mod_eq_of_lt (by omega)]
  have htakes {low high : UInt8} (hlow : low.toNat ≤ v / 64 % 64 + 128)
      (hhigh : v / 64 % 64 + 128 ≤ high.toNat) (bits : Nat) :
      Begun.Takes ⟨1, 2, low, high, bits⟩ (v / 64 % 64 + 128) := ⟨by omega, hlow, hhigh⟩
  simp only [lead, hn]
  rw [if_neg (by omega), if_neg (by omega), if_neg (by omega)]
  split_ifs with hfirst hpairs
  · exact ⟨_, rfl, rfl, by dsimp only; omega, htakes (by simp; omega) (by simp; omega) _⟩
  · exact ⟨_, rfl, rfl, by dsimp only; omega, htakes (by simp) (by simp; omega) _⟩
  · exact ⟨_, rfl, rfl, by dsimp only; omega, htakes (by simp) (by simp; omega) _⟩
  all_goals omega

theorem exists_lead_four (hlow : 0x10000 ≤ v) (hhigh : v < 0x110000) :
    ∃ p : Begun, lead (UInt8.ofNat (v / 262144 % 8 + 240)) = .begun p ∧ p.owed = 3 ∧
      p.bits = v / 262144 ∧ p.Takes (v / 4096 % 64 + 128) := by
  have hn : (UInt8.ofNat (v / 262144 % 8 + 240)).toNat = v / 262144 + 240 := by
    rw [toNat_ofNat_byte (by omega), Nat.mod_eq_of_lt (by omega)]
  have htakes {low high : UInt8} (hlow : low.toNat ≤ v / 4096 % 64 + 128)
      (hhigh : v / 4096 % 64 + 128 ≤ high.toNat) (bits : Nat) :
      Begun.Takes ⟨1, 3, low, high, bits⟩ (v / 4096 % 64 + 128) := ⟨by omega, hlow, hhigh⟩
  simp only [lead, hn]
  rw [if_neg (by omega), if_neg (by omega), if_neg (by omega), if_neg (by omega),
    if_neg (by omega), if_neg (by omega)]
  split_ifs with hfirst hmiddle hlast
  · exact ⟨_, rfl, rfl, by dsimp only; omega, htakes (by simp; omega) (by simp; omega) _⟩
  · exact ⟨_, rfl, rfl, by dsimp only; omega, htakes (by simp) (by simp; omega) _⟩
  · exact ⟨_, rfl, rfl, by dsimp only; omega, htakes (by simp) (by simp; omega) _⟩
  all_goals omega

/-! ## Characters and texts -/

/-- The bytes of a character are read as that character, whatever follows. -/
theorem pieces_encodeChar (c : Char) (bs : List UInt8) :
    pieces none (String.utf8EncodeChar c ++ bs) = .char c :: pieces none bs := by
  have hchar : c.val.toNat < 0xD800 ∨ 0xDFFF < c.val.toNat ∧ c.val.toNat < 0x110000 := c.valid
  have hc : Char.ofNat c.val.toNat = c := Char.ofNat_toNat c
  unfold String.utf8EncodeChar
  generalize c.val.toNat = v at hchar hc
  dsimp only
  split_ifs with hone htwo hthree
  · rw [List.singleton_append, pieces, lead_whole (by omega), hc]
  · have hbits : 64 * (v / 64) + (v % 64 + 128 - 0x80) = v := by omega
    rw [List.cons_append, pieces_begun (lead_two (by omega) (by omega)), List.singleton_append,
      pieces_last (takes_tail ..) rfl, hbits, hc]
  · obtain ⟨p, hlead, howed, hfirst, htakes⟩ :=
      exists_lead_three (v := v) (by omega) (by omega) (by omega)
    have hbits : 64 * (64 * p.bits + (v / 64 % 64 + 128 - 0x80)) + (v % 64 + 128 - 0x80) = v := by
      omega
    rw [List.cons_append, pieces_begun hlead, List.cons_append, pieces_next htakes (by omega),
      List.singleton_append, pieces_last (takes_tail ..) (by dsimp only; omega), hbits, hc]
  · obtain ⟨p, hlead, howed, hfirst, htakes⟩ := exists_lead_four (v := v) (by omega) (by omega)
    have hbits : 64 * (64 * (64 * p.bits + (v / 4096 % 64 + 128 - 0x80)) +
        (v / 64 % 64 + 128 - 0x80)) + (v % 64 + 128 - 0x80) = v := by omega
    rw [List.cons_append, pieces_begun hlead, List.cons_append, pieces_next htakes (by omega),
      List.cons_append, pieces_next (takes_tail ..) (by dsimp only; omega), List.singleton_append,
      pieces_last (takes_tail ..) (by dsimp only; omega), hbits, hc]

theorem charsFrom_map_char (index : Nat) (cs : List Char) :
    charsFrom index (cs.map Piece.char) = .ok cs := by
  induction cs generalizing index with
  | nil => rfl
  | cons c cs ih =>
    rw [List.map_cons, charsFrom, ih]
    rfl

/-- A text is read back from its bytes. -/
theorem decode?_encode (s : String) : decode? (encode s) = some s := by
  have hpieces (cs : List Char) :
      pieces none (cs.flatMap String.utf8EncodeChar) = cs.map Piece.char := by
    induction cs with
    | nil => rfl
    | cons c cs ih => rw [List.flatMap_cons, pieces_encodeChar, ih, List.map_cons]
  rw [decode?, decode, encode_eq_flatMap, hpieces, charsFrom_map_char]
  exact congrArg some String.ofList_toList

end PodTunnels.Text.Utf8
