import WebhookDelivery.Text.LossyUtf8

/-!
# Texts as octets, and back

The octets of a text are read as the text that they are the octets of, whether strictly or not: at
the head of a stream, the octets of a character are taken for that character, and they are passed
over as a whole. What has to be seen is that they are in the ranges that the reader asks for. A
sequence of three begins with 224 only if its character is above 2047, which puts its second octet
beyond 159; and if it begins with 237, the second octet is below 160, as no character is a surrogate.
The same goes for the two ends of the sequences of four.

* `Utf8.nextPiece_encode` — a character at the head of a stream.
* `lossyText_utf8`, `strictText?_utf8` — a text from its octets.
* `mem_utf8_iff_of_lt` — an octet of ASCII stands for its character and nothing else.
-/

namespace WebhookDelivery

namespace Utf8

-- ---------------------------------------------------------------------------
-- What the reader asks for
-- ---------------------------------------------------------------------------

theorem continues_iff (b : UInt8) : continues b = true ↔ 128 ≤ b.toNat ∧ b.toNat ≤ 191 := by
  simp [continues, UInt8.le_iff_toNat_le]

/-- The second of three octets is held back from overlong forms and surrogates. -/
theorem secondOfThree_iff {b0 b1 : UInt8} : secondOfThree b0 b1 = true
    ↔ 128 ≤ b1.toNat ∧ b1.toNat ≤ 191 ∧ (b0.toNat = 224 → 160 ≤ b1.toNat)
      ∧ (b0.toNat = 237 → b1.toNat ≤ 159) := by
  unfold secondOfThree
  simp only [← UInt8.toNat_inj, continues_iff, UInt8.le_iff_toNat_le, Bool.and_eq_true,
    decide_eq_true_eq, apply_ite (· = true)]
  simp
  split
  · omega
  · split <;> omega

/-- The second of four octets is held back from overlong forms and from what is beyond Unicode. -/
theorem secondOfFour_iff {b0 b1 : UInt8} : secondOfFour b0 b1 = true
    ↔ 128 ≤ b1.toNat ∧ b1.toNat ≤ 191 ∧ (b0.toNat = 240 → 144 ≤ b1.toNat)
      ∧ (b0.toNat = 244 → b1.toNat ≤ 143) := by
  unfold secondOfFour
  simp only [← UInt8.toNat_inj, continues_iff, UInt8.le_iff_toNat_le, Bool.and_eq_true,
    decide_eq_true_eq, apply_ite (· = true)]
  simp
  split
  · omega
  · split <;> omega

section Sequence

variable {b0 b1 b2 b3 : UInt8} (rest : Octets)

theorem nextPiece_one (h0 : b0.toNat < 128) :
    nextPiece b0 rest = .char (Char.ofNat b0.toNat) 1 :=
  if_pos (UInt8.lt_iff_toNat_lt.mpr h0)

theorem nextPiece_two (h0 : 194 ≤ b0.toNat ∧ b0.toNat ≤ 223) (h1 : continues b1 = true) :
    nextPiece b0 (b1 :: rest) = .char (Char.ofNat ((b0.toNat % 32) * 64 + bits b1)) 2 := by
  simp only [nextPiece.eq_def, UInt8.lt_iff_toNat_lt, UInt8.le_iff_toNat_le, UInt8.reduceToNat]
  rw [if_neg (by omega), if_pos h0, if_pos h1]

/-- Three octets that belong together make a character. -/
theorem nextPiece_three (h0 : 224 ≤ b0.toNat ∧ b0.toNat ≤ 239)
    (h1 : secondOfThree b0 b1 = true) (h2 : continues b2 = true) :
    nextPiece b0 (b1 :: b2 :: rest)
      = .char (Char.ofNat ((b0.toNat % 16) * 4096 + bits b1 * 64 + bits b2)) 3 := by
  simp only [nextPiece.eq_def, UInt8.lt_iff_toNat_lt, UInt8.le_iff_toNat_le, UInt8.reduceToNat]
  rw [if_neg (by omega), if_neg (by omega), if_pos h0, if_pos h1, if_pos h2]

/-- Four octets that belong together make a character. -/
theorem nextPiece_four (h0 : 240 ≤ b0.toNat ∧ b0.toNat ≤ 244)
    (h1 : secondOfFour b0 b1 = true) (h2 : continues b2 = true) (h3 : continues b3 = true) :
    nextPiece b0 (b1 :: b2 :: b3 :: rest) = .char (Char.ofNat
      ((b0.toNat % 8) * 262144 + bits b1 * 4096 + bits b2 * 64 + bits b3)) 4 := by
  simp only [nextPiece.eq_def, UInt8.lt_iff_toNat_lt, UInt8.le_iff_toNat_le, UInt8.reduceToNat]
  rw [if_neg (by omega), if_neg (by omega), if_neg (by omega), if_pos h0, if_pos h1, if_pos h2,
    if_pos h3]

end Sequence

-- ---------------------------------------------------------------------------
-- Characters
-- ---------------------------------------------------------------------------

/-- Six bits as a continuing octet. -/
def tail (n : Nat) : UInt8 :=
  UInt8.ofNat (n % 64 + 128)

theorem toNat_tail (n : Nat) : (tail n).toNat = n % 64 + 128 :=
  UInt8.toNat_ofNat_of_lt' (by simp only [UInt8.size]; omega)

theorem continues_tail (n : Nat) : continues (tail n) = true := by
  rw [continues_iff, toNat_tail]
  omega

theorem bits_tail (n : Nat) : bits (tail n) = n % 64 := by
  rw [bits, toNat_tail]
  omega

/-- The octets that a character of this number is made of. -/
inductive Encodes (n : Nat) : Octets → Prop where
  | one {b : UInt8} (range : n ≤ 127) (lead : b.toNat = n) : Encodes n [b]
  | two {b : UInt8} (range : 127 < n ∧ n ≤ 2047) (lead : b.toNat = n / 64 + 192) :
    Encodes n [b, tail n]
  | three {b : UInt8} (range : 2047 < n ∧ n ≤ 65535) (lead : b.toNat = n / 4096 + 224) :
    Encodes n [b, tail (n / 64), tail n]
  | four {b : UInt8} (range : 65535 < n) (lead : b.toNat = n / 262144 + 240) :
    Encodes n [b, tail (n / 4096), tail (n / 64), tail n]

/-- Every character is encoded in one of the four ways. -/
theorem encodes (c : Char) : Encodes c.toNat (String.utf8EncodeChar c) := by
  have hvalid : c.toNat.isValidChar := c.valid
  unfold Nat.isValidChar at hvalid
  have hlead : ∀ k, k < 256 → (UInt8.ofNat k).toNat = k := fun k hk => UInt8.toNat_ofNat_of_lt' hk
  rw [String.utf8EncodeChar]
  change Encodes c.toNat (if c.toNat ≤ 127 then [UInt8.ofNat c.toNat]
    else if c.toNat ≤ 2047 then [UInt8.ofNat (c.toNat / 64 % 32 + 192), tail c.toNat]
    else if c.toNat ≤ 65535 then
      [UInt8.ofNat (c.toNat / 4096 % 16 + 224), tail (c.toNat / 64), tail c.toNat]
    else [UInt8.ofNat (c.toNat / 262144 % 8 + 240), tail (c.toNat / 4096), tail (c.toNat / 64),
      tail c.toNat])
  -- the four ranges in turn
  split
  · rename_i h1
    exact .one h1 (hlead _ (by omega))
  split
  · rename_i h1 h2
    exact .two ⟨by omega, h2⟩ ((hlead _ (by omega)).trans (by omega))
  split
  · rename_i h1 h2 h3
    exact .three ⟨by omega, h3⟩ ((hlead _ (by omega)).trans (by omega))
  · rename_i h1 h2 h3
    exact .four (by omega) ((hlead _ (by omega)).trans (by omega))

/-- The octets of a character at the head of a stream are taken for that character. -/
theorem nextPiece_encode (c : Char) (rest : Octets) : ∃ b more,
    String.utf8EncodeChar c = b :: more
      ∧ nextPiece b (more ++ rest) = .char c (more.length + 1) := by
  have hvalid : c.toNat.isValidChar := c.valid
  unfold Nat.isValidChar at hvalid
  have hsame : ∀ n k, n = c.toNat → Piece.char (Char.ofNat n) k = .char c k :=
    fun n k hn => by rw [hn, Char.ofNat_toNat]
  have hencodes := encodes c
  generalize String.utf8EncodeChar c = bytes at hencodes
  -- the lead octet tells the form, and the second one is not held back
  cases hencodes with
  | @one b range lead =>
    refine ⟨b, [], rfl, ?_⟩
    rw [List.nil_append, nextPiece_one rest (by omega)]
    exact hsame _ _ lead
  | @two b range lead =>
    refine ⟨b, _, rfl, (nextPiece_two rest (by omega) (continues_tail _)).trans (hsame _ _ ?_)⟩
    rw [bits_tail]
    omega
  | @three b range lead =>
    have hsecond := toNat_tail (c.toNat / 64)
    refine ⟨b, _, rfl, (nextPiece_three rest (by omega) (secondOfThree_iff.mpr (by omega))
      (continues_tail _)).trans (hsame _ _ ?_)⟩
    rw [bits_tail, bits_tail]
    omega
  | @four b range lead =>
    have hsecond := toNat_tail (c.toNat / 4096)
    refine ⟨b, _, rfl, (nextPiece_four rest (by omega) (secondOfFour_iff.mpr (by omega))
      (continues_tail _) (continues_tail _)).trans (hsame _ _ ?_)⟩
    rw [bits_tail, bits_tail, bits_tail]
    omega

/-- An octet below 128 is there only as the character of this number. -/
theorem Encodes.mem_iff_of_lt {n : Nat} {b : UInt8} {bytes : Octets} (h : Encodes n bytes)
    (hb : b.toNat < 128) : b ∈ bytes ↔ n = b.toNat := by
  have heq : ∀ b' : UInt8, b = b' ↔ b'.toNat = b.toNat := fun b' =>
    eq_comm.trans UInt8.toNat_inj.symm
  cases h with
  | one range lead => rw [List.mem_singleton, heq, lead]
  | two range lead | three range lead | four range lead =>
    simp only [List.mem_cons, List.not_mem_nil, or_false, heq, toNat_tail, lead]
    omega

-- ---------------------------------------------------------------------------
-- Texts
-- ---------------------------------------------------------------------------

section Pieces

variable {α : Type} (onChar : Char → α) (onBad : α)

/-- Octets that belong to the character before are passed over. -/
theorem pieces_skip (passed rest : Octets) :
    pieces onChar onBad passed.length (passed ++ rest) = pieces onChar onBad 0 rest := by
  induction passed with
  | nil => rfl
  | cons b passed ih => exact ih

/-- The octets of characters are taken for these characters, one by one. -/
theorem pieces_encode (cs : List Char) :
    pieces onChar onBad 0 (cs.flatMap String.utf8EncodeChar) = cs.map onChar := by
  induction cs with
  | nil => rfl
  | cons c cs ih =>
    obtain ⟨b, more, hencode, hpiece⟩ := nextPiece_encode c (cs.flatMap String.utf8EncodeChar)
    rw [List.flatMap_cons, hencode, List.cons_append, pieces, hpiece]
    simp only [Nat.add_sub_cancel, pieces_skip, ih, List.map_cons]

end Pieces

end Utf8

/-- Text that is well-formed is decoded without loss. -/
theorem lossyText_utf8 (s : String) : lossyText (utf8 s) = s := by
  rw [lossyText, utf8, Utf8.pieces_encode, List.map_id, String.ofList_toList]

/-- Text that is well-formed is decoded. -/
theorem strictText?_utf8 (s : String) : strictText? (utf8 s) = some s := by
  have hall : ∀ cs : List Char, (cs.map some).mapM id = some cs := by
    intro cs
    induction cs with
    | nil => rfl
    | cons c cs ih => simp [ih]
  rw [strictText?, utf8, Utf8.pieces_encode, hall, Option.map_some, String.ofList_toList]

/-- In the octets of a text, one below 128 comes from the character of this number. -/
theorem mem_utf8_iff_of_lt {s : String} {c : Char} {b : UInt8} (hc : c.toNat = b.toNat)
    (hb : b.toNat < 128) : b ∈ utf8 s ↔ c ∈ s.toList := by
  have hchar : ∀ d : Char, b ∈ String.utf8EncodeChar d ↔ d = c := fun d => by
    rw [(Utf8.encodes d).mem_iff_of_lt hb, ← hc, Char.toNat_inj]
  simp [utf8, List.mem_flatMap, hchar]

theorem zero_mem_utf8 {s : String} : 0 ∈ utf8 s ↔ '\x00' ∈ s.toList :=
  mem_utf8_iff_of_lt rfl (by decide)

end WebhookDelivery
