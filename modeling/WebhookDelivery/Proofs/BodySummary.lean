import WebhookDelivery.Http.Body
import WebhookDelivery.Proofs.Utf8Text

/-!
# The record of a body

Of a body beyond the limit a beginning is kept, as many octets as leave room for the mark in the
space of a record. But the record is a text: what is not UTF-8 in the beginning, a character that
was cut in two among it, and every NUL become replacement characters, of three octets each. So the
record takes up its space and no more only if every such sequence had three octets to begin with.

* `Utf8.nextPiece_sound` — a character takes as many octets as it is made of.
* `Utf8.recordLength_bounds` — from the octets kept to the octets of their record.
* `oversized_summary` — the record of a body beyond the limit, and when it keeps to its space.
-/

namespace WebhookDelivery

-- ---------------------------------------------------------------------------
-- Characters and their octets
-- ---------------------------------------------------------------------------

namespace Utf8

theorem toNat_ofNat {n : Nat} (h : n.isValidChar) : (Char.ofNat n).val.toNat = n := by
  rw [Char.ofNat, dif_pos h]
  rfl

/-- The octets of a character, by its number. -/
theorem length_encode_ofNat {n : Nat} (h : n.isValidChar) :
    (String.utf8EncodeChar (Char.ofNat n)).length
      = if n ≤ 127 then 1 else if n ≤ 2047 then 2 else if n ≤ 65535 then 3 else 4 := by
  have hencodes := encodes (Char.ofNat n)
  rw [show (Char.ofNat n).toNat = n from toNat_ofNat h] at hencodes
  generalize String.utf8EncodeChar (Char.ofNat n) = bytes at hencodes
  -- the ranges of the four forms follow one another
  cases hencodes with
  | one range => rw [if_pos range, List.length_singleton]
  | two range =>
    rw [if_neg (by omega), if_pos range.2]
    rfl
  | three range =>
    rw [if_neg (by omega), if_neg (by omega), if_pos range.2]
    rfl
  | four range =>
    rw [if_neg (by omega), if_neg (by omega), if_neg (by omega)]
    rfl

/-- What is so of a piece at the head of a stream of so many octets: it is no longer than the
stream, a character takes the octets that it is made of, and no malformed sequence is longer than
three. -/
def Piece.Sound (available : Nat) : Piece → Prop
  | char c length =>
    1 ≤ length ∧ length ≤ available ∧ (String.utf8EncodeChar c).length = length
  | malformed length => 1 ≤ length ∧ length ≤ available ∧ length ≤ 3

/-- A character read from two octets takes two octets. -/
theorem length_encode_two {b0 : UInt8} (b1 : UInt8) (h0 : 194 ≤ b0.toNat ∧ b0.toNat ≤ 223) :
    (String.utf8EncodeChar (Char.ofNat ((b0.toNat % 32) * 64 + bits b1))).length = 2 := by
  unfold bits
  rw [length_encode_ofNat (by unfold Nat.isValidChar; omega), if_neg (by omega),
    if_pos (by omega)]

/-- A character read from three octets takes three octets. -/
theorem length_encode_three {b0 b1 : UInt8} (b2 : UInt8)
    (h0 : 224 ≤ b0.toNat ∧ b0.toNat ≤ 239) (h1 : secondOfThree b0 b1 = true) :
    (String.utf8EncodeChar
      (Char.ofNat ((b0.toNat % 16) * 4096 + bits b1 * 64 + bits b2))).length = 3 := by
  have hsecond := secondOfThree_iff.mp h1
  unfold bits
  rw [length_encode_ofNat (by unfold Nat.isValidChar; omega), if_neg (by omega),
    if_neg (by omega), if_pos (by omega)]

/-- A character read from four octets takes four octets. -/
theorem length_encode_four {b0 b1 : UInt8} (b2 b3 : UInt8)
    (h0 : 240 ≤ b0.toNat ∧ b0.toNat ≤ 244) (h1 : secondOfFour b0 b1 = true) :
    (String.utf8EncodeChar (Char.ofNat
      ((b0.toNat % 8) * 262144 + bits b1 * 4096 + bits b2 * 64 + bits b3))).length = 4 := by
  have hsecond := secondOfFour_iff.mp h1
  unfold bits
  rw [length_encode_ofNat (by unfold Nat.isValidChar; omega), if_neg (by omega),
    if_neg (by omega), if_neg (by omega)]

/-- What stands at the head of a stream. -/
theorem nextPiece_sound (b : UInt8) (rest : Octets) :
    (nextPiece b rest).Sound (rest.length + 1) := by
  -- the ranges are those of the lead octet, as numbers
  have hle : ∀ x y : UInt8, x ≤ y ↔ x.toNat ≤ y.toNat := fun _ _ => UInt8.le_iff_toNat_le
  unfold nextPiece
  repeat' split
  -- No malformed sequence is longer than three octets; four kinds of characters are left.
  all_goals try exact ⟨by decide, by simp, by decide⟩
  · rename_i hascii
    rw [UInt8.lt_iff_toNat_lt] at hascii
    have hbound : b.toNat ≤ 127 := Nat.le_of_lt_succ hascii
    refine ⟨Nat.le_refl 1, Nat.le_add_left 1 _, ?_⟩
    rw [length_encode_ofNat (by unfold Nat.isValidChar; omega), if_pos hbound]
  · rename_i htwo _ b1 _ _
    simp only [hle] at htwo
    exact ⟨by decide, by simp, length_encode_two b1 htwo⟩
  · rename_i hthree _ _ hsecond _ b2 _ _
    simp only [hle] at hthree
    exact ⟨by decide, by simp, length_encode_three b2 hthree hsecond⟩
  · rename_i hfour _ _ hsecond _ b2 _ _ b3 _ _
    simp only [hle] at hfour
    exact ⟨by decide, by simp, length_encode_four b2 b3 hfour hsecond⟩

-- ---------------------------------------------------------------------------
-- From octets to the octets of their record
-- ---------------------------------------------------------------------------

/-- How many octets of the stream a piece is. -/
def Piece.length : Piece → Nat
  | char _ length | malformed length => length

/-- What is recorded of a piece. -/
def Piece.recorded : Piece → Char
  | char c _ => replaceNul c
  | malformed _ => replacementChar

/-- Whether the record of a piece takes up as many octets as the piece: it is a character other than
NUL, or a malformed sequence as long as a replacement character. -/
def Piece.Fits : Piece → Prop
  | char c _ => c ≠ '\x00'
  | malformed length => length = 3

instance (p : Piece) : Decidable p.Fits :=
  match p with
  | .char c _ => inferInstanceAs (Decidable (c ≠ '\x00'))
  | .malformed length => inferInstanceAs (Decidable (length = 3))

/-- The pieces of a stream, of which so many octets are still to be passed over. -/
def scan : Nat → Octets → List Piece
  | _, [] => []
  | skip + 1, _ :: rest => scan skip rest
  | 0, b :: rest => nextPiece b rest :: scan ((nextPiece b rest).length - 1) rest

/-- The lossy text, NULs replaced, is what the scan of the octets records. -/
theorem map_replaceNul_pieces (skip : Nat) (bytes : Octets) :
    (pieces id replacementChar skip bytes).map replaceNul
      = (scan skip bytes).map (·.recorded) := by
  -- on the scan, which goes through the octets as `pieces` does
  fun_induction scan skip bytes with
  | case1 => rfl
  | case2 skip b rest ih =>
    rw [pieces]
    exact ih
  | case3 b rest ih =>
    rw [pieces]
    cases hpiece : nextPiece b rest with
    | char c length =>
      rw [hpiece] at ih
      exact congrArg (replaceNul c :: ·) ih
    | malformed length =>
      rw [hpiece] at ih
      exact congrArg (replacementChar :: ·) ih

/-- The record of a piece takes up no less than the piece, no more only if it fits, and three times
as much at most. -/
theorem Piece.Sound.length_recorded {p : Piece} {available : Nat} (h : p.Sound available) :
    p.length ≤ (String.utf8EncodeChar p.recorded).length
      ∧ (String.utf8EncodeChar p.recorded).length ≤ 3 * p.length
      ∧ ((String.utf8EncodeChar p.recorded).length ≤ p.length ↔ p.Fits) := by
  have hthree : (String.utf8EncodeChar replacementChar).length = 3 := by decide
  cases p with
  | malformed length =>
    obtain ⟨hpos, -, hle⟩ := h
    simp only [Piece.length, Piece.recorded, Piece.Fits, hthree]
    omega
  | char c length =>
    obtain ⟨hpos, -, hlength⟩ := h
    simp only [Piece.length, Piece.recorded, Piece.Fits]
    -- NUL is the only character that grows: from one octet to three
    by_cases hnul : c = '\x00'
    · have hone : (String.utf8EncodeChar c).length = 1 := by rw [hnul]; decide
      rw [replaceNul, if_pos hnul, hthree]
      refine ⟨by omega, by omega, fun hle => by omega, fun hne => absurd hnul hne⟩
    · rw [replaceNul, if_neg hnul, hlength]
      exact ⟨Nat.le_refl _, by omega, fun _ => hnul, fun _ => Nat.le_refl _⟩

/-- How many octets the record of a stream takes up. -/
def recordLength (skip : Nat) (bytes : Octets) : Nat :=
  (((scan skip bytes).map (·.recorded)).flatMap String.utf8EncodeChar).length

/-- The record of a stream takes up no less than the stream, no more only if every piece fits, and
three times as much at most. -/
theorem recordLength_bounds (skip : Nat) (bytes : Octets) (h : skip ≤ bytes.length) :
    bytes.length - skip ≤ recordLength skip bytes
      ∧ recordLength skip bytes ≤ 3 * (bytes.length - skip)
      ∧ (recordLength skip bytes ≤ bytes.length - skip ↔ ∀ p ∈ scan skip bytes, p.Fits) := by
  fun_induction scan skip bytes with
  | case1 skip => simp [recordLength, scan]
  | case2 skip b rest ih =>
    rw [List.length_cons] at h ⊢
    rw [Nat.add_sub_add_right]
    exact ih (Nat.le_of_succ_le_succ h)
  | case3 b rest ih =>
    have hsound := nextPiece_sound b rest
    have hpiece := hsound.length_recorded
    have hlength : 1 ≤ (nextPiece b rest).length
        ∧ (nextPiece b rest).length ≤ rest.length + 1 := by
      revert hsound
      cases nextPiece b rest with
      | char c length => exact fun h => ⟨h.1, h.2.1⟩
      | malformed length => exact fun h => ⟨h.1, h.2.1⟩
    have hrest := ih (by omega)
    -- the record of the first piece, and that of what comes after it
    have hcons : recordLength 0 (b :: rest)
        = (String.utf8EncodeChar (nextPiece b rest).recorded).length
          + recordLength ((nextPiece b rest).length - 1) rest := by
      rw [recordLength, scan, List.map_cons, List.flatMap_cons, List.length_append]
      rfl
    rw [hcons, List.forall_mem_cons, List.length_cons, ← hpiece.2.2, ← hrest.2.2]
    omega

end Utf8

-- ---------------------------------------------------------------------------
-- Bodies beyond the limit
-- ---------------------------------------------------------------------------

/-- The octets that are kept of a body beyond the limit. -/
def keptOctets (bytes : Octets) : Octets :=
  bytes.take (maxSummaryBytes - (utf8 cutMark).length)

/-- The kept octets leave just room for the mark. -/
theorem length_keptOctets {bytes : Octets} (h : maxBodyBytes < bytes.length) :
    (keptOctets bytes).length = maxSummaryBytes - (utf8 cutMark).length := by
  have hroom : maxSummaryBytes - (utf8 cutMark).length ≤ maxBodyBytes := by decide
  rw [keptOctets, List.length_take]
  omega

/-- The text recorded of some octets. -/
def recordedText (bytes : Octets) : String :=
  String.ofList ((Utf8.scan 0 bytes).map (·.recorded))

/-- An oversized body is recorded as its kept octets and the mark. -/
theorem summarizeBody_of_oversized {bytes : Octets} (h : maxBodyBytes < bytes.length) :
    summarizeBody bytes = some (recordedText (keptOctets bytes) ++ cutMark) := by
  have hempty : bytes.isEmpty = false := by
    rw [List.isEmpty_eq_false_iff, ← List.length_pos_iff]
    omega
  have hmark : cutMark.toList.map replaceNul = cutMark.toList := by decide
  rw [summarizeBody, hempty, if_neg Bool.false_ne_true, if_pos h]
  simp only [lossyText, String.toList_ofList, List.map_append, hmark,
    Utf8.map_replaceNul_pieces, String.ofList_append, String.ofList_toList]
  rfl

/-- The length of a record is counted off the octets. -/
theorem length_record (bytes : Octets) :
    (utf8 (recordedText bytes ++ cutMark)).length
      = Utf8.recordLength 0 bytes + (utf8 cutMark).length := by
  simp only [utf8, recordedText, String.toList_append, String.toList_ofList, List.flatMap_append,
    List.length_append]
  rfl

/-- The record of a body beyond the limit ends with the mark. It takes up no less than the space of
a record, three times the kept octets and the mark at most, and keeps to its space exactly if every
piece of what is kept fits: no NUL is in it, and no malformed sequence but of three octets. -/
theorem oversized_summary (bytes : Octets) (h : maxBodyBytes < bytes.length) :
    ∃ beginning, summarizeBody bytes = some (beginning ++ cutMark)
      ∧ maxSummaryBytes ≤ (utf8 (beginning ++ cutMark)).length
      ∧ (utf8 (beginning ++ cutMark)).length
        ≤ 3 * (maxSummaryBytes - (utf8 cutMark).length) + (utf8 cutMark).length
      ∧ ((utf8 (beginning ++ cutMark)).length ≤ maxSummaryBytes
        ↔ ∀ p ∈ Utf8.scan 0 (keptOctets bytes), p.Fits) := by
  have hbounds := Utf8.recordLength_bounds 0 (keptOctets bytes) (Nat.zero_le _)
  have hspace : (utf8 cutMark).length ≤ maxSummaryBytes := by decide
  rw [length_keptOctets h, Nat.sub_zero] at hbounds
  refine ⟨recordedText (keptOctets bytes), summarizeBody_of_oversized h, ?_⟩
  rw [length_record, ← hbounds.2.2]
  omega

/-- A body of so many letters `a` and so many letters `é`. -/
def lettersBody (plain accented : Nat) : Octets :=
  utf8 (String.ofList (List.replicate plain 'a' ++ List.replicate accented 'é'))

theorem lettersBody_eq (plain accented : Nat) :
    lettersBody plain accented
      = List.replicate plain 97 ++ (List.replicate accented [195, 169]).flatten := by
  have hplain : String.utf8EncodeChar 'a' = [97] := by decide
  have haccented : String.utf8EncodeChar 'é' = [195, 169] := by decide
  rw [lettersBody, utf8, String.toList_ofList, List.flatMap_append]
  simp [List.flatMap_replicate, hplain, haccented]

/-- The accented letters take two octets each. -/
theorem length_lettersBody (plain accented : Nat) :
    (lettersBody plain accented).length = plain + 2 * accented := by
  simp [lettersBody_eq, Nat.mul_comm]

/-- What is taken of letters, where the cut goes through one with an accent. -/
theorem take_lettersBody (plain accented : Nat) :
    (lettersBody plain (accented + 1)).take (plain + 1) = List.replicate plain 97 ++ [195] := by
  rw [lettersBody_eq, List.replicate_succ, List.flatten_cons, List.take_append,
    List.length_replicate, List.take_of_length_le (by simp), Nat.add_sub_cancel_left]
  rfl

/-- Plain letters are read one by one. -/
theorem scan_replicate (n : Nat) (rest : Octets) :
    Utf8.scan 0 (List.replicate n 97 ++ rest)
      = List.replicate n (.char 'a' 1) ++ Utf8.scan 0 rest := by
  induction n with
  | zero => rfl
  | succ n ih =>
    rw [List.replicate_succ, List.replicate_succ, List.cons_append, List.cons_append, ← ih]
    rfl

/-- The record of a body of letters without accents keeps to its space. -/
theorem oversized_summary_plain :
    maxBodyBytes < (lettersBody 65537 0).length
    ∧ ∃ text, summarizeBody (lettersBody 65537 0) = some text
      ∧ (utf8 text).length ≤ maxSummaryBytes := by
  have hlength : maxBodyBytes < (lettersBody 65537 0).length := by
    rw [length_lettersBody]
    decide
  refine ⟨hlength, ?_⟩
  obtain ⟨beginning, hsummary, -, -, hfits⟩ := oversized_summary (lettersBody 65537 0) hlength
  refine ⟨_, hsummary, hfits.mpr fun p hp => ?_⟩
  rw [keptOctets, lettersBody_eq, List.replicate_zero, List.flatten_nil, List.append_nil,
    List.take_replicate, ← List.append_nil (List.replicate _ _), scan_replicate, Utf8.scan,
    List.append_nil] at hp
  rw [List.eq_of_mem_replicate hp]
  decide

/-- A letter with an accent that is cut in two takes the record beyond its space, though the body is
a text without a NUL. -/
theorem oversized_summary_beyond :
    maxBodyBytes < (lettersBody 1008 32265).length
    ∧ ∃ beginning, summarizeBody (lettersBody 1008 32265) = some (beginning ++ cutMark)
      ∧ maxSummaryBytes < (utf8 (beginning ++ cutMark)).length := by
  have hlength : maxBodyBytes < (lettersBody 1008 32265).length := by
    rw [length_lettersBody]
    decide
  refine ⟨hlength, _, summarizeBody_of_oversized hlength, ?_⟩
  have hspace : maxSummaryBytes - (utf8 cutMark).length = 1008 + 1 := by decide
  have htotal : maxSummaryBytes = 1008 + 1 + (utf8 cutMark).length := by decide
  have hkept : keptOctets (lettersBody 1008 32265) = List.replicate 1008 97 ++ [195] := by
    rw [keptOctets, hspace]
    exact take_lettersBody 1008 32264
  -- what is left of the letter is malformed, and takes three octets for one
  have hcut : Utf8.scan 0 [195] = [.malformed 1] := rfl
  have hbounds := Utf8.recordLength_bounds 0 (keptOctets (lettersBody 1008 32265)) (Nat.zero_le _)
  rw [length_keptOctets hlength, hspace, Nat.sub_zero, hkept, scan_replicate, hcut] at hbounds
  have hlonger : ¬ Utf8.recordLength 0 (List.replicate 1008 97 ++ [195]) ≤ 1008 + 1 := by
    intro hle
    have hfits := hbounds.2.2.mp hle (.malformed 1)
      (List.mem_append_right _ (List.mem_singleton.mpr rfl))
    exact absurd hfits (by decide)
  rw [length_record, hkept, htotal]
  omega

end WebhookDelivery
