/-!
# Reading octets as text

Octets from outside need not be UTF-8. The strict reading fails on the first malformed sequence;
the lossy one puts the replacement character in place of every maximal prefix of a sequence that
cannot be completed, so that it always yields a text.
-/

namespace WebhookDelivery

/-- Octets as they travel: payloads, bodies, keys. -/
abbrev Octets := List UInt8

/-- The UTF-8 octets of a text. -/
def utf8 (s : String) : Octets :=
  s.toList.flatMap String.utf8EncodeChar

namespace Utf8

/-- What the next octets of a stream are: a character with its length, or a malformed prefix of
some length (at least one). -/
inductive Piece where
  | char (c : Char) (length : Nat)
  | malformed (length : Nat)

/-- Whether an octet continues a sequence. -/
def continues (b : UInt8) : Bool :=
  0x80 ≤ b && b ≤ 0xbf

/-- The six payload bits of a continuing octet. -/
def bits (b : UInt8) : Nat :=
  b.toNat % 64

/-- The octets that may follow the first one of a three-octet sequence. -/
def secondOfThree (b0 b1 : UInt8) : Bool :=
  if b0 = 0xe0 then 0xa0 ≤ b1 && b1 ≤ 0xbf
  else if b0 = 0xed then 0x80 ≤ b1 && b1 ≤ 0x9f
  else continues b1

/-- The octets that may follow the first one of a four-octet sequence. -/
def secondOfFour (b0 b1 : UInt8) : Bool :=
  if b0 = 0xf0 then 0x90 ≤ b1 && b1 ≤ 0xbf
  else if b0 = 0xf4 then 0x80 ≤ b1 && b1 ≤ 0x8f
  else continues b1

/-- The piece at the head of a non-empty stream. A malformed piece is the longest prefix of a
well-formed sequence that is present, or one octet that begins none. -/
def nextPiece (b0 : UInt8) (rest : Octets) : Piece :=
  if b0 < 0x80 then .char (Char.ofNat b0.toNat) 1
  else if 0xc2 ≤ b0 ∧ b0 ≤ 0xdf then
    match rest with
    | b1 :: _ =>
      if continues b1 then .char (Char.ofNat ((b0.toNat % 32) * 64 + bits b1)) 2 else .malformed 1
    | [] => .malformed 1
  else if 0xe0 ≤ b0 ∧ b0 ≤ 0xef then
    match rest with
    | b1 :: more =>
      if secondOfThree b0 b1 then
        match more with
        | b2 :: _ =>
          if continues b2 then
            .char (Char.ofNat ((b0.toNat % 16) * 4096 + bits b1 * 64 + bits b2)) 3
          else .malformed 2
        | [] => .malformed 2
      else .malformed 1
    | [] => .malformed 1
  else if 0xf0 ≤ b0 ∧ b0 ≤ 0xf4 then
    match rest with
    | b1 :: more =>
      if secondOfFour b0 b1 then
        match more with
        | b2 :: evenMore =>
          if continues b2 then
            match evenMore with
            | b3 :: _ =>
              if continues b3 then
                .char (Char.ofNat
                  ((b0.toNat % 8) * 262144 + bits b1 * 4096 + bits b2 * 64 + bits b3)) 4
              else .malformed 3
            | [] => .malformed 3
          else .malformed 2
        | [] => .malformed 2
      else .malformed 1
    | [] => .malformed 1
  else .malformed 1

/-- The stream with each piece put through `onChar` or, if malformed, replaced by `onBad`. The
first argument counts octets of the current piece that are still to be passed over. -/
def pieces {α : Type} (onChar : Char → α) (onBad : α) : Nat → Octets → List α
  | _, [] => []
  | skip + 1, _ :: rest => pieces onChar onBad skip rest
  | 0, b :: rest =>
    match nextPiece b rest with
    | .char c length => onChar c :: pieces onChar onBad (length - 1) rest
    | .malformed length => onBad :: pieces onChar onBad (length - 1) rest

end Utf8

/-- The character that stands for what could not be read. -/
def replacementChar : Char := '\uFFFD'

/-- The text of octets, with the replacement character for what is not UTF-8. -/
def lossyText (bytes : Octets) : String :=
  String.ofList (Utf8.pieces id replacementChar 0 bytes)

/-- The text of octets, if they are UTF-8 throughout. -/
def strictText? (bytes : Octets) : Option String :=
  ((Utf8.pieces some none 0 bytes).mapM id).map String.ofList

end WebhookDelivery
