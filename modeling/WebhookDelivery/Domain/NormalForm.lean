import WebhookDelivery.Unicode.Composition

/-!
# Canonical composition

Unicode's normal form C: a text is taken apart into base characters and marks, the marks on each
base are put into order, and what belongs together is composed again.
-/

namespace WebhookDelivery.Domain

open Unicode

-- ---------------------------------------------------------------------------
-- Hangul syllables
-- ---------------------------------------------------------------------------

/-- The first syllable. -/
def hangulStart : Nat := 0xac00

/-- Syllables with one leading consonant. -/
def hangulPerLead : Nat := 588

/-- The parts of a syllable: a leading consonant, a vowel and perhaps a trailing consonant. -/
def hangulParts (c : Nat) : List Nat :=
  let i := c - hangulStart
  let lead := 0x1100 + i / hangulPerLead
  let vowel := 0x1161 + i % hangulPerLead / 28
  if i % 28 = 0 then [lead, vowel] else [lead, vowel, 0x11a7 + i % 28]

/-- The syllable that two parts make, or that a syllable without a trailing consonant makes with
one. -/
def hangulPair? (a b : Nat) : Option Nat :=
  if 0x1100 ≤ a ∧ a < 0x1113 ∧ 0x1161 ≤ b ∧ b < 0x1176 then
    some (hangulStart + (a - 0x1100) * hangulPerLead + (b - 0x1161) * 28)
  else if hangulStart ≤ a ∧ a < hangulStart + 11172 ∧ (a - hangulStart) % 28 = 0
      ∧ 0x11a7 < b ∧ b < 0x11c3 then
    some (a + (b - 0x11a7))
  else none

-- ---------------------------------------------------------------------------
-- Taking apart
-- ---------------------------------------------------------------------------

/-- The full decomposition of a code point. -/
def decompose (c : Nat) : List Nat :=
  if hangulStart ≤ c ∧ c < hangulStart + 11172 then hangulParts c
  else match decompositions.find? c with
    | some (_, parts) => parts
    | none => [c]

/-- The class that orders marks; zero for what is no reordered mark. -/
def combiningClass (c : Nat) : Nat :=
  match combiningClasses.find? c with
  | some (_, n) => n
  | none => 0

/-- Puts a mark before those of a higher class at the end of a reversed text. -/
def placeMark (c k : Nat) : List (Nat × Nat) → List (Nat × Nat)
  | [] => [(c, k)]
  | (d, l) :: earlier =>
    if k < l ∧ k ≠ 0 then (d, l) :: placeMark c k earlier else (c, k) :: (d, l) :: earlier

/-- Code points with their classes, the marks on each base in order. -/
def orderMarks (cs : List Nat) : List (Nat × Nat) :=
  (cs.foldl (fun placed c => placeMark c (combiningClass c) placed) []).reverse

-- ---------------------------------------------------------------------------
-- Putting together
-- ---------------------------------------------------------------------------

/-- A pair as one number, in the order of the table. -/
def pairKey (a b : Nat) : Nat := a * 0x200000 + b

/-- The pairs of the table with what they compose into. -/
def pairs : List (Nat × Nat) :=
  (entriesOf compositionText).filterMap fun entry =>
    match entry.splitOn ":" with
    | [pair, composite] =>
      match pair.splitOn "+" with
      | [a, b] => some (pairKey (readHex a) (readHex b), readHex composite)
      | _ => none
    | _ => none

/-- The keys of the pairs, ascending. -/
def pairKeys : Array Nat := (pairs.map (·.1)).toArray

/-- The composites in the order of their keys. -/
def composites : Array Nat := (pairs.map (·.2)).toArray

/-- What two code points compose into. -/
def composePair? (a b : Nat) : Option Nat :=
  match hangulPair? a b with
  | some syllable => some syllable
  | none =>
    match rank pairKeys (pairKey a b) with
    | 0 => none
    | i + 1 => if pairKeys[i]? = some (pairKey a b) then composites[i]? else none

/-- Composes from a base on: `marks` are those after it that stayed apart, in reverse, and
`last` is the class of the latest one. -/
def composeFrom (base : Nat) (marks : List Nat) (last : Nat) : List (Nat × Nat) → List Nat
  | [] => base :: marks.reverse
  | (c, k) :: rest =>
    let reaches := marks.isEmpty || last < k
    match if reaches then composePair? base c else none with
    | some composite => composeFrom composite marks last rest
    | none =>
      if k = 0 then base :: marks.reverse ++ composeFrom c [] 0 rest
      else composeFrom base (c :: marks) k rest

/-- Composes a text with ordered marks. -/
def compose : List (Nat × Nat) → List Nat
  | [] => []
  | (c, k) :: rest => if k = 0 then composeFrom c [] 0 rest else c :: compose rest

/-- The text in normal form C. A text of Latin letters, which come before U+0300, and Han characters
is in it already. -/
def normalForm (cs : List Char) : List Char :=
  if cs.all (fun c => c.toNat < 0x300 || isHan c) then cs
  else (compose (orderMarks (cs.flatMap fun c => decompose c.toNat))).map Char.ofNat

end WebhookDelivery.Domain
