import WebhookDelivery.Domain.Mapping
import WebhookDelivery.Domain.NormalForm
import WebhookDelivery.Domain.Punycode
import WebhookDelivery.Unicode.Direction
import WebhookDelivery.Unicode.Joining
import WebhookDelivery.Unicode.Marks

/-!
# Domain names

An internationalised domain name is brought into the ASCII form that goes on the wire, as UTS #46
says: characters are mapped, the text is composed, and each label is checked and written in
Punycode if it needs to be. A name in which a label fails a check has no ASCII form.
-/

namespace WebhookDelivery.Domain

open Unicode

-- ---------------------------------------------------------------------------
-- Characters
-- ---------------------------------------------------------------------------

/-- ASCII characters that no host name may hold: controls, the space and URL delimiters. -/
def isForbidden (c : Char) : Bool :=
  c.toNat ≤ 0x20 || c.toNat == 0x7f || "%#/:<>?@[\\]^|".toList.contains c

/-- Whether a text is ASCII throughout. -/
def isAscii (cs : List Char) : Bool :=
  cs.all (·.toNat < 0x80)

/-- A text cut at its points. -/
def splitLabels (cs : List Char) : List (List Char) :=
  cs.foldr (fun c labels =>
    if c = '.' then [] :: labels
    else match labels with
      | label :: others => (c :: label) :: others
      | [] => [[c]]) [[]]

-- ---------------------------------------------------------------------------
-- Joiners
-- ---------------------------------------------------------------------------

/-- Whether the characters before, the nearest first, join on towards what follows. -/
def joinsForward (before : List Char) : Bool :=
  match before.dropWhile joinsThrough.contains with
  | c :: _ => joinsLeft.contains c || joinsBothSides.contains c
  | [] => false

/-- Whether the characters after join back towards what precedes. -/
def joinsBack (after : List Char) : Bool :=
  match after.dropWhile joinsThrough.contains with
  | c :: _ => joinsRight.contains c || joinsBothSides.contains c
  | [] => false

/-- The zero-width non-joiner. -/
def nonJoiner : Char := '\u200c'

/-- The zero-width joiner. -/
def joiner : Char := '\u200d'

/-- Every joiner stands where it shows: after a virama, or, if it parts what would join, between
two characters that join. The first argument is what comes before, the nearest first. -/
def joinersShow : List Char → List Char → Bool
  | _, [] => true
  | before, c :: after =>
    (if c = joiner then before.head?.any viramas.contains
     else if c = nonJoiner then
       before.head?.any viramas.contains || (joinsForward before && joinsBack after)
     else true)
    && joinersShow (c :: before) after

-- ---------------------------------------------------------------------------
-- Direction
-- ---------------------------------------------------------------------------

/-- Whether a class makes a name one of mixed direction. -/
def isRightward (d : Direction) : Bool :=
  d = .rightToLeft || d = .arabicLetter || d = .arabicNumber

/-- Classes that may stand in a label that begins left to right. -/
def mayStandLeftToRight (d : Direction) : Bool :=
  [.leftToRight, .europeanNumber, .europeanSeparator, .commonSeparator, .europeanTerminator,
    .otherNeutral, .boundaryNeutral, .nonspacingMark].contains d

/-- Classes that may stand in a label that begins right to left. -/
def mayStandRightToLeft (d : Direction) : Bool :=
  [.rightToLeft, .arabicLetter, .arabicNumber, .europeanNumber, .europeanSeparator,
    .commonSeparator, .europeanTerminator, .otherNeutral, .boundaryNeutral,
    .nonspacingMark].contains d

/-- The rule of RFC 5893 for a label of a name of mixed direction. -/
def directionsAgree (label : List Char) : Bool :=
  let classes := label.map Direction.of
  let last? := (classes.reverse.dropWhile (· = .nonspacingMark)).head?
  match classes.head? with
  | none => true
  | some .leftToRight =>
    classes.all mayStandLeftToRight
      && last?.any fun d => d = .leftToRight || d = .europeanNumber
  | some first =>
    (first = .rightToLeft || first = .arabicLetter) && classes.all mayStandRightToLeft
      && (last?.any fun d => d = .rightToLeft || d = .arabicLetter || d = .europeanNumber
        || d = .arabicNumber)
      && !(classes.contains .europeanNumber && classes.contains .arabicNumber)

-- ---------------------------------------------------------------------------
-- Labels
-- ---------------------------------------------------------------------------

/-- How a label in Punycode begins. -/
def asciiMark : List Char := "xn--".toList

/-- How many characters a label beyond ASCII may have: Punycode takes time in the square of it. -/
def maxLength : Nat := 1000

/-- Checks on a label with characters beyond ASCII. -/
def isSound (label : List Char) : Bool :=
  label.length ≤ maxLength && !label.head?.any isMark && joinersShow [] label

/-- The label as its readers see it: one in Punycode is decoded, and what it decodes to must be a
label that Punycode is needed for and that mapping leaves alone. -/
def unicodeLabel? (label : List Char) : Option (List Char) :=
  if asciiMark.isPrefixOf label then
    let code := label.drop 4
    if !isAscii code || 2000 < code.length then none
    else do
      let decoded ← Punycode.decode? code
      if isAscii decoded || mapText? decoded ≠ some decoded || normalForm decoded ≠ decoded
        || !isSound decoded then none
      else some decoded
  else if isAscii label || isSound label then some label else none

/-- The label as it goes on the wire. -/
def asciiLabel (label : List Char) : List Char :=
  if isAscii label then label else asciiMark ++ Punycode.encode label

/-- The ASCII form of a name, or `none`. -/
def toAscii? (name : List Char) : Option (List Char) := do
  let mapped := normalForm (← mapText? name)
  if mapped.any isForbidden then none
  else
    let labels := splitLabels mapped
    let shown ← labels.mapM unicodeLabel?
    if shown.any (·.any fun c => isRightward (Direction.of c)) && !shown.all directionsAgree then none
    else return List.intercalate ['.'] (labels.map asciiLabel)

end WebhookDelivery.Domain
