import WebhookDelivery.Json
import WebhookDelivery.Text.Decimal
import WebhookDelivery.Text.Hex
import WebhookDelivery.Text.Numeral

/-!
# Reading JSON

The value that a text spells. Whole numbers of up to 64 bits are kept exactly, all other numbers
become the nearest floating-point one. Of two members of one name the later counts.
-/

namespace WebhookDelivery

namespace Json

-- ---------------------------------------------------------------------------
-- Numbers
-- ---------------------------------------------------------------------------

/-- The digits at the start of a text, and the rest. -/
def digits (cs : List Char) : List Char × List Char :=
  (cs.takeWhile Decimal.isDigit, cs.dropWhile Decimal.isDigit)

/-- The exponent at the start of a text, if one is there; `none` if it has no digits. -/
def readExponent : List Char → Option (Option Int × List Char)
  | c :: rest =>
    if c = 'e' ∨ c = 'E' then
      let (negative, rest) := match rest with
        | '-' :: rest => (true, rest)
        | '+' :: rest => (false, rest)
        | rest => (false, rest)
      let (ds, rest) := digits rest
      if ds.isEmpty then none
      else
        let n : Int := Decimal.read ds
        some (some (if negative then -n else n), rest)
    else some (none, c :: rest)
  | [] => some (none, [])

/-- The fraction at the start of a text, if one is there; `none` if it has no digits. -/
def readFraction : List Char → Option (Option (List Char) × List Char)
  | '.' :: rest =>
    let (ds, rest) := digits rest
    if ds.isEmpty then none else some (some ds, rest)
  | rest => some (none, rest)

/-- The number that a sign and the parts of a numeral write. -/
def number (negative : Bool) (whole : List Char) (fraction : Option (List Char))
    (exponent : Option Int) : Json :=
  let n := Decimal.read whole
  let outOfRange :=
    if negative then n = 0 || n > 9223372036854775808 else n ≥ 18446744073709551616
  if fraction.isSome || exponent.isSome || outOfRange then
    let fraction := fraction.getD []
    let x := Numeral.nearest (whole ++ fraction) (exponent.getD 0 - fraction.length)
    .float (if negative then -x else x)
  else .int (if negative then -(n : Int) else n)

/-- The number at the start of a text. -/
def readNumber (cs : List Char) : Option (Json × List Char) := do
  let (negative, cs) := match cs with
    | '-' :: rest => (true, rest)
    | cs => (false, cs)
  let (whole, rest) := digits cs
  if whole.isEmpty then none
  let (fraction, rest) ← readFraction rest
  let (exponent, rest) ← readExponent rest
  return (number negative whole fraction exponent, rest)

-- ---------------------------------------------------------------------------
-- Strings
-- ---------------------------------------------------------------------------

/-- The character of a two-unit escape. -/
def ofSurrogates (high low : Nat) : Char :=
  Char.ofNat (0x10000 + (high - 0xd800) * 0x400 + (low - 0xdc00))

/-- The character of a one-letter escape. -/
def escaped? : Char → Option Char
  | '"' => some '"'
  | '\\' => some '\\'
  | '/' => some '/'
  | 'b' => some '\x08'
  | 'f' => some '\x0c'
  | 'n' => some '\n'
  | 'r' => some '\r'
  | 't' => some '\t'
  | _ => none

/-- The rest of a string whose characters so far are given in reverse. -/
def readString (read : List Char) : List Char → Option (String × List Char)
  | '"' :: rest => some (String.ofList read.reverse, rest)
  | '\\' :: 'u' :: a :: b :: c :: d :: '\\' :: 'u' :: e :: f :: g :: h :: rest => do
    let first ← Hex.read? [a, b, c, d]
    if 0xd800 ≤ first ∧ first < 0xdc00 then
      let second ← Hex.read? [e, f, g, h]
      readString (ofSurrogates first second :: read) rest
    else readString (Char.ofNat first :: read) ('\\' :: 'u' :: e :: f :: g :: h :: rest)
  | '\\' :: 'u' :: a :: b :: c :: d :: rest => do
    readString (Char.ofNat (← Hex.read? [a, b, c, d]) :: read) rest
  | '\\' :: c :: rest => do readString ((← escaped? c) :: read) rest
  | c :: rest => readString (c :: read) rest
  | [] => none

-- ---------------------------------------------------------------------------
-- Values
-- ---------------------------------------------------------------------------

/-- A text without the blanks at its start. -/
def skipBlanks (cs : List Char) : List Char :=
  cs.dropWhile fun c => c = ' ' || c = '\n' || c = '\t' || c = '\r'

/-- The text after a given character, which must come next. -/
def after? (c : Char) (cs : List Char) : Option (List Char) :=
  match skipBlanks cs with
  | d :: rest => if d = c then some rest else none
  | [] => none

mutual

/-- The value at the start of a text. The first argument bounds the depth and breadth that are
read; the length of the text is enough. -/
def readValue : Nat → List Char → Option (Json × List Char)
  | 0, _ => none
  | fuel + 1, cs =>
    match skipBlanks cs with
    | '"' :: rest => do
      let (s, rest) ← readString [] rest
      return (.str s, rest)
    | '[' :: rest =>
      match skipBlanks rest with
      | ']' :: rest => some (.arr [], rest)
      | rest => readItems fuel [] rest
    | '\x7b' :: rest =>
      match skipBlanks rest with
      | '\x7d' :: rest => some (.obj [], rest)
      | rest => readMembers fuel [] rest
    | 't' :: 'r' :: 'u' :: 'e' :: rest => some (.bool true, rest)
    | 'f' :: 'a' :: 'l' :: 's' :: 'e' :: rest => some (.bool false, rest)
    | 'n' :: 'u' :: 'l' :: 'l' :: rest => some (.null, rest)
    | cs => readNumber cs

/-- The rest of an array whose items so far are given in reverse. -/
def readItems : Nat → List Json → List Char → Option (Json × List Char)
  | 0, _, _ => none
  | fuel + 1, read, cs => do
    let (v, rest) ← readValue fuel cs
    match skipBlanks rest with
    | ',' :: rest => readItems fuel (v :: read) rest
    | ']' :: rest => return (.arr (v :: read).reverse, rest)
    | _ => none

/-- The rest of an object whose members so far are given in reverse. -/
def readMembers : Nat → List (String × Json) → List Char → Option (Json × List Char)
  | 0, _, _ => none
  | fuel + 1, read, cs => do
    let rest ← after? '"' cs
    let (name, rest) ← readString [] rest
    let rest ← after? ':' rest
    let (v, rest) ← readValue fuel rest
    let read := (name, v) :: read.filter (·.1 ≠ name)
    match skipBlanks rest with
    | ',' :: rest => readMembers fuel read rest
    | '\x7d' :: rest => return (.obj read.reverse, rest)
    | _ => none

end

/-- The value that a text spells. -/
def ofText? (s : String) : Option Json := do
  let cs := s.toList
  let (v, rest) ← readValue (2 * cs.length + 1) cs
  if (skipBlanks rest).isEmpty then some v else none

end Json

end WebhookDelivery
