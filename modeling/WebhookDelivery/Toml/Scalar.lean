import WebhookDelivery.Instant.Calendar
import WebhookDelivery.Json
import WebhookDelivery.Text.Hex
import WebhookDelivery.Text.Numeral

/-!
# TOML scalars

What a bare word in the place of a value means: a truth value, a whole number of 64 bits in one of
four bases, a floating-point number, or a date or time. Single underscores may stand between
digits.
-/

namespace WebhookDelivery.Toml

-- ---------------------------------------------------------------------------
-- Numbers
-- ---------------------------------------------------------------------------

/-- The digits of a row in which single underscores may stand between digits. -/
def digitRow? (isDigit : Char → Bool) : List Char → Option (List Char)
  | [] => none
  | [c] => if isDigit c then some [c] else none
  | c :: '_' :: rest => if isDigit c then (digitRow? isDigit rest).map (c :: ·) else none
  | c :: rest => if isDigit c then (digitRow? isDigit rest).map (c :: ·) else none

/-- A row of decimal digits that starts with a zero only if that is all of it. -/
def wholeRow? (cs : List Char) : Option (List Char) :=
  match digitRow? Decimal.isDigit cs with
  | some ('0' :: _ :: _) => none
  | row => row

/-- A whole number, if it fits a signed 64-bit word. -/
def int64? (n : Int) : Option Json :=
  if -9223372036854775808 ≤ n ∧ n ≤ 9223372036854775807 then some (.int n) else none

/-- Whether a character is a digit of a base of at most sixteen. -/
def isDigitOf (base : Nat) (c : Char) : Bool :=
  (Hex.value? c).any (· < base)

/-- The number that a row of digits writes in a base. -/
def readBase (base : Nat) (digits : List Char) : Nat :=
  digits.foldl (fun n c => n * base + (Hex.value? c).getD 0) 0

/-- A whole number in a base that its mark names. -/
def based? (base : Nat) (cs : List Char) : Option Json :=
  (digitRow? (isDigitOf base) cs).bind fun digits => int64? (readBase base digits)

/-- A whole number. -/
def integer? : List Char → Option Json
  | '0' :: 'x' :: cs => based? 16 cs
  | '0' :: 'o' :: cs => based? 8 cs
  | '0' :: 'b' :: cs => based? 2 cs
  | cs =>
    let (negative, cs) := splitSign cs
    (wholeRow? cs).bind fun digits =>
      int64? (if negative then -(Decimal.read digits) else Decimal.read digits)

/-- A part that may be missing, but must be right if it is there. -/
def part? {α : Type} (read : α → Option α) : Option α → Option (Option α)
  | none => some none
  | some a => (read a).map some

/-- A floating-point number with a fraction, an exponent or both. None is too great to be told
from infinity. -/
def float? (cs : List Char) : Option Json := do
  let n := Numeral.split cs
  if n.fraction.isNone && n.exponent.isNone then none
  let whole ← wholeRow? n.whole
  let fraction ← part? (digitRow? Decimal.isDigit) n.fraction
  let exponent ← part? (fun (negative, cs) => (digitRow? Decimal.isDigit cs).map (negative, ·))
    n.exponent
  let x := Numeral.toFloat { negative := n.negative, whole, fraction, exponent }
  if x == 1.0 / 0.0 then none else some (.float x)

/-- A number that no digits write. -/
def special? (cs : List Char) : Option Json :=
  let (negative, name) := splitSign cs
  let signed (x : Float) : Json := .float (if negative then -x else x)
  if name = ['i', 'n', 'f'] then some (signed (1.0 / 0.0))
  else if name = ['n', 'a', 'n'] then some (signed (0.0 / 0.0))
  else none

-- ---------------------------------------------------------------------------
-- Dates and times
-- ---------------------------------------------------------------------------

/-- The number that exactly two digits write. -/
def two? : List Char → Option Nat
  | [a, b] => if Decimal.isDigit a && Decimal.isDigit b then some (Decimal.read [a, b]) else none
  | _ => none

/-- Whether two digits write a number of at most this value. -/
def isUpTo (most : Nat) (cs : List Char) : Bool :=
  (two? cs).any (· ≤ most)

/-- Whether a text is a day of the calendar, as in `1979-05-27`. -/
def isDate : List Char → Bool
  | [y1, y2, y3, y4, '-', m1, m2, '-', d1, d2] =>
    [y1, y2, y3, y4].all Decimal.isDigit && (two? [m1, m2]).any fun month =>
      (two? [d1, d2]).any fun day => Date.exists? ⟨Decimal.read [y1, y2, y3, y4], month, day⟩
  | _ => false

/-- Whether a text is nothing or a fraction of a second. -/
def isFraction : List Char → Bool
  | [] => true
  | '.' :: ds => !ds.isEmpty && ds.all Decimal.isDigit
  | _ => false

/-- Whether a text is a time of day, as in `07:32:00.5`; a minute may have a leap second. -/
def isTime : List Char → Bool
  | h1 :: h2 :: ':' :: m1 :: m2 :: ':' :: s1 :: s2 :: fraction =>
    isUpTo 23 [h1, h2] && isUpTo 59 [m1, m2] && isUpTo 60 [s1, s2] && isFraction fraction
  | _ => false

/-- Whether a text is an offset from UTC. -/
def isOffset : List Char → Bool
  | ['Z'] => true
  | ['z'] => true
  | [sign, h1, h2, ':', m1, m2] =>
    (sign = '+' || sign = '-') && isUpTo 23 [h1, h2] && isUpTo 59 [m1, m2]
  | _ => false

/-- Whether a text is a time of day with or without an offset. -/
def isTimeOrOffsetTime (cs : List Char) : Bool :=
  let startsOffset (c : Char) : Bool := c = 'Z' || c = 'z' || c = '+' || c = '-'
  let offset := cs.dropWhile (!startsOffset ·)
  isTime (cs.takeWhile (!startsOffset ·)) && (offset.isEmpty || isOffset offset)

/-- Whether a text is a date, a time, or both with a letter between them. -/
def isDateOrTime (cs : List Char) : Bool :=
  isDate cs || isTime cs
    || match cs.drop 10 with
      | mark :: time => (mark = 'T' || mark = 't') && isDate (cs.take 10) && isTimeOrOffsetTime time
      | [] => false

/-- What a date or time is read as: it is neither text nor number. -/
def moment : Json :=
  .obj []

-- ---------------------------------------------------------------------------
-- Words
-- ---------------------------------------------------------------------------

/-- The meaning of a bare word. -/
def ofWord? (cs : List Char) : Option Json :=
  if cs = "true".toList then some (.bool true)
  else if cs = "false".toList then some (.bool false)
  else if isDateOrTime cs then some moment
  else (special? cs).or ((integer? cs).or (float? cs))

/-- Whether a character ends a bare word. -/
def endsWord (c : Char) : Bool :=
  c = ' ' || c = '\t' || c = '\n' || c = '\r' || c = ',' || c = ']' || c = '\x7d' || c = '#'

/-- The scalar at the start of a text. A date and a time may have a space between them. -/
def readScalar (cs : List Char) : Option (Json × List Char) :=
  let word := cs.takeWhile (!endsWord ·)
  let rest := cs.dropWhile (!endsWord ·)
  match rest with
  | ' ' :: after =>
    let second := after.takeWhile (!endsWord ·)
    if isDate word && isTimeOrOffsetTime second then
      some (moment, after.dropWhile (!endsWord ·))
    else (ofWord? word).map (·, rest)
  | _ => (ofWord? word).map (·, rest)

end WebhookDelivery.Toml
