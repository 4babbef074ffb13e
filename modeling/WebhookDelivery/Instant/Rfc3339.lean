import WebhookDelivery.Instant
import WebhookDelivery.Instant.Calendar
import WebhookDelivery.Text.Blank
import WebhookDelivery.Text.Decimal

/-!
# Date and time text

Instants are written as RFC 3339 in UTC, with as many groups of three fraction digits as they
need. Years outside 0 to 9999 carry a sign.

The reader is lenient: blanks may stand before every number, numbers may have fewer digits, the
fraction may have more than nine digits (the rest is dropped), and the zone may be `UTC` or an
offset with or without a colon.
-/

namespace WebhookDelivery

-- ---------------------------------------------------------------------------
-- Writing
-- ---------------------------------------------------------------------------

/-- A year: four digits, or a sign and at least four digits. -/
def yearText (year : Int) : List Char :=
  if 0 ≤ year ∧ year ≤ 9999 then Decimal.padded 4 year.toNat
  else (if year < 0 then '-' else '+') :: Decimal.padded 4 year.natAbs

/-- Nanoseconds as a fraction of three, six or nine digits, or as nothing. -/
def fractionText (nanos : Nat) : List Char :=
  if nanos = 0 then []
  else if nanos % 1000000 = 0 then '.' :: Decimal.lowDigits 3 (nanos / 1000000)
  else if nanos % 1000 = 0 then '.' :: Decimal.lowDigits 6 (nanos / 1000)
  else '.' :: Decimal.lowDigits 9 nanos

/-- The characters of an instant's text. -/
def Instant.chars (t : Instant) : List Char :=
  let date := Date.ofDays (t.seconds / 86400)
  let ofDay := (t.seconds % 86400).toNat
  let second := ofDay % 60 + t.nanos / 1000000000
  yearText date.year ++ '-' :: Decimal.lowDigits 2 date.month.toNat
    ++ '-' :: Decimal.lowDigits 2 date.day.toNat
    ++ 'T' :: Decimal.lowDigits 2 (ofDay / 3600)
    ++ ':' :: Decimal.lowDigits 2 (ofDay / 60 % 60)
    ++ ':' :: Decimal.lowDigits 2 second
    ++ fractionText (t.nanos % 1000000000) ++ ['Z']

/-- An instant in UTC. -/
def Instant.text (t : Instant) : String :=
  String.ofList t.chars

-- ---------------------------------------------------------------------------
-- Reading
-- ---------------------------------------------------------------------------

namespace Rfc3339

/-- Passes over blanks. -/
def skipBlanks (cs : List Char) : List Char :=
  cs.dropWhile isBlank

/-- The value of the leading digits, at least `least` and at most `most` of them, and the rest. -/
def number? (least most : Nat) (cs : List Char) : Option (Nat × List Char) :=
  let digits := (cs.take most).takeWhile Decimal.isDigit
  if digits.length < least then none else some (Decimal.read digits, cs.drop digits.length)

/-- A number after optional blanks. -/
def field? (least most : Nat) (cs : List Char) : Option (Nat × List Char) :=
  number? least most (skipBlanks cs)

/-- The rest after one expected character. -/
def mark? (c : Char) (cs : List Char) : Option (List Char) :=
  match cs with
  | d :: rest => if d = c then some rest else none
  | [] => none

/-- A year: one to four digits, or a sign and any number of digits. -/
def year? (cs : List Char) : Option (Int × List Char) :=
  match skipBlanks cs with
  | '-' :: rest => (number? 1 rest.length rest).map fun (n, more) => (-(n : Int), more)
  | '+' :: rest => (number? 1 rest.length rest).map fun (n, more) => ((n : Int), more)
  | rest => (number? 1 4 rest).map fun (n, more) => ((n : Int), more)

/-- The fraction after a point, in nanoseconds; nothing if there is no point. -/
def fraction? (cs : List Char) : Option (Nat × List Char) :=
  match cs with
  | '.' :: rest =>
    (number? 1 9 rest).map fun (n, more) =>
      let used := rest.length - more.length
      (n * Nat.pow 10 (9 - used), more.dropWhile Decimal.isDigit)
  | _ => some (0, cs)

/-- Whether a character may stand between the hours and minutes of an offset. -/
def isOffsetGap (c : Char) : Bool :=
  c = ':' || isBlank c

/-- An offset from UTC in seconds: `UTC`, `Z`, or a sign with hours and minutes. -/
def offset? (cs : List Char) : Option (Int × List Char) :=
  match cs with
  | a :: b :: c :: rest =>
    if a.toLower = 'u' ∧ b.toLower = 't' ∧ c.toLower = 'c' then some (0, rest) else zone? cs
  | _ => zone? cs
where
  /-- Hours, a gap and minutes. -/
  clockFace? (sign : Int) (cs : List Char) : Option (Int × List Char) := do
    let (hours, cs) ← number? 2 2 cs
    let (minutes, cs) ← number? 2 2 (cs.dropWhile isOffsetGap)
    if 60 ≤ minutes then none else some (sign * (hours * 3600 + minutes * 60), cs)
  /-- An offset other than `UTC`. -/
  zone? (cs : List Char) : Option (Int × List Char) :=
    match cs with
    | 'Z' :: rest => some (0, rest)
    | 'z' :: rest => some (0, rest)
    | '+' :: rest => clockFace? 1 rest
    | '-' :: rest => clockFace? (-1) rest
    | '−' :: rest => clockFace? (-1) rest
    | _ => none

/-- The instant of a date and a time of day at an offset. -/
def assemble? (date : Date) (hour minute second nanos : Nat) (offset : Int) : Option Instant :=
  if !date.exists? || 24 ≤ hour || 60 ≤ minute || 61 ≤ second then none
  else if date.year < -262143 ∨ 262142 < date.year then none
  else if offset ≤ -86400 ∨ 86400 ≤ offset then none
  else
    let leap := second = 60
    let second := if leap then 59 else second
    let nanos := if leap then nanos + 1000000000 else nanos
    let ofDay : Int := hour * 3600 + minute * 60 + second
    Instant.of? (date.toDays * 86400 + ofDay - offset) nanos

end Rfc3339

open Rfc3339 in
/-- The instant that characters write, or `none`. -/
def Instant.read? (cs : List Char) : Option Instant := do
  let (year, cs) ← year? cs
  let cs ← mark? '-' (skipBlanks cs)
  let (month, cs) ← field? 1 2 cs
  let cs ← mark? '-' (skipBlanks cs)
  let (day, cs) ← field? 1 2 cs
  let (separator, cs) ← match cs with
    | c :: rest => some (c, rest)
    | [] => none
  if separator ≠ 'T' ∧ separator ≠ 't' ∧ separator ≠ ' ' then none else
  let (hour, cs) ← field? 1 2 cs
  let cs ← mark? ':' (skipBlanks cs)
  let (minute, cs) ← field? 1 2 cs
  let cs ← mark? ':' (skipBlanks cs)
  let (second, cs) ← field? 1 2 cs
  let (nanos, cs) ← fraction? cs
  let (offset, cs) ← offset? (skipBlanks cs)
  if skipBlanks cs ≠ [] then none else
  assemble? ⟨year, month, day⟩ hour minute second nanos offset

/-- The instant that a text writes, or `none`. -/
def Instant.ofText? (s : String) : Option Instant :=
  Instant.read? s.toList

end WebhookDelivery
