import WebhookDelivery.Text.Decimal

/-!
# Numerals

A numeral has a sign, digits before and after a point, and an exponent. Here it is taken apart, and
the floating-point number nearest to it is found. What may be missing and what may stand between
the digits is for the formats to say that use it.
-/

namespace WebhookDelivery

/-- The parts of a numeral. -/
structure Numeral where
  negative : Bool
  /-- What stands before the point. -/
  whole : List Char
  /-- What follows the point, if there is one. -/
  fraction : Option (List Char)
  /-- Whether the exponent is negative, and what follows its sign, if there is one. -/
  exponent : Option (Bool × List Char)
  deriving DecidableEq, Repr

/-- Whether a text starts with a minus sign, and what follows its sign. -/
def splitSign : List Char → Bool × List Char
  | '-' :: rest => (true, rest)
  | '+' :: rest => (false, rest)
  | cs => (false, cs)

/-- Whether a character starts an exponent. -/
def isExponentMark (c : Char) : Bool :=
  c = 'e' || c = 'E'

namespace Numeral

/-- Takes a text apart. -/
def split (cs : List Char) : Numeral :=
  let (negative, cs) := splitSign cs
  let mantissa := cs.takeWhile (!isExponentMark ·)
  let exponent := match cs.dropWhile (!isExponentMark ·) with
    | [] => none
    | _ :: rest => some (splitSign rest)
  let fraction := match mantissa.dropWhile (· ≠ '.') with
    | [] => none
    | _ :: rest => some rest
  { negative, whole := mantissa.takeWhile (· ≠ '.'), fraction, exponent }

/-- The floating-point number nearest to a row of digits times a power of ten. -/
def nearest (digits : List Char) (exponent : Int) : Float :=
  let digits := digits.dropWhile (· = '0')
  let magnitude := digits.length + exponent
  if digits.isEmpty ∨ magnitude < -400 then 0
  else if 400 < magnitude then 1.0 / 0.0
  else Float.ofScientific (Decimal.read digits) (exponent < 0) exponent.natAbs

/-- The floating-point number nearest to a numeral whose parts hold digits only. -/
def toFloat (n : Numeral) : Float :=
  let fraction := n.fraction.getD []
  let exponent : Int := match n.exponent with
    | none => 0
    | some (true, ds) => -(Decimal.read ds)
    | some (false, ds) => Decimal.read ds
  let x := nearest (n.whole ++ fraction) (exponent - fraction.length)
  if n.negative then -x else x

end Numeral

end WebhookDelivery
