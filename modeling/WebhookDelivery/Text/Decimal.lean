/-!
# Decimal digits

Fixed-width and variable-width decimal numbers, as clocks and calendars write and read them.
-/

namespace WebhookDelivery.Decimal

/-- The digit for a value below ten. -/
def digit (n : Nat) : Char :=
  Char.ofNat ('0'.toNat + n)

/-- Whether a character is an ASCII digit. -/
def isDigit (c : Char) : Bool :=
  '0' ≤ c && c ≤ '9'

/-- The value of an ASCII digit. -/
def value (c : Char) : Nat :=
  c.toNat - '0'.toNat

/-- The lowest `count` digits of a number, most significant first. -/
def lowDigits : Nat → Nat → List Char
  | 0, _ => []
  | count + 1, n => lowDigits count (n / 10) ++ [digit (n % 10)]

theorem length_lowDigits (count n : Nat) : (lowDigits count n).length = count := by
  induction count generalizing n with
  | zero => rfl
  | succ count ih => simp [lowDigits, ih]

/-- The number that a list of digits writes. -/
def read (cs : List Char) : Nat :=
  cs.foldl (fun n c => n * 10 + value c) 0

/-- A number with at least `width` digits, padded with zeros on the left. -/
def padded (width n : Nat) : List Char :=
  let digits := Nat.toDigits 10 n
  List.replicate (width - digits.length) '0' ++ digits

/-- Digits of a fraction without the zeros at their end. -/
def trimZeros (cs : List Char) : List Char :=
  (cs.reverse.dropWhile (· == '0')).reverse

end WebhookDelivery.Decimal
