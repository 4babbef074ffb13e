import WebhookDelivery.Text.Hex
import WebhookDelivery.Text.LossyUtf8

/-!
# Universally unique identifiers

A 128-bit identifier. It is written as thirty-two lower-case hexadecimal digits in five groups, and
read in either case with the groups, without them, in braces, or as a `urn:uuid:` name.
-/

namespace WebhookDelivery

/-- A 128-bit identifier: a number below 2¹²⁸. -/
structure Uuid where
  value : Nat
  value_lt : value < 340282366920938463463374607431768211456
  deriving DecidableEq, Repr

namespace Uuid

instance : Inhabited Uuid := ⟨⟨0, by decide⟩⟩

-- ---------------------------------------------------------------------------
-- Writing
-- ---------------------------------------------------------------------------

/-- The thirty-two digits, most significant first. -/
def digits (u : Uuid) : List Char :=
  Hex.lowDigits 32 u.value

/-- Digits with hyphens after the 8th, 12th, 16th and 20th. -/
def group (digits : List Char) : List Char :=
  digits.take 8 ++ '-' :: (digits.drop 8).take 4 ++ '-' :: (digits.drop 12).take 4
    ++ '-' :: (digits.drop 16).take 4 ++ '-' :: digits.drop 20

/-- The characters of the canonical text. -/
def chars (u : Uuid) : List Char :=
  group u.digits

/-- The canonical text. -/
def text (u : Uuid) : String :=
  String.ofList u.chars

/-- The sixteen octets, most significant first. -/
def octets (u : Uuid) : Octets :=
  (List.range 16).map fun i => UInt8.ofNat (u.value >>> (8 * (15 - i)))

-- ---------------------------------------------------------------------------
-- Reading
-- ---------------------------------------------------------------------------

/-- The identifier with these thirty-two digits. -/
def ofDigits? (cs : List Char) : Option Uuid :=
  if cs.length = 32 then
    (Hex.read? cs).bind fun n =>
      if h : n < 340282366920938463463374607431768211456 then some ⟨n, h⟩ else none
  else none

/-- The identifier with these digits in their five groups. -/
def ofGroups? (cs : List Char) : Option Uuid :=
  if cs.length = 36 ∧ cs[8]? = some '-' ∧ cs[13]? = some '-' ∧ cs[18]? = some '-'
      ∧ cs[23]? = some '-' then
    ofDigits? (cs.take 8 ++ (cs.drop 9).take 4 ++ (cs.drop 14).take 4 ++ (cs.drop 19).take 4
      ++ cs.drop 24)
  else none

/-- The start of an identifier written as a name. -/
def nameStart : List Char := "urn:uuid:".toList

/-- The identifier that characters write, in any of the accepted forms. -/
def read? (cs : List Char) : Option Uuid :=
  match cs.length with
  | 32 => ofDigits? cs
  | 36 => ofGroups? cs
  | 38 =>
    if cs.head? = some '\x7b' ∧ cs.getLast? = some '\x7d' then ofGroups? (cs.drop 1).dropLast
    else none
  | 45 => if (cs.take 9).map Char.toLower = nameStart then ofGroups? (cs.drop 9) else none
  | _ => none

/-- The identifier that a text writes, in any of the accepted forms. -/
def ofText? (s : String) : Option Uuid :=
  read? s.toList

end Uuid

end WebhookDelivery
