import WebhookDelivery.Text.LossyUtf8

/-!
# Base64

The standard alphabet of RFC 4648 with padding. Only the canonical writing is read: groups of four,
padding in the last group alone, and zero bits where the padding leaves some over.
-/

namespace WebhookDelivery.Base64

/-- The character for a value below sixty-four. -/
def digit (n : Nat) : Char :=
  if n < 26 then Char.ofNat ('A'.toNat + n)
  else if n < 52 then Char.ofNat ('a'.toNat + (n - 26))
  else if n < 62 then Char.ofNat ('0'.toNat + (n - 52))
  else if n = 62 then '+' else '/'

/-- The value of a character of the alphabet. -/
def value? (c : Char) : Option Nat :=
  if 'A' ≤ c ∧ c ≤ 'Z' then some (c.toNat - 'A'.toNat)
  else if 'a' ≤ c ∧ c ≤ 'z' then some (c.toNat - 'a'.toNat + 26)
  else if '0' ≤ c ∧ c ≤ '9' then some (c.toNat - '0'.toNat + 52)
  else if c = '+' then some 62
  else if c = '/' then some 63
  else none

theorem value?_digit {n : Nat} (h : n < 64) : value? (digit n) = some n := by
  have : ∀ m : Fin 64, value? (digit m.val) = some m.val := by decide
  exact this ⟨n, h⟩

/-- The text of octets, three at a time. -/
def encode : Octets → List Char
  | [] => []
  | [a] => [digit (a.toNat / 4), digit (a.toNat % 4 * 16), '=', '=']
  | [a, b] =>
    [digit (a.toNat / 4), digit (a.toNat % 4 * 16 + b.toNat / 16), digit (b.toNat % 16 * 4), '=']
  | a :: b :: c :: rest =>
    digit (a.toNat / 4) :: digit (a.toNat % 4 * 16 + b.toNat / 16)
      :: digit (b.toNat % 16 * 4 + c.toNat / 64) :: digit (c.toNat % 64) :: encode rest

/-- The octets of a group of four characters. -/
def group? (p q r s : Char) : Option Octets := do
  let w ← value? p
  let x ← value? q
  let y ← value? r
  let z ← value? s
  some [UInt8.ofNat (w * 4 + x / 16), UInt8.ofNat (x % 16 * 16 + y / 4), UInt8.ofNat (y % 4 * 64 + z)]

/-- The octets of a last group, which may be padded. -/
def lastGroup? (p q r s : Char) : Option Octets :=
  if s ≠ '=' then group? p q r s
  else if r ≠ '=' then do
    let w ← value? p
    let x ← value? q
    let y ← value? r
    if y % 4 ≠ 0 then none
    else some [UInt8.ofNat (w * 4 + x / 16), UInt8.ofNat (x % 16 * 16 + y / 4)]
  else do
    let w ← value? p
    let x ← value? q
    if x % 16 ≠ 0 then none else some [UInt8.ofNat (w * 4 + x / 16)]

/-- The octets that a text writes, or `none`. -/
def decode? : List Char → Option Octets
  | [] => some []
  | [p, q, r, s] => lastGroup? p q r s
  | p :: q :: r :: s :: rest => do
    let first ← group? p q r s
    let others ← decode? rest
    some (first ++ others)
  | _ => none

end WebhookDelivery.Base64
