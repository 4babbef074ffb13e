/-!
# Punycode

RFC 3492: a label with characters beyond ASCII is written as its ASCII characters, a hyphen, and
the places and values of the others as variable-length numbers in base 36.
-/

namespace WebhookDelivery.Domain.Punycode

/-- The digit for a value below thirty-six. -/
def digit (n : Nat) : Char :=
  if n < 26 then Char.ofNat ('a'.toNat + n) else Char.ofNat ('0'.toNat + (n - 26))

/-- The value of a digit. -/
def value? (c : Char) : Option Nat :=
  if 'a' ≤ c ∧ c ≤ 'z' then some (c.toNat - 'a'.toNat)
  else if 'A' ≤ c ∧ c ≤ 'Z' then some (c.toNat - 'A'.toNat)
  else if '0' ≤ c ∧ c ≤ '9' then some (c.toNat - '0'.toNat + 26)
  else none

/-- From which digit value on a number goes on, at weight position `k` (36, 72, …). -/
def threshold (k bias : Nat) : Nat :=
  if k ≤ bias then 1 else if bias + 26 ≤ k then 26 else k - bias

theorem threshold_pos (k bias : Nat) : 1 ≤ threshold k bias := by
  unfold threshold
  split
  · omega
  · split <;> omega

theorem threshold_le (k bias : Nat) : threshold k bias ≤ 26 := by
  unfold threshold
  split
  · omega
  · split <;> omega

/-- Divides by 35 until the delta is small; how often, times 36, is the second part. -/
def shrink (delta k : Nat) : Nat × Nat :=
  if 455 < delta then shrink (delta / 35) (k + 36) else (delta, k)
termination_by delta
decreasing_by exact Nat.div_lt_self (by omega) (by omega)

/-- The bias after a delta, when `count` characters are there. -/
def adapt (delta count : Nat) (first : Bool) : Nat :=
  let halved := if first then delta / 700 else delta / 2
  let (small, k) := shrink (halved + halved / count) 0
  k + 36 * small / (small + 38)

-- ---------------------------------------------------------------------------
-- Writing
-- ---------------------------------------------------------------------------

/-- A delta as digits. -/
def deltaDigits (bias k q : Nat) : List Char :=
  let t := threshold k bias
  if q < t then [digit q]
  else digit (t + (q - t) % (36 - t)) :: deltaDigits bias (k + 36) ((q - t) / (36 - t))
termination_by q
decreasing_by
  have := threshold_pos k bias
  exact Nat.lt_of_le_of_lt (Nat.div_le_self _ _) (by omega)

/-- The encoder between two characters. -/
structure Encoder where
  /-- What has been written, the last part first. -/
  parts : List (List Char)
  delta : Nat
  bias : Nat
  /-- Characters dealt with. -/
  handled : Nat

/-- Passes a character while the code point `m` is being placed. -/
def Encoder.pass (basic m : Nat) (e : Encoder) (c : Char) : Encoder :=
  if c.toNat < m then { e with delta := e.delta + 1 }
  else if c.toNat = m then
    { parts := deltaDigits e.bias 36 e.delta :: e.parts, delta := 0
      bias := adapt e.delta (e.handled + 1) (e.handled = basic), handled := e.handled + 1 }
  else e

/-- Places the code points of the list, which ascends; `n` is the least not yet considered. -/
def placeAll (input : List Char) (basic : Nat) : List Nat → Nat → Encoder → Encoder
  | [], _, e => e
  | m :: rest, n, e =>
    let e := { e with delta := e.delta + (m - n) * (e.handled + 1) }
    let e := input.foldl (Encoder.pass basic m) e
    placeAll input basic rest (m + 1) { e with delta := e.delta + 1 }

/-- Puts a number into an ascending list that has no number twice. -/
def insertAscending (x : Nat) : List Nat → List Nat
  | [] => [x]
  | y :: ys => if x < y then x :: y :: ys else if x = y then y :: ys else y :: insertAscending x ys

/-- Whether a character is ASCII. -/
def isBasic (c : Char) : Bool := c.toNat < 0x80

/-- A label in ASCII. -/
def encode (input : List Char) : List Char :=
  let basic := input.filter isBasic
  let others := (input.filter (!isBasic ·)).foldr (fun c ms => insertAscending c.toNat ms) []
  let e := placeAll input basic.length others 0x80 ⟨[], 0, 72, basic.length⟩
  basic ++ (if basic.isEmpty then [] else ['-']) ++ e.parts.reverse.flatten

-- ---------------------------------------------------------------------------
-- Reading
-- ---------------------------------------------------------------------------

/-- Places the characters that the digits describe. `index` is where the number being read leads so
far, `start` where it set out, `weight` that of the next digit at position `k`. -/
def decodeFrom (n bias start : Nat) (out : List Char) (index weight k : Nat) :
    List Char → Option (List Char)
  | [] => if k = 36 then some out else none
  | c :: rest => do
    let d ← value? c
    let index := index + d * weight
    let t := threshold k bias
    if t ≤ d then decodeFrom n bias start out index (weight * (36 - t)) (k + 36) rest
    else
      let count := out.length + 1
      let n := n + index / count
      let place := index % count
      if h : n.isValidChar then
        let out := out.take place ++ Char.ofNatAux n h :: out.drop place
        decodeFrom n (adapt (index - start) count (start = 0)) (place + 1) out (place + 1) 1 36 rest
      else none

/-- The label that an ASCII text stands for, or `none`. A hyphen with nothing before it is not
written, so it is not read either. -/
def decode? (input : List Char) : Option (List Char) :=
  let tail := (input.reverse.takeWhile (· ≠ '-')).reverse
  let basic := (input.take (input.length - tail.length)).dropLast
  if tail.length + 1 = input.length then none else decodeFrom 0x80 72 0 basic 0 1 36 tail

example : encode "bücher".toList = "bcher-kva".toList := by decide +kernel

example : decode? "bcher-kva".toList = some "bücher".toList := by decide +kernel

end WebhookDelivery.Domain.Punycode
