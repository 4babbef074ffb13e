import WebhookDelivery.Text.Decimal
import WebhookDelivery.Text.Hex

/-!
# Host addresses

IPv4 addresses are read in the loose way of the Web: up to four numbers, each decimal, octal or
hexadecimal, the last one filling what is left. IPv6 addresses are read by their groups and written
with the longest run of zero groups left out.
-/

namespace WebhookDelivery.Address

-- ---------------------------------------------------------------------------
-- IPv4
-- ---------------------------------------------------------------------------

/-- A text cut at a character. -/
def splitAt (sep : Char) (cs : List Char) : List (List Char) :=
  cs.foldr (fun c parts =>
    if c = sep then [] :: parts
    else match parts with
      | part :: others => (c :: part) :: others
      | [] => [[c]]) [[]]

/-- The value of a digit in a base of at most sixteen. -/
def digitBelow? (base : Nat) (c : Char) : Option Nat :=
  (Hex.value? c).filter (· < base)

/-- A number in some base; no digits at all are zero. -/
def numberIn? (base : Nat) (cs : List Char) : Option Nat :=
  cs.foldlM (fun n c => (digitBelow? base c).map (n * base + ·)) 0

/-- A number with the marks of its base: `0x` for sixteen, a leading zero for eight. -/
def number? : List Char → Option Nat
  | [] => none
  | '0' :: 'x' :: cs => numberIn? 16 cs
  | '0' :: 'X' :: cs => numberIn? 16 cs
  | '0' :: c :: cs => numberIn? 8 (c :: cs)
  | cs => numberIn? 10 cs

/-- Whether a name ends in a number, so that it can only be an address. -/
def endsInNumber (name : List Char) : Bool :=
  let parts := (splitAt '.' name).reverse
  let last := match parts with
    | [] :: before :: _ => before
    | part :: _ => part
    | [] => []
  (!last.isEmpty && last.all Decimal.isDigit) || (number? last).isSome

/-- The address of up to four numbers: all but the last are octets, the last fills the rest. -/
def v4OfNumbers? (numbers : List Nat) : Option Nat :=
  match numbers.reverse with
  | [] => none
  | last :: before =>
    let octets := before.reverse
    if 4 < numbers.length || Nat.pow 256 (4 - octets.length) ≤ last || octets.any (256 ≤ ·) then none
    else some (octets.foldl (fun n b => n * 256 + b) 0 * Nat.pow 256 (4 - octets.length) + last)

/-- The IPv4 address that a text writes. -/
def readV4? (name : List Char) : Option Nat :=
  let parts := splitAt '.' name
  let parts := if parts.getLast? = some [] then parts.dropLast else parts
  (parts.mapM number?).bind v4OfNumbers?

/-- An IPv4 address as four decimal numbers. -/
def v4Text (n : Nat) : List Char :=
  List.intercalate ['.']
    ([n / 16777216 % 256, n / 65536 % 256, n / 256 % 256, n % 256].map (Nat.toDigits 10))

-- ---------------------------------------------------------------------------
-- IPv6
-- ---------------------------------------------------------------------------

/-- A decimal octet without leading zeros. -/
def decimalOctet? (cs : List Char) : Option Nat :=
  match cs with
  | [] => none
  | '0' :: _ :: _ => none
  | _ => if cs.all Decimal.isDigit && cs.length ≤ 3 && Decimal.read cs < 256 then
      some (Decimal.read cs) else none

/-- The two groups of an IPv4 address at the end of an IPv6 one. -/
def embeddedV4? (cs : List Char) : Option (List Nat) :=
  match (splitAt '.' cs).mapM decimalOctet? with
  | some [a, b, c, d] => some [a * 256 + b, c * 256 + d]
  | _ => none

/-- The groups of an IPv6 address and how many stand before the place of the omitted ones, that
place taking part as a zero group. The first two arguments are what has been read. -/
def groups? (read : List Nat) (gap : Option Nat) (cs : List Char) :
    Option (List Nat × Option Nat) :=
  match cs with
  | [] => some (read, gap)
  | ':' :: rest =>
    if read.length = 8 || gap.isSome then none
    else groups? (read ++ [0]) (some (read.length + 1)) rest
  | c :: rest =>
    if read.length = 8 then none
    else
      let digits := ((c :: rest).take 4).takeWhile fun d => (Hex.value? d).isSome
      match Hex.read? digits, _h : (c :: rest).drop digits.length with
      | none, _ => none
      | some n, [] => some (read ++ [n], gap)
      | some _, '.' :: _ =>
        if digits.isEmpty || 6 < read.length then none
        else (embeddedV4? (c :: rest)).map fun tail => (read ++ tail, gap)
      | some n, ':' :: more => if more.isEmpty then none else groups? (read ++ [n]) gap more
      | some _, _ => none
termination_by cs.length
decreasing_by
  · simp
  · have := congrArg List.length _h
    simp only [List.length_drop, List.length_cons] at this ⊢
    omega

/-- The eight groups, the omitted ones filled with zeros. -/
def fill? : List Nat × Option Nat → Option (List Nat)
  | (read, none) => if read.length = 8 then some read else none
  | (read, some gap) =>
    if read.length ≤ 8 then some (read.take gap ++ List.replicate (8 - read.length) 0 ++ read.drop gap)
    else none

/-- The eight groups of the IPv6 address that a text writes. -/
def readV6? (cs : List Char) : Option (List Nat) :=
  match cs with
  | ':' :: ':' :: rest => (groups? [0] (some 1) rest).bind fill?
  | ':' :: _ => none
  | _ :: _ :: _ => (groups? [] none cs).bind fill?
  | _ => none

/-- Start and length of the first longest run of zeros in a list; the arguments after the list are
the place in it, the run in progress and the best run so far. -/
def longestZeros : List Nat → Nat → Nat → Nat × Nat → Nat × Nat
  | [], place, run, best => if best.2 < run then (place - run, run) else best
  | n :: rest, place, run, best =>
    if n = 0 then longestZeros rest (place + 1) (run + 1) best
    else longestZeros rest (place + 1) 0 (if best.2 < run then (place - run, run) else best)

/-- Groups in hexadecimal with colons between them. -/
def groupsText (groups : List Nat) : List Char :=
  List.intercalate [':'] (groups.map (Nat.toDigits 16))

/-- An IPv6 address, its first longest run of two or more zero groups left out. -/
def v6Text (groups : List Nat) : List Char :=
  let (start, length) := longestZeros groups 0 0 (0, 0)
  if length < 2 then groupsText groups
  else groupsText (groups.take start) ++ [':', ':'] ++ groupsText (groups.drop (start + length))

end WebhookDelivery.Address
