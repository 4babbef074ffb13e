import WebhookDelivery.Text.Hex
import WebhookDelivery.Text.LossyUtf8

/-!
# Percent encoding

Characters that may not stand raw in a part of a URL are written as the octets of their UTF-8 form,
each as a percent sign and two digits. Which ASCII characters these are depends on the part; all
others beyond ASCII always are.
-/

namespace WebhookDelivery.Percent

/-- Characters that are encoded everywhere. -/
def isControl (c : Char) : Bool :=
  c.toNat < 0x20 || 0x7f ≤ c.toNat

/-- Characters that are encoded in a fragment. -/
def inFragment (c : Char) : Bool :=
  isControl c || c == ' ' || c == '"' || c == '<' || c == '>' || c == '\x60'

/-- Characters that are encoded in a query. -/
def inQuery (c : Char) : Bool :=
  isControl c || c == ' ' || c == '"' || c == '#' || c == '<' || c == '>' || c == '\''

/-- Characters that are encoded in a path. -/
def inPath (c : Char) : Bool :=
  inFragment c || c == '#' || c == '?' || c == '\x7b' || c == '\x7d'

/-- Characters that are encoded in a user name or password. -/
def inUserInfo (c : Char) : Bool :=
  inPath c || c == '/' || c == ':' || c == ';' || c == '=' || c == '@' || c == '[' || c == '\\'
    || c == ']' || c == '^' || c == '|'

/-- An octet as a percent sign and two digits. -/
def octet (b : UInt8) : List Char :=
  ['%', Hex.upperDigit (b.toNat / 16), Hex.upperDigit (b.toNat % 16)]

/-- A text with the characters of a set encoded. -/
def encode (encoded : Char → Bool) (cs : List Char) : List Char :=
  cs.flatMap fun c => if encoded c then (String.utf8EncodeChar c).flatMap octet else [c]

/-- Octets with every percent sign that two digits follow decoded. -/
def decode : Octets → Octets
  | [] => []
  | [a] => [a]
  | [a, b] => [a, b]
  | a :: b :: c :: rest =>
    match if a = 37 then (Hex.value? (Char.ofNat b.toNat)).bind (fun high =>
        (Hex.value? (Char.ofNat c.toNat)).map (high * 16 + ·)) else none with
    | some n => UInt8.ofNat n :: decode rest
    | none => a :: decode (b :: c :: rest)

end WebhookDelivery.Percent
