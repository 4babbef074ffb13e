import WebhookDelivery.Url.Address
import WebhookDelivery.Url.Percent

/-!
# URLs

The address of a webhook: an absolute `http` or `https` URL in its normal form. Every part is held
as it is written, with nothing left to encode: text and value determine each other.
-/

namespace WebhookDelivery

/-- Whom a URL names. -/
inductive Host where
  /-- A domain name in ASCII. -/
  | name (cs : List Char)
  | v4 (address : Nat)
  /-- An IPv6 address by its eight groups. -/
  | v6 (groups : List Nat)
  deriving DecidableEq, Repr

/-- The host as it is written. -/
def Host.chars : Host → List Char
  | name cs => cs
  | v4 address => Address.v4Text address
  | v6 groups => '[' :: Address.v6Text groups ++ [']']

/-- An absolute URL of the Web. -/
structure Url where
  /-- Whether the scheme is `https`. -/
  secure : Bool
  user : List Char
  password : List Char
  host : Host
  /-- A port other than the usual one. -/
  port : Option Nat
  /-- The parts of the path; there is at least one, possibly empty. -/
  path : List (List Char)
  query : Option (List Char)
  fragment : Option (List Char)
  deriving DecidableEq, Repr

namespace Url

/-- The scheme's name. -/
def schemeName (secure : Bool) : List Char :=
  if secure then "https".toList else "http".toList

/-- The port that is meant when none is written. -/
def usualPort (secure : Bool) : Nat :=
  if secure then 443 else 80

/-- The port to connect to. -/
def effectivePort (u : Url) : Nat :=
  u.port.getD (usualPort u.secure)

/-- User name and password before the host. -/
def userInfoChars (u : Url) : List Char :=
  if u.user.isEmpty && u.password.isEmpty then []
  else if u.password.isEmpty then u.user ++ ['@']
  else u.user ++ ':' :: u.password ++ ['@']

/-- The path as it is written. -/
def pathChars (u : Url) : List Char :=
  u.path.flatMap fun segment => '/' :: segment

/-- An optional part after its mark. -/
def marked (mark : Char) : Option (List Char) → List Char
  | none => []
  | some cs => mark :: cs

/-- The URL as it is written. -/
def chars (u : Url) : List Char :=
  schemeName u.secure ++ "://".toList ++ u.userInfoChars ++ u.host.chars
    ++ marked ':' (u.port.map (Nat.toDigits 10)) ++ u.pathChars
    ++ marked '?' u.query ++ marked '#' u.fragment

/-- The text of the URL. -/
def text (u : Url) : String :=
  String.ofList u.chars

/-- A user name or password without its percent encoding, if it is text. -/
def decodedText? (cs : List Char) : Option String :=
  strictText? (Percent.decode (utf8 (String.ofList cs)))

/-- The user name and password of a URL that has one of them. If the user name is no text there are
none, and a password that is no text does not count. -/
def credentials? (u : Url) : Option (String × Option String) :=
  (decodedText? u.user).bind fun user =>
    let password := if u.password.isEmpty then none else decodedText? u.password
    if user.isEmpty && password.isNone then none else some (user, password)

/-- The URL as it is shown: without the credentials, if there are any. -/
def shown (u : Url) : Url :=
  if u.credentials?.isSome then { u with user := [], password := [] } else u

/-- The URL as it is requested: what concerns only the sender is left out. -/
def requested (u : Url) : Url :=
  { u with user := [], password := [], fragment := none }

/-- The greatest length of a URL that can be requested. -/
def maxRequestLength : Nat := 65534

/-- Characters that a host name may hold but no request line. -/
def isUnsendable (c : Char) : Bool :=
  c = '"' || c = '\x60' || c = '\x7b' || c = '\x7d'

/-- Whether a URL can be requested. -/
def isSendable (u : Url) : Bool :=
  !u.host.chars.any isUnsendable && u.shown.chars.length ≤ maxRequestLength

end Url

end WebhookDelivery
