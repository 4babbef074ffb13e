import WebhookDelivery.Domain
import WebhookDelivery.Text.Blank
import WebhookDelivery.Url

/-!
# Reading URLs

URLs are read as browsers read them: characters that cannot belong to one are dropped, backslashes
count as slashes, dots in the path are resolved, and what needs encoding is encoded. URLs of other
schemes are read far enough to tell whether they are well formed.
-/

namespace WebhookDelivery.Url

/-- Why a text is no URL. -/
inductive Problem where
  | noScheme
  | emptyHost
  | invalidPort
  | invalidV4
  | invalidV6
  | invalidName
  | invalidHostCharacter
  deriving DecidableEq, Repr

/-- The problem in words. -/
def Problem.text : Problem → String
  | noScheme => "relative URL without a base"
  | emptyHost => "empty host"
  | invalidPort => "invalid port number"
  | invalidV4 => "invalid IPv4 address"
  | invalidV6 => "invalid IPv6 address"
  | invalidName => "invalid international domain name"
  | invalidHostCharacter => "invalid domain character"

/-- What a text turned out to be. -/
inductive Reading where
  /-- A URL of the Web. -/
  | web (url : Url)
  /-- A URL of some other scheme. -/
  | other (scheme : List Char)
  deriving DecidableEq, Repr

-- ---------------------------------------------------------------------------
-- Cleaning and the scheme
-- ---------------------------------------------------------------------------

/-- Characters that are dropped at either end. -/
def isOuter (c : Char) : Bool := c.toNat ≤ 0x20

/-- Characters that are dropped anywhere. -/
def isDropped (c : Char) : Bool := c == '\t' || c == '\n' || c == '\r'

/-- The text without what is dropped. -/
def clean (cs : List Char) : List Char :=
  ((cs.dropWhile isOuter).reverse.dropWhile isOuter).reverse.filter (!isDropped ·)

/-- Whether a character may follow the first one of a scheme. -/
def isSchemeChar (c : Char) : Bool :=
  c.isAlphanum || c == '+' || c == '-' || c == '.'

/-- The scheme in lower case, and what follows its colon. -/
def splitScheme? (cs : List Char) : Option (List Char × List Char) :=
  if cs.head?.any Char.isAlpha then
    match cs.dropWhile isSchemeChar with
    | ':' :: rest => some ((cs.takeWhile isSchemeChar).map Char.toLower, rest)
    | _ => none
  else none

-- ---------------------------------------------------------------------------
-- Hosts
-- ---------------------------------------------------------------------------

/-- The host that a text between brackets names. -/
def readBracketed (cs : List Char) : Except Problem Host :=
  if cs.getLast? = some ']' then
    match Address.readV6? cs.tail.dropLast with
    | some groups => .ok (.v6 groups)
    | none => .error .invalidV6
  else .error .invalidV6

/-- The host of a URL of the Web. -/
def readHost (cs : List Char) : Except Problem Host :=
  if cs.head? = some '[' then readBracketed cs
  else
    let name? := (strictText? (Percent.decode (utf8 (String.ofList cs)))).bind fun decoded =>
      Domain.toAscii? decoded.toList
    match name? with
    | none => .error .invalidName
    | some [] => .error .emptyHost
    | some name =>
      if Address.endsInNumber name then
        match Address.readV4? name with
        | some address => .ok (.v4 address)
        | none => .error .invalidV4
      else .ok (.name name)

/-- Characters that the host of a URL of another scheme cannot hold. -/
def isHostBreaker (c : Char) : Bool :=
  "\x00\t\n\r #/:<>?@[\\]^|".toList.contains c

/-- The check of a host in a URL of another scheme. -/
def checkOpaqueHost (cs : List Char) : Except Problem Unit :=
  if cs.head? = some '[' then (readBracketed cs).map fun _ => ()
  else if cs.any isHostBreaker then .error .invalidHostCharacter
  else .ok ()

-- ---------------------------------------------------------------------------
-- The authority
-- ---------------------------------------------------------------------------

/-- Whether a character ends the authority. -/
def endsAuthority (special : Bool) (c : Char) : Bool :=
  c == '/' || c == '?' || c == '#' || (special && c == '\\')

/-- The text before and after the last `@` of the authority, if it has one. -/
def cutUserInfo? (special : Bool) (cs : List Char) : Option (List Char × List Char) :=
  let authority := cs.takeWhile (!endsAuthority special ·)
  let hostPart := (authority.reverse.takeWhile (· ≠ '@')).reverse
  if hostPart.length = authority.length then none
  else
    let before := authority.length - hostPart.length - 1
    some (cs.take before, cs.drop (before + 1))

/-- User name and password of the text before the `@`, encoded. -/
def splitUserInfo (cs : List Char) : List Char × List Char :=
  (Percent.encode Percent.inUserInfo (cs.takeWhile (· ≠ ':')),
    Percent.encode Percent.inUserInfo (cs.dropWhile (· ≠ ':')).tail)

/-- User name and password, and what follows the `@`. -/
def readUserInfo (special : Bool) (cs : List Char) :
    Except Problem ((List Char × List Char) × List Char) :=
  match cutUserInfo? special cs with
  | none => .ok (([], []), cs)
  | some ([], rest) =>
    if rest.head?.any (endsAuthority special) then .error .emptyHost else .ok (([], []), rest)
  | some (info, rest) => .ok (splitUserInfo info, rest)

/-- The text of a host and what follows it. A colon between brackets belongs to the host. -/
def spanHost (special : Bool) : Bool → List Char → List Char × List Char
  | _, [] => ([], [])
  | inside, c :: rest =>
    if endsAuthority special c || (c == ':' && !inside) then ([], c :: rest)
    else
      let inside := if c = '[' then true else if c = ']' then false else inside
      let (host, after) := spanHost special inside rest
      (c :: host, after)

/-- The port after a colon, if there is a colon, and what follows it. No digits are no port. -/
def readPort (usual : Option Nat) : List Char → Except Problem (Option Nat × List Char)
  | ':' :: cs =>
    let digits := cs.takeWhile Char.isDigit
    let after := cs.dropWhile Char.isDigit
    let port := Decimal.read digits
    if 65535 < port then .error .invalidPort
    else if after.head?.any (!endsAuthority true ·) then .error .invalidPort
    else .ok (if digits.isEmpty || some port = usual then none else some port, after)
  | cs => .ok (none, cs)

-- ---------------------------------------------------------------------------
-- The path
-- ---------------------------------------------------------------------------

/-- Whether a character separates segments of the path. -/
def isSlash (c : Char) : Bool := c == '/' || c == '\\'

/-- A text cut at its slashes. -/
def splitSegments (cs : List Char) : List (List Char) :=
  cs.foldr (fun c segments =>
    if isSlash c then [] :: segments
    else match segments with
      | segment :: others => (c :: segment) :: others
      | [] => [[c]]) [[]]

/-- A segment with encoded dots written as dots. -/
def plainDots : List Char → List Char
  | '%' :: '2' :: e :: rest =>
    if e = 'e' ∨ e = 'E' then '.' :: plainDots rest else '%' :: '2' :: e :: plainDots rest
  | c :: rest => c :: plainDots rest
  | [] => []

/-- Whether a segment stands for the one that holds it. -/
def isHere (segment : List Char) : Bool := plainDots segment = ['.']

/-- Whether a segment leads one up. -/
def isUp (segment : List Char) : Bool := plainDots segment = ['.', '.']

/-- Whether a segment names a drive; none leads up from it. -/
def isDrive : List Char → Bool
  | [a, b] => a.isAlpha && (b == ':' || b == '|')
  | _ => false

/-- The segments without the last one, which come in reverse, unless that is a drive. -/
def leaveSegment : List (List Char) → List (List Char)
  | [] => []
  | segment :: before => if isDrive segment then segment :: before else before

/-- Resolves the dots of segments below those already there, which come in reverse. -/
def resolveDots : List (List Char) → List (List Char) → List (List Char)
  | above, [] => above.reverse
  | above, [last] =>
    if isUp last then (leaveSegment above).reverse ++ [[]]
    else if isHere last then above.reverse ++ [[]]
    else above.reverse ++ [last]
  | above, segment :: rest =>
    if isUp segment then resolveDots (leaveSegment above) rest
    else if isHere segment then resolveDots above rest
    else resolveDots (segment :: above) rest

/-- The path that a text without query and fragment spells below some segments. -/
def readPath (above : List (List Char)) (cs : List Char) : List (List Char) :=
  resolveDots above.reverse ((splitSegments cs).map (Percent.encode Percent.inPath))

-- ---------------------------------------------------------------------------
-- The rest
-- ---------------------------------------------------------------------------

/-- The text before the query and the fragment. -/
def beforeQuery (cs : List Char) : List Char :=
  cs.takeWhile fun c => c ≠ '?' && c ≠ '#'

/-- The query of a text, if it has one. -/
def queryOf (cs : List Char) : Option (List Char) :=
  match cs.dropWhile fun c => c ≠ '?' && c ≠ '#' with
  | '?' :: rest => some (Percent.encode Percent.inQuery (rest.takeWhile (· ≠ '#')))
  | _ => none

/-- The fragment of a text, if it has one. -/
def fragmentOf (cs : List Char) : Option (List Char) :=
  match cs.dropWhile (· ≠ '#') with
  | _ :: rest => some (Percent.encode Percent.inFragment rest)
  | [] => none

/-- A URL of the Web from what follows the slashes after its scheme. -/
def readAuthority (secure : Bool) (cs : List Char) : Except Problem Url := do
  let ((user, password), cs) ← readUserInfo true cs
  let (hostText, cs) := spanHost true false cs
  if hostText.isEmpty then throw .emptyHost
  let host ← readHost hostText
  let (port, cs) ← readPort (some (usualPort secure)) cs
  let path := beforeQuery cs
  return { secure, user, password, host, port
           path := readPath [] (if path.head?.any isSlash then path.tail else path)
           query := queryOf cs, fragment := fragmentOf cs }

/-- Whether a URL of a scheme that is not of the Web but has hosts like it is well formed. -/
def checkLikeWeb (cs : List Char) : Except Problem Unit := do
  let (_, cs) ← readUserInfo true cs
  let (hostText, cs) := spanHost true false cs
  if hostText.isEmpty then throw .emptyHost
  let _ ← readHost hostText
  let _ ← readPort none cs

/-- Whether a `file` URL is well formed: only a host can be wrong. -/
def checkFile (cs : List Char) : Except Problem Unit :=
  match cs with
  | a :: b :: rest =>
    if isSlash a && isSlash b then
      let hostText := rest.takeWhile (!endsAuthority true ·)
      if hostText.isEmpty || isDrive hostText then .ok () else (readHost hostText).map fun _ => ()
    else .ok ()
  | _ => .ok ()

/-- Whether a URL of any other scheme is well formed: only its authority can be wrong. -/
def checkOther (cs : List Char) : Except Problem Unit :=
  match cs with
  | '/' :: '/' :: rest => do
    let ((user, password), cs) ← readUserInfo false rest
    let (hostText, cs) := spanHost false false cs
    checkOpaqueHost hostText
    if hostText.isEmpty && cs.head? = some ':' then throw .emptyHost
    let _ ← readPort none cs
    if hostText.isEmpty && !(user.isEmpty && password.isEmpty) then throw .emptyHost
  | _ => .ok ()

/-- Reads a URL from what follows its scheme. -/
def readAfterScheme (scheme cs : List Char) : Except Problem Reading :=
  let below := cs.dropWhile isSlash
  if scheme = schemeName false then (readAuthority false below).map .web
  else if scheme = schemeName true then (readAuthority true below).map .web
  else if ["ws", "wss", "ftp"].contains (String.ofList scheme) then
    (checkLikeWeb below).map fun _ => .other scheme
  else if scheme = "file".toList then (checkFile cs).map fun _ => .other scheme
  else (checkOther cs).map fun _ => .other scheme

/-- Reads an absolute URL. -/
def read (cs : List Char) : Except Problem Reading :=
  match splitScheme? (clean cs) with
  | none => .error .noScheme
  | some (scheme, rest) => readAfterScheme scheme rest

/-- What a reference means that stands in a document at a URL. -/
def resolve (base : Url) (reference : List Char) : Except Problem Reading :=
  let cs := clean reference
  match splitScheme? cs with
  | some (scheme, rest) =>
    if scheme = schemeName base.secure ∧ (rest.takeWhile isSlash).length < 2 then
      (relative rest).map .web
    else readAfterScheme scheme rest
  | none => (relative cs).map .web
where
  /-- A reference without a scheme. -/
  relative (cs : List Char) : Except Problem Url :=
    let path := beforeQuery cs
    let slashes := (path.takeWhile isSlash).length
    if 2 ≤ slashes then readAuthority base.secure (cs.drop slashes)
    else if slashes = 1 then
      .ok { base with path := readPath [] path.tail, query := queryOf cs, fragment := fragmentOf cs }
    else if path.isEmpty then
      .ok { base with query := (queryOf cs).or base.query, fragment := fragmentOf cs }
    else
      .ok { base with
        path := readPath base.path.dropLast path, query := queryOf cs, fragment := fragmentOf cs }

end WebhookDelivery.Url
