import WebhookDelivery.Json
import WebhookDelivery.Text.Blank
import WebhookDelivery.Text.Numeral
import WebhookDelivery.Toml.Strings

/-!
# Settings from the environment

The value of an environment variable is read as a truth value, a number, a quoted text or
character, a list or a record, if all of it has such a form; else it is the text that it is. The
name of a variable counts in lower case, and points in it lead into records.

Escapes in a quoted text cost something beyond ASCII: of what stands before the first one, only as
many octets are kept as there are characters. If that would cut a character, nothing can be read.
-/

namespace WebhookDelivery.Environment

-- ---------------------------------------------------------------------------
-- Plain words
-- ---------------------------------------------------------------------------

/-- The digits of a text that consists of digits, of which there is at least one. -/
def digits? (cs : List Char) : Option (List Char) :=
  if !cs.isEmpty && cs.all Decimal.isDigit then some cs else none

/-- A whole number from −2⁶³ to 2⁶⁴ − 1. -/
def integer? (cs : List Char) : Option Json :=
  let (negative, ds) := splitSign cs
  (digits? ds).bind fun ds =>
    let n := Decimal.read ds
    if negative then (if n ≤ 9223372036854775808 then some (.int (-n)) else none)
    else if n < 18446744073709551616 then some (.int n) else none

/-- A number with a point; digits must stand on one side of it at least. -/
def pointed? (cs : List Char) : Option Json :=
  let n := Numeral.split cs
  let digitsOnly (ds : List Char) : Bool := ds.all Decimal.isDigit
  let fraction := n.fraction.getD []
  if n.fraction.isSome && digitsOnly (n.whole ++ fraction) && !(n.whole ++ fraction).isEmpty
      && (n.exponent.all fun e => (digits? e.2).isSome) then some (.float n.toFloat)
  else none

/-- The meaning of a word that nothing marks as something else. -/
def ofWord (cs : List Char) : Json :=
  ((pointed? cs).or (integer? cs)).getD (.str (String.ofList cs))

-- ---------------------------------------------------------------------------
-- Values
-- ---------------------------------------------------------------------------

/-- A text without the ASCII blanks at its start. -/
def skipBlanks (cs : List Char) : List Char :=
  cs.dropWhile fun c => c = ' ' || c = '\t' || c = '\n' || c = '\x0c' || c = '\r'

/-- Whether a character may stand in a word. -/
def isWordChar (c : Char) : Bool :=
  c ≠ ',' && c ≠ '[' && c ≠ ']' && c ≠ '\x7b' && c ≠ '\x7d'

/-- Whether a character may stand in a name that is not quoted. -/
def isNameChar (c : Char) : Bool :=
  c.isAlphanum || c = '_' || c = '-'

-- ---------------------------------------------------------------------------
-- Quoted texts
-- ---------------------------------------------------------------------------

/-- Why a text is no value. -/
inductive Fault where
  | malformed
  /-- A quoted text is to be cut inside a character, which panics. -/
  | cutCharacter
  deriving DecidableEq, Repr

/-- What was read, or a fault if nothing was. -/
def orMalformed {α : Type} : Option α → Except Fault α
  | some a => .ok a
  | none => .error .malformed

/-- Whether a quoted text comes to its end; a quote after a backslash is not the end. -/
def closes : List Char → Bool
  | '"' :: _ => true
  | '\\' :: _ :: rest => closes rest
  | _ :: rest => closes rest
  | [] => false

/-- The characters at the start of a text that make up so many octets of UTF-8; `none` if the cut is
inside a character. -/
def cutAt : Nat → List Char → Option (List Char)
  | 0, _ => some []
  | _ + 1, [] => some []
  | n + 1, c :: rest =>
    if c.utf8Size ≤ n + 1 then (cutAt (n + 1 - c.utf8Size) rest).map (c :: ·) else none

/-- The rest of a quoted text. What stands before the first escape is cut to as many octets as it
has characters, which takes nothing away from ASCII. -/
def readQuoted (cs : List Char) : Except Fault (String × List Char) :=
  let plain := cs.takeWhile fun c => c ≠ '"' && c ≠ '\\'
  match cs.drop plain.length with
  | '\\' :: escapes =>
    if closes cs && plain.all Toml.isPlain then
      match cutAt plain.length plain with
      | some kept => orMalformed (Toml.readBasic kept.reverse ('\\' :: escapes))
      | none => .error .cutCharacter
    else .error .malformed
  | _ => orMalformed (Toml.readBasic [] cs)

/-- The name of a member. -/
def readName : List Char → Except Fault (String × List Char)
  | '"' :: rest => readQuoted rest
  | cs =>
    let name := cs.takeWhile isNameChar
    if name.isEmpty then .error .malformed
    else .ok (String.ofList name, cs.dropWhile isNameChar)

-- ---------------------------------------------------------------------------
-- Nested values
-- ---------------------------------------------------------------------------

mutual

/-- The value at the start of a text. The first argument bounds depth and breadth; twice the length
of the text is enough. -/
def readValue : Nat → List Char → Except Fault (Json × List Char)
  | 0, _ => .error .malformed
  | fuel + 1, cs =>
    match skipBlanks cs with
    | 't' :: 'r' :: 'u' :: 'e' :: rest => .ok (.bool true, skipBlanks rest)
    | 'f' :: 'a' :: 'l' :: 's' :: 'e' :: rest => .ok (.bool false, skipBlanks rest)
    | '\x7b' :: rest => readMembers fuel [] rest
    | '[' :: rest => readItems fuel [] rest
    | '"' :: rest => (readQuoted rest).map fun (s, rest) => (.str s, skipBlanks rest)
    | '\'' :: c :: '\'' :: rest => .ok (.str (String.singleton c), skipBlanks rest)
    | '\'' :: _ => .error .malformed
    | cs => .ok (ofWord (trimBlanks (cs.takeWhile isWordChar)), cs.dropWhile isWordChar)

/-- The rest of a list whose items so far are given in reverse. -/
def readItems : Nat → List Json → List Char → Except Fault (Json × List Char)
  | 0, _, _ => .error .malformed
  | fuel + 1, read, cs =>
    match cs with
    | ']' :: rest => .ok (.arr read.reverse, skipBlanks rest)
    | cs => do
      let (v, rest) ← readValue fuel cs
      match rest with
      | ',' :: rest => readItems fuel (v :: read) rest
      | ']' :: rest => return (.arr (v :: read).reverse, skipBlanks rest)
      | _ => .error .malformed

/-- The rest of a record whose members so far are given in reverse. -/
def readMembers : Nat → List (String × Json) → List Char → Except Fault (Json × List Char)
  | 0, _, _ => .error .malformed
  | fuel + 1, read, cs =>
    match cs with
    | '\x7d' :: rest => .ok (.obj read.reverse, skipBlanks rest)
    | cs => do
      let (name, rest) ← readName (skipBlanks cs)
      match skipBlanks rest with
      | '=' :: rest => do
        let (v, rest) ← readValue fuel rest
        let read := (name, v) :: read.filter (·.1 ≠ name)
        match skipBlanks rest with
        | ',' :: rest => readMembers fuel read rest
        | '\x7d' :: rest => return (.obj read.reverse, skipBlanks rest)
        | _ => .error .malformed
      | _ => .error .malformed

end

/-- The meaning of a variable's value; `none` if a text in it would be cut inside a character. -/
def value? (s : String) : Option Json :=
  match readValue (2 * s.toList.length + 2) s.toList with
  | .ok (v, []) => some v
  | .error .cutCharacter => none
  | _ => some (.str s)

-- ---------------------------------------------------------------------------
-- Names
-- ---------------------------------------------------------------------------

/-- The parts of a text between its points. -/
def splitAtPoints (cs : List Char) : List (List Char) :=
  go cs []
where
  /-- The parts of the rest, after the part in progress (kept in reverse). -/
  go : List Char → List Char → List (List Char)
    | [], part => [part.reverse]
    | '.' :: rest, part => part.reverse :: go rest []
    | c :: rest, part => go rest (c :: part)

/-- The way into the settings that a variable's name gives; `none` if one of its parts is empty. -/
def way? (name : String) : Option (List String) :=
  let parts := splitAtPoints (trimBlanks name.toList)
  if parts.any (·.isEmpty) then none
  else some (parts.map fun part => String.ofList (part.map Char.toLower))

/-- A value at the end of a way. -/
def nest : List String → Json → Json
  | [], v => v
  | name :: way, v => .obj [(name, nest way v)]

/-- The settings that one variable makes, unless its value has no meaning. -/
def layerOf? (name value : String) : Option Json :=
  match way? name with
  | some way => (value? value).map (nest way)
  | none => some (.obj [])

/-- The settings that variables make (`Env::prefixed` with an empty prefix, so that every variable
of the process is read); of two that set the same the later in the order of names counts. One value
without meaning spoils all. -/
def layer? (vars : List (String × String)) : Option Json :=
  (vars.mergeSort fun a b => a.1 ≤ b.1).foldlM
    (fun v (name, value) => (layerOf? name value).map v.overlay) (.obj [])

end WebhookDelivery.Environment
