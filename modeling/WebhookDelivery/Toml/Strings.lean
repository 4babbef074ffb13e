import WebhookDelivery.Text.Hex

/-!
# TOML strings

Basic strings have escapes, literal ones do not. Both may span several lines: then a newline right
after the opening is left out, lines end with a plain newline, and up to two quotes may stand
before the closing ones. In a basic string of several lines a backslash at the end of a line takes
away everything up to the next character that is not blank.
-/

namespace WebhookDelivery.Toml

/-- Whether a character may stand in a string or a comment as it is. -/
def isPlain (c : Char) : Bool :=
  c = '\t' || (' ' ≤ c && c ≠ '\x7f')

/-- The character of a code point, if it is one. -/
def charOf? (n : Nat) : Option Char :=
  if n.isValidChar then some (Char.ofNat n) else none

/-- The character that a row of hexadecimal digits names. -/
def charOfHex? (cs : List Char) : Option Char :=
  (Hex.read? cs).bind charOf?

/-- The character of a one-letter escape. -/
def escaped? : Char → Option Char
  | '"' => some '"'
  | '\\' => some '\\'
  | 'b' => some '\x08'
  | 'f' => some '\x0c'
  | 'n' => some '\n'
  | 'r' => some '\r'
  | 't' => some '\t'
  | _ => none

/-- A string whose characters are given in reverse. -/
def ofReversed (read : List Char) : String :=
  String.ofList read.reverse

/-- The rest of a basic string whose characters so far are given in reverse, and what follows. -/
def readBasic (read : List Char) : List Char → Option (String × List Char)
  | '"' :: rest => some (ofReversed read, rest)
  | '\\' :: 'u' :: a :: b :: c :: d :: rest => do
    readBasic ((← charOfHex? [a, b, c, d]) :: read) rest
  | '\\' :: 'U' :: a :: b :: c :: d :: e :: f :: g :: h :: rest => do
    readBasic ((← charOfHex? [a, b, c, d, e, f, g, h]) :: read) rest
  | '\\' :: c :: rest => do readBasic ((← escaped? c) :: read) rest
  | c :: rest => if isPlain c then readBasic (c :: read) rest else none
  | [] => none

/-- The rest of a literal string. -/
def readLiteral (read : List Char) : List Char → Option (String × List Char)
  | '\'' :: rest => some (ofReversed read, rest)
  | c :: rest => if isPlain c then readLiteral (c :: read) rest else none
  | [] => none

/-- A text without the newline at its start. -/
def dropNewline : List Char → List Char
  | '\n' :: rest => rest
  | '\r' :: '\n' :: rest => rest
  | cs => cs

/-- Whether nothing but blanks is left on the line. -/
def endsLine (cs : List Char) : Bool :=
  match cs.dropWhile fun c => c = ' ' || c = '\t' with
  | '\n' :: _ => true
  | '\r' :: '\n' :: _ => true
  | _ => false

/-- The rest of a basic string of several lines. While `skipping`, blanks and newlines are left
out. -/
def readBasicLines (read : List Char) (skipping : Bool) : List Char → Option (String × List Char)
  | '"' :: '"' :: '"' :: '"' :: '"' :: rest => some (ofReversed ('"' :: '"' :: read), rest)
  | '"' :: '"' :: '"' :: '"' :: rest => some (ofReversed ('"' :: read), rest)
  | '"' :: '"' :: '"' :: rest => some (ofReversed read, rest)
  | '\r' :: '\n' :: rest => readBasicLines (if skipping then read else '\n' :: read) skipping rest
  | '\n' :: rest => readBasicLines (if skipping then read else '\n' :: read) skipping rest
  | '\\' :: 'u' :: a :: b :: c :: d :: rest => do
    readBasicLines ((← charOfHex? [a, b, c, d]) :: read) false rest
  | '\\' :: 'U' :: a :: b :: c :: d :: e :: f :: g :: h :: rest => do
    readBasicLines ((← charOfHex? [a, b, c, d, e, f, g, h]) :: read) false rest
  | '\\' :: c :: rest =>
    if endsLine (c :: rest) then readBasicLines read true (c :: rest)
    else do readBasicLines ((← escaped? c) :: read) false rest
  | c :: rest =>
    if skipping && (c = ' ' || c = '\t') then readBasicLines read true rest
    else if isPlain c then readBasicLines (c :: read) false rest
    else none
  | [] => none

/-- The rest of a literal string of several lines. -/
def readLiteralLines (read : List Char) : List Char → Option (String × List Char)
  | '\'' :: '\'' :: '\'' :: '\'' :: '\'' :: rest => some (ofReversed ('\'' :: '\'' :: read), rest)
  | '\'' :: '\'' :: '\'' :: '\'' :: rest => some (ofReversed ('\'' :: read), rest)
  | '\'' :: '\'' :: '\'' :: rest => some (ofReversed read, rest)
  | '\r' :: '\n' :: rest => readLiteralLines ('\n' :: read) rest
  | c :: rest => if c = '\n' || isPlain c then readLiteralLines (c :: read) rest else none
  | [] => none

end WebhookDelivery.Toml
