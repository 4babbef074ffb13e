import WebhookDelivery.Toml.Scalar
import WebhookDelivery.Toml.Strings
import WebhookDelivery.Toml.Table

/-!
# Reading TOML

A document is read line by line: blank lines and comments, headers, and keys with values. Only
arrays and strings of several lines may go on over the end of a line. What is wrong in one place is
wrong as a whole: `read?` gives the members of the document or nothing.
-/

namespace WebhookDelivery.Toml

-- ---------------------------------------------------------------------------
-- Blanks, comments and ends of lines
-- ---------------------------------------------------------------------------

/-- A text without the blanks at its start. -/
def skipBlanks (cs : List Char) : List Char :=
  cs.dropWhile fun c => c = ' ' || c = '\t'

/-- A text without the blanks, newlines and comments at its start. It begins with a character that
is none of these, a faulty one inside a comment included. -/
def skipLines (inComment : Bool) : List Char → List Char
  | '\n' :: rest => skipLines false rest
  | '\r' :: '\n' :: rest => skipLines false rest
  | c :: rest =>
    if inComment then (if isPlain c then skipLines true rest else c :: rest)
    else if c = '#' then skipLines true rest
    else if c = ' ' || c = '\t' then skipLines false rest
    else c :: rest
  | [] => []

/-- What follows the end of the line, if nothing but blanks and a comment come before it. -/
def nextLine? (cs : List Char) : Option (List Char) :=
  let rest := match skipBlanks cs with
    | '#' :: rest => rest.dropWhile isPlain
    | rest => rest
  match rest with
  | [] => some []
  | '\n' :: rest => some rest
  | '\r' :: '\n' :: rest => some rest
  | _ => none

-- ---------------------------------------------------------------------------
-- Keys
-- ---------------------------------------------------------------------------

/-- Whether a character may stand in a key that is not quoted. -/
def isBareKey (c : Char) : Bool :=
  c.isAlphanum || c = '_' || c = '-'

/-- One part of a key. -/
def readPart : List Char → Option (String × List Char)
  | '"' :: rest => readBasic [] rest
  | '\'' :: rest => readLiteral [] rest
  | cs =>
    let name := cs.takeWhile isBareKey
    if name.isEmpty then none else some (String.ofList name, cs.dropWhile isBareKey)

/-- How many parts a key may have, and how many arrays and tables may lie within one another. -/
def maxDepth : Nat := 79

/-- A key of at most so many parts, after the parts given in reverse: the parts on its way and its
last part. -/
def readParts (way : List String) : Nat → List Char → Option ((List String × String) × List Char)
  | 0, _ => none
  | most + 1, cs => do
    let (name, rest) ← readPart (skipBlanks cs)
    match skipBlanks rest with
    | '.' :: rest => readParts (name :: way) most rest
    | rest => return ((way.reverse, name), rest)

/-- A key: the parts on its way and its last part. -/
def readKey (cs : List Char) : Option ((List String × String) × List Char) :=
  readParts [] maxDepth cs

/-- A key and the equals sign after it. -/
def readKeyEquals (cs : List Char) : Option ((List String × String) × List Char) := do
  match ← readKey cs with
  | (key, '=' :: rest) => return (key, skipBlanks rest)
  | _ => none

-- ---------------------------------------------------------------------------
-- Values
-- ---------------------------------------------------------------------------

mutual

/-- The value at the start of a text, with at most so many arrays and tables within one another.
The second number bounds the steps; twice the length of the text is enough. -/
def readValue (depth : Nat) : Nat → List Char → Option (Json × List Char)
  | 0, _ => none
  | fuel + 1, cs =>
    match cs with
    | '"' :: '"' :: '"' :: rest =>
      (readBasicLines [] false (dropNewline rest)).map fun (s, rest) => (.str s, rest)
    | '"' :: rest => (readBasic [] rest).map fun (s, rest) => (.str s, rest)
    | '\'' :: '\'' :: '\'' :: rest =>
      (readLiteralLines [] (dropNewline rest)).map fun (s, rest) => (.str s, rest)
    | '\'' :: rest => (readLiteral [] rest).map fun (s, rest) => (.str s, rest)
    | '[' :: rest =>
      match depth with
      | 0 => none
      | depth + 1 => readItems depth fuel [] (skipLines false rest)
    | '\x7b' :: rest =>
      match depth, skipBlanks rest with
      | 0, _ => none
      | _ + 1, '\x7d' :: rest => some (.obj [], rest)
      | depth + 1, rest => readMembers depth fuel [] rest
    | cs => readScalar cs

/-- The rest of an array whose items so far are given in reverse. -/
def readItems (depth : Nat) : Nat → List Json → List Char → Option (Json × List Char)
  | 0, _, _ => none
  | fuel + 1, read, cs =>
    match cs with
    | ']' :: rest => some (.arr read.reverse, rest)
    | cs => do
      let (v, rest) ← readValue depth fuel cs
      match skipLines false rest with
      | ',' :: rest => readItems depth fuel (v :: read) (skipLines false rest)
      | ']' :: rest => return (.arr (v :: read).reverse, rest)
      | _ => none

/-- The rest of a table in braces with these entries so far. -/
def readMembers (depth : Nat) : Nat → Entries → List Char → Option (Json × List Char)
  | 0, _, _ => none
  | fuel + 1, entries, cs => do
    let ((way, name), rest) ← readKeyEquals cs
    let (v, rest) ← readValue depth fuel rest
    let entries ← entries.put way name v
    match skipBlanks rest with
    | ',' :: rest => readMembers depth fuel entries rest
    | '\x7d' :: rest => return (.obj entries.members, rest)
    | _ => none

end

-- ---------------------------------------------------------------------------
-- Documents
-- ---------------------------------------------------------------------------

/-- A document and the header that its next keys belong to. -/
structure Document where
  header : List String := []
  entries : Entries := []

/-- The document after one line that is not blank, and the rest of the text. -/
def readLine (d : Document) (cs : List Char) : Option (Document × List Char) :=
  match cs with
  | '[' :: '[' :: rest => do
    match ← readKey rest with
    | ((way, name), ']' :: ']' :: rest) =>
      return ({ header := way ++ [name], entries := ← d.entries.openElement way name }, rest)
    | _ => none
  | '[' :: rest => do
    match ← readKey rest with
    | ((way, name), ']' :: rest) =>
      return ({ header := way ++ [name], entries := ← d.entries.openTable way name }, rest)
    | _ => none
  | cs => do
    let ((way, name), rest) ← readKeyEquals cs
    let (v, rest) ← readValue maxDepth (2 * rest.length + 1) rest
    return ({ d with entries := ← d.entries.putUnder d.header way name v }, rest)

/-- The rest of a document. The first argument bounds the number of lines; more than the length of
the text is enough. -/
def readDocument : Nat → Document → List Char → Option Document
  | 0, _, _ => none
  | fuel + 1, d, cs =>
    match skipLines false cs with
    | [] => some d
    | cs => do
      let (d, rest) ← readLine d cs
      readDocument fuel d (← nextLine? rest)

/-- A text without the byte-order mark at its start. -/
def dropMark : List Char → List Char
  | '\ufeff' :: rest => rest
  | cs => cs

/-- The members of the document that a text spells. -/
def read? (s : String) : Option (List (String × Json)) :=
  let cs := dropMark s.toList
  (readDocument (cs.length + 1) {} cs).map (·.entries.members)

end WebhookDelivery.Toml
