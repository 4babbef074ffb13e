import WebhookDelivery.Json

/-!
# TOML tables

A document is a table of tables that grows line by line. A header opens a table or a further
element of an array of tables, and makes the tables on the way to it; a key with points makes the
tables on its way, too. Who made a table decides who may add to it: a header may open a table that
was only made on the way of another header, a key may add to a table that no header opened, and
nothing is ever set twice.
-/

namespace WebhookDelivery.Toml

/-- How a table came to be. -/
inductive Origin where
  /-- A header opened it. -/
  | opened
  /-- It is on the way of a header. -/
  | implied
  /-- It is on the way of a key. -/
  | dotted
  deriving DecidableEq, Repr

/-- What stands under a name. -/
inductive Node where
  /-- A value; nothing can be added to it. -/
  | value (v : Json)
  | table (origin : Origin) (entries : List (String × Node))
  /-- An array of tables; additions go to its last element. -/
  | tables (earlier : List (List (String × Node))) (last : List (String × Node))
  deriving Inhabited

/-- The entries of a table in the order in which they came. -/
abbrev Entries := List (String × Node)

namespace Entries

/-- Changes what stands under a name, or puts something there. -/
def alter (name : String) (change : Option Node → Option Node) : Entries → Option Entries
  | [] => (change none).map fun n => [(name, n)]
  | (other, n) :: rest =>
    if other = name then (change (some n)).map fun n => (name, n) :: rest
    else (alter name change rest).map ((other, n) :: ·)

/-- Changes the table at the end of the way of a header; tables that are missing are made. -/
def alterBelow (change : Origin → Entries → Option Entries) :
    List String → Origin → Entries → Option Entries
  | [], origin, entries => change origin entries
  | name :: path, _, entries =>
    entries.alter name fun
      | none => (alterBelow change path .implied []).map (.table .implied)
      | some (.table origin inner) => (alterBelow change path origin inner).map (.table origin)
      | some (.tables earlier last) =>
        (alterBelow change path .opened last).map (.tables earlier)
      | some (.value _) => none

/-- Changes the table at the end of the way of a key; tables that are missing are made, and no
table on the way may have been opened by a header. -/
def alterWithin (change : Origin → Entries → Option Entries) :
    List String → Origin → Entries → Option Entries
  | [], origin, entries => change origin entries
  | name :: path, _, entries =>
    entries.alter name fun
      | none => (alterWithin change path .dotted []).map (.table .dotted)
      | some (.table origin inner) =>
        if origin = .opened then none
        else (alterWithin change path origin inner).map (.table origin)
      | some (.tables earlier last) =>
        (alterWithin change path .opened last).map (.tables earlier)
      | some (.value _) => none

/-- Puts a value under a name that is free. -/
def putNew (name : String) (v : Json) (entries : Entries) : Option Entries :=
  entries.alter name fun
    | none => some (.value v)
    | some _ => none

/-- Puts a value under a key with points. Where the key has a way, the table at its end must have
been made by keys. -/
def put (way : List String) (name : String) (v : Json) (entries : Entries) : Option Entries :=
  alterWithin
    (fun origin inner => if way ≠ [] ∧ origin ≠ .dotted then none else inner.putNew name v)
    way .opened entries

/-- Puts a value under a key in the table that a header has opened. -/
def putUnder (header way : List String) (name : String) (v : Json) (entries : Entries) :
    Option Entries :=
  alterBelow (fun _ inner => inner.put way name v) header .opened entries

/-- Opens the table of a header. -/
def openTable (way : List String) (name : String) (entries : Entries) : Option Entries :=
  alterBelow
    (fun _ inner => inner.alter name fun
      | none => some (.table .opened [])
      | some (.table .implied made) => some (.table .opened made)
      | _ => none)
    way .opened entries

/-- Opens a further element of the array of a header. -/
def openElement (way : List String) (name : String) (entries : Entries) : Option Entries :=
  alterBelow
    (fun _ inner => inner.alter name fun
      | none => some (.tables [] [])
      | some (.tables earlier last) => some (.tables (earlier ++ [last]) [])
      | _ => none)
    way .opened entries

mutual

/-- The members of an object that a table amounts to. -/
def members : Entries → List (String × Json)
  | [] => []
  | (name, n) :: rest => (name, nodeValue n) :: members rest

/-- The value that stands under a name. -/
def nodeValue : Node → Json
  | .value v => v
  | .table _ entries => .obj (members entries)
  | .tables earlier last => .arr (elements earlier ++ [.obj (members last)])

/-- The elements of an array of tables. -/
def elements : List Entries → List Json
  | [] => []
  | entries :: rest => .obj (members entries) :: elements rest

end

end Entries

end WebhookDelivery.Toml
