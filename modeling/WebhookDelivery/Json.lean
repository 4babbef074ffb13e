/-!
# JSON values

Plain data: what records are turned into to be stored or sent, and what settings files and
environment variables hold. Whole numbers and floating-point numbers are kept apart, as a reader
that wants a whole number takes no other.
-/

namespace WebhookDelivery

/-- A JSON value. An object lists its members in order, each name once. -/
inductive Json where
  | null
  | bool (b : Bool)
  | int (n : Int)
  | float (x : Float)
  | str (s : String)
  | arr (items : List Json)
  | obj (members : List (String × Json))
  deriving Inhabited

namespace Json

-- ---------------------------------------------------------------------------
-- Leaves
-- ---------------------------------------------------------------------------

/-- The text of a string. -/
def string? : Json → Option String
  | str s => some s
  | _ => none

/-- A whole number between two bounds. -/
def intBetween? (lo hi : Int) : Json → Option Int
  | int n => if lo ≤ n ∧ n ≤ hi then some n else none
  | _ => none

/-- A whole number of 8 bits. -/
def uint8? (v : Json) : Option UInt8 :=
  (v.intBetween? 0 255).map fun n => UInt8.ofNat n.toNat

/-- A whole number of 16 bits. -/
def uint16? (v : Json) : Option UInt16 :=
  (v.intBetween? 0 65535).map fun n => UInt16.ofNat n.toNat

/-- A whole number of 32 bits. -/
def uint32? (v : Json) : Option UInt32 :=
  (v.intBetween? 0 4294967295).map fun n => UInt32.ofNat n.toNat

/-- A whole number of 64 bits. -/
def uint64? (v : Json) : Option UInt64 :=
  (v.intBetween? 0 18446744073709551615).map fun n => UInt64.ofNat n.toNat

/-- A signed whole number of 32 bits. -/
def int32? (v : Json) : Option Int32 :=
  (v.intBetween? (-2147483648) 2147483647).map Int32.ofInt

/-- A signed whole number of 64 bits. -/
def int64? (v : Json) : Option Int64 :=
  (v.intBetween? (-9223372036854775808) 9223372036854775807).map Int64.ofInt

/-- The nearest floating-point number to a whole number of at most 64 bits. -/
def floatOfInt (n : Int) : Float :=
  if n < 0 then -(UInt64.ofNat n.natAbs).toFloat else (UInt64.ofNat n.toNat).toFloat

/-- A number of either kind, as a floating-point one. -/
def float? : Json → Option Float
  | float x => some x
  | int n => some (floatOfInt n)
  | _ => none

/-- A floating-point number; what is not finite has no JSON form and becomes null. -/
def ofFloat (x : Float) : Json :=
  if x.isFinite then .float x else .null

/-- A value or null. -/
def ofOption {α : Type} (write : α → Json) : Option α → Json
  | none => .null
  | some a => write a

/-- Null as nothing, anything else through a reader. -/
def option? {α : Type} (read : Json → Option α) : Json → Option (Option α)
  | .null => some none
  | v => (read v).map some

/-- The items of an array, each through a reader. -/
def list? {α : Type} (read : Json → Option α) : Json → Option (List α)
  | arr items => items.mapM read
  | _ => none

-- ---------------------------------------------------------------------------
-- Merging
-- ---------------------------------------------------------------------------

mutual

/-- A value with another laid over it: objects are merged member by member, at any depth, and
anything else is replaced. -/
def overlay : Json → Json → Json
  | obj base, obj top =>
    .obj (overlayMembers base top ++ top.filter fun m => (base.lookup m.1).isNone)
  | _, top => top

/-- The members of an object, each with its namesake laid over it. -/
def overlayMembers : List (String × Json) → List (String × Json) → List (String × Json)
  | [], _ => []
  | (name, v) :: rest, top =>
    (name, (top.lookup name).elim v fun w => overlay v w) :: overlayMembers rest top

end

-- ---------------------------------------------------------------------------
-- Records
-- ---------------------------------------------------------------------------

/-- The members of a record: an object as it is, or an array that has one item for each of the
names, in their order. -/
def members? (names : List String) : Json → Option (List (String × Json))
  | obj members => some members
  | arr items => if items.length = names.length then some (names.zip items) else none
  | _ => none

/-- A member that must be there. -/
def member? {α : Type} (members : List (String × Json)) (name : String) (read : Json → Option α) :
    Option α :=
  (members.lookup name).bind read

/-- A member that counts as null if it is not there. -/
def optional? {α : Type} (members : List (String × Json)) (name : String)
    (read : Json → Option α) : Option (Option α) :=
  option? read ((members.lookup name).getD .null)

end Json

end WebhookDelivery
