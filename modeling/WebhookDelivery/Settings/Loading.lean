import WebhookDelivery.Json.Settings
import WebhookDelivery.Settings.Environment
import WebhookDelivery.Toml.Reader

/-!
# Loading settings

Settings come from three layers: the usual values, a TOML file over them, the environment over
both. A setting is taken from the highest layer that has it. What is merged must fit the types of
the settings, and then be valid as a whole.
-/

namespace WebhookDelivery

/-- Why settings cannot be loaded. -/
inductive LoadProblem where
  /-- The file is not TOML. -/
  | unreadableFile
  /-- A quoted text in the environment would be cut inside a character: a panic, and no error. -/
  | cutCharacter
  /-- A value is of the wrong type. -/
  | wrongType (key : String)
  /-- A whole number is out of range. -/
  | outOfRange (key : String)
  /-- The settings do not go together. -/
  | invalid (problem : Settings.Problem)
  deriving DecidableEq, Repr

/-- The problem in words: the context that `from_figment` adds, or what `validate` says. Where a
character would be cut, the reader of the environment panics, and there are no words. -/
def LoadProblem.text? : LoadProblem → Option String
  | unreadableFile | wrongType _ | outOfRange _ => some "failed to load configuration"
  | invalid problem => some problem.text
  | cutCharacter => none

/-- The words to show; nothing where there are none. -/
def LoadProblem.text (problem : LoadProblem) : String :=
  problem.text?.getD ""

namespace Settings

/-- The names of the settings in alphabetical order, in which they are taken. -/
def sortedKeys : List String :=
  keys.mergeSort fun a b => a ≤ b

/-- What is wrong with a value that does not suit a setting: a whole number suits every setting
that is a number, but for its size. -/
def misfit (key : String) (v : Json) : LoadProblem :=
  match v, (({} : Settings).toJson.members? []).bind (·.lookup key) with
  | .int _, some (.str _) => .wrongType key
  | .int _, _ => .outOfRange key
  | _, _ => .wrongType key

/-- Takes one setting from merged layers, if they have it. -/
def take (layers : List (String × Json)) (s : Settings) (key : String) :
    Except LoadProblem Settings :=
  match layers.lookup key with
  | none => .ok s
  | some v =>
    match s.set? key v with
    | some s => .ok s
    | none => .error (misfit key v)

/-- The settings that merged layers amount to (`extract`). -/
def ofLayers (layers : List (String × Json)) : Except LoadProblem Settings :=
  sortedKeys.foldlM (take layers) {}

/-- Settings that are valid as a whole (`validate`). -/
def validate (s : Settings) : Except LoadProblem Settings :=
  match s.problem? with
  | none => .ok s
  | some problem => .error (.invalid problem)

/-- The members of a file; of a missing file there are none. -/
def readFile : Option String → Except LoadProblem (List (String × Json))
  | none => .ok []
  | some text =>
    match Toml.read? text with
    | some members => .ok members
    | none => .error .unreadableFile

/-- What an environment sets. -/
def readEnvironment (vars : List (String × String)) : Except LoadProblem Json :=
  match Environment.layer? vars with
  | some v => .ok v
  | none => .error .cutCharacter

/-- The settings from a file, if there is one, and an environment (`load`). -/
def load (file : Option String) (vars : List (String × String)) :
    Except LoadProblem Settings := do
  let fromEnvironment ← readEnvironment vars
  let fromFile ← readFile file
  let merged := (Json.obj fromFile).overlay fromEnvironment
  let s ← ofLayers ((merged.members? []).getD [])
  validate s

end Settings

end WebhookDelivery
