import WebhookDelivery.Text.Blank

/-!
# HTTP methods

The methods that a webhook may be sent with. Their names are read in any case and with blanks
around them.
-/

namespace WebhookDelivery

/-- A method of delivery (`SUPPORTED_METHODS`). -/
inductive Method where
  | get
  | head
  | post
  | put
  | patch
  | delete
  | options
  deriving DecidableEq, Repr

namespace Method

/-- Every method. -/
def all : List Method := [get, head, post, put, patch, delete, options]

/-- The method's name. -/
def text : Method → String
  | get => "GET"
  | head => "HEAD"
  | post => "POST"
  | put => "PUT"
  | patch => "PATCH"
  | delete => "DELETE"
  | options => "OPTIONS"

/-- The method that a text names, in any case and with blanks around it (`parse_method`). -/
def ofText? (raw : String) : Option Method :=
  let name := (trimBlanks raw.toList).map Char.toUpper
  all.find? fun m => m.text.toList = name

/-- Every method is read back from its name. -/
theorem ofText?_text (m : Method) : ofText? m.text = some m := by
  cases m <;> decide +kernel

end Method

end WebhookDelivery
