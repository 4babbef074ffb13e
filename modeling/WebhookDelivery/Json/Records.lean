import WebhookDelivery.Attempt
import WebhookDelivery.Json

/-!
# JSON shapes of the records

How messages, drafts and attempts are written as JSON and read back. A record is written as an
object and also read from an array that lists its members in order; members that are not known are
passed over, and an optional member may be missing.
-/

namespace WebhookDelivery

-- ---------------------------------------------------------------------------
-- Leaves
-- ---------------------------------------------------------------------------

namespace Uuid

/-- An identifier as its canonical text. -/
def toJson (u : Uuid) : Json := .str u.text

/-- An identifier from any of its texts. -/
def ofJson? (v : Json) : Option Uuid := v.string?.bind ofText?

end Uuid

namespace MessageId

def toJson (id : MessageId) : Json := id.uuid.toJson

def ofJson? (v : Json) : Option MessageId := (Uuid.ofJson? v).map .mk

end MessageId

namespace OrgId

def toJson (id : OrgId) : Json := id.uuid.toJson

def ofJson? (v : Json) : Option OrgId := (Uuid.ofJson? v).map .mk

end OrgId

namespace Status

/-- A status as its name. -/
def toJson (s : Status) : Json := .str s.text

/-- A status from its name, alone or as the only member of an object with a null value. -/
def ofJson? : Json → Option Status
  | .str s => ofText? s
  | .obj [(name, .null)] => ofText? name
  | _ => none

end Status

namespace Instant

/-- An instant as RFC 3339. -/
def toJson (t : Instant) : Json := .str t.text

/-- An instant from its text. -/
def ofJson? (v : Json) : Option Instant := v.string?.bind ofText?

end Instant

namespace Count

def toJson (c : Count) : Json := .int c.value

/-- A count from a whole number of 32 bits. -/
def ofJson? : Json → Option Count
  | .int n => of? n
  | _ => none

end Count

namespace Octets

/-- Octets as an array of whole numbers. -/
def toJson (bytes : Octets) : Json := .arr (bytes.map fun b => .int b.toNat)

def ofJson? (v : Json) : Option Octets := v.list? Json.uint8?

end Octets

-- ---------------------------------------------------------------------------
-- Messages
-- ---------------------------------------------------------------------------

namespace Draft

/-- The names of a draft's members, in order. -/
def memberNames : List String := ["org_id", "method", "url", "payload"]

def toJson (d : Draft) : Json :=
  .obj [("org_id", d.org.toJson), ("method", .str d.method), ("url", .str d.url),
    ("payload", Octets.toJson d.payload)]

def ofJson? (v : Json) : Option Draft := do
  let ms ← v.members? memberNames
  let org ← Json.member? ms "org_id" OrgId.ofJson?
  let method ← Json.member? ms "method" Json.string?
  let url ← Json.member? ms "url" Json.string?
  let payload ← Json.member? ms "payload" Octets.ofJson?
  some { org, method, url, payload }

end Draft

namespace Message

/-- The names of a message's members, in order. -/
def memberNames : List String :=
  ["id", "org_id", "method", "url", "payload", "status", "attempt_count", "next_retry_at",
    "created_at", "updated_at"]

def toJson (m : Message) : Json :=
  .obj [("id", m.id.toJson), ("org_id", m.org.toJson), ("method", .str m.method),
    ("url", .str m.url), ("payload", Octets.toJson m.payload), ("status", m.status.toJson),
    ("attempt_count", m.attemptCount.toJson),
    ("next_retry_at", Json.ofOption Instant.toJson m.nextRetryAt),
    ("created_at", m.createdAt.toJson), ("updated_at", m.updatedAt.toJson)]

def ofJson? (v : Json) : Option Message := do
  let ms ← v.members? memberNames
  let id ← Json.member? ms "id" MessageId.ofJson?
  let org ← Json.member? ms "org_id" OrgId.ofJson?
  let method ← Json.member? ms "method" Json.string?
  let url ← Json.member? ms "url" Json.string?
  let payload ← Json.member? ms "payload" Octets.ofJson?
  let status ← Json.member? ms "status" Status.ofJson?
  let attemptCount ← Json.member? ms "attempt_count" Count.ofJson?
  let nextRetryAt ← Json.optional? ms "next_retry_at" Instant.ofJson?
  let createdAt ← Json.member? ms "created_at" Instant.ofJson?
  let updatedAt ← Json.member? ms "updated_at" Instant.ofJson?
  some { id, org, method, url, payload, status, attemptCount, nextRetryAt, createdAt, updatedAt }

end Message

-- ---------------------------------------------------------------------------
-- Attempts
-- ---------------------------------------------------------------------------

namespace AttemptResult

/-- A result as an object that names its kind. -/
def toJson : AttemptResult → Json
  | response code body =>
    .obj [("kind", .str "response"), ("status_code", .int code.toNat),
      ("body", Json.ofOption .str body)]
  | error message => .obj [("kind", .str "error"), ("message", .str message)]

/-- The members that follow the kind, by their names. -/
def memberNames : String → Option (List String)
  | "response" => some ["status_code", "body"]
  | "error" => some ["message"]
  | _ => none

/-- A result of a known kind from its other members. -/
def ofMembers? (kind : String) (ms : List (String × Json)) : Option AttemptResult :=
  if kind = "response" then do
    let code ← Json.member? ms "status_code" Json.uint16?
    let body ← Json.optional? ms "body" Json.string?
    some (response code body)
  else if kind = "error" then do
    let message ← Json.member? ms "message" Json.string?
    some (error message)
  else none

/-- A result from an object with its kind, or from an array that begins with it. -/
def ofJson? : Json → Option AttemptResult
  | .obj ms => do
    let kind ← Json.member? ms "kind" Json.string?
    ofMembers? kind ms
  | .arr (.str kind :: items) => do
    let names ← memberNames kind
    let ms ← (Json.arr items).members? names
    ofMembers? kind ms
  | _ => none

end AttemptResult

namespace Attempt

/-- The names of an attempt's members, in order. -/
def memberNames : List String :=
  ["id", "message_id", "attempt_number", "status_code", "response_body", "error_message",
    "duration_ms", "attempted_at"]

def toJson (a : Attempt) : Json :=
  .obj [("id", a.id.toJson), ("message_id", a.messageId.toJson),
    ("attempt_number", a.number.toJson),
    ("status_code", Json.ofOption (fun c : Int32 => .int c.toInt) a.statusCode),
    ("response_body", Json.ofOption .str a.responseBody),
    ("error_message", Json.ofOption .str a.errorMessage),
    ("duration_ms", Json.ofOption (fun d : Int64 => .int d.toInt) a.durationMs),
    ("attempted_at", a.attemptedAt.toJson)]

def ofJson? (v : Json) : Option Attempt := do
  let ms ← v.members? memberNames
  let id ← Json.member? ms "id" Uuid.ofJson?
  let messageId ← Json.member? ms "message_id" MessageId.ofJson?
  let number ← Json.member? ms "attempt_number" Count.ofJson?
  let statusCode ← Json.optional? ms "status_code" Json.int32?
  let responseBody ← Json.optional? ms "response_body" Json.string?
  let errorMessage ← Json.optional? ms "error_message" Json.string?
  let durationMs ← Json.optional? ms "duration_ms" Json.int64?
  let attemptedAt ← Json.member? ms "attempted_at" Instant.ofJson?
  some { id, messageId, number, statusCode, responseBody, errorMessage, durationMs, attemptedAt }

end Attempt

end WebhookDelivery
