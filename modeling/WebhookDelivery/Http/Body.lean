import WebhookDelivery.Text.LossyUtf8

/-!
# Response bodies

What is kept of a response body for the audit trail. At most one octet beyond the limit is ever
held, so an endless body costs bounded memory; a body that oversteps the limit is cut to a short
beginning. The record is a text that the store can hold: no character in it is NUL.
-/

namespace WebhookDelivery

/-- Octets of a body beyond which it is cut (`MAX_RESPONSE_BODY_SIZE`). -/
def maxBodyBytes : Nat := 65536

/-- Octets that the record of a cut body should take up (`MAX_AUDIT_SIZE`). -/
def maxSummaryBytes : Nat := 1024

/-- What ends the record of a cut body (`TRUNCATION_SUFFIX`). -/
def cutMark : String := "... (truncated)"

/-- How a body came to its end. -/
inductive BodyEnd where
  | complete
  /-- It broke off. -/
  | broken
  deriving DecidableEq, Repr

/-- A NUL in a text, replaced. -/
def replaceNul (c : Char) : Char :=
  if c = '\x00' then replacementChar else c

/-- The text kept of a body's octets; nothing of an empty body (`summarize_body`). The octets are
counted before they are read as text, and a replaced octet takes up three. -/
def summarizeBody (bytes : Octets) : Option String :=
  if bytes.isEmpty then none
  else if maxBodyBytes < bytes.length then
    let kept := bytes.take (maxSummaryBytes - (utf8 cutMark).length)
    some (String.ofList (((lossyText kept).toList ++ cutMark.toList).map replaceNul))
  else some (String.ofList ((lossyText bytes).toList.map replaceNul))

/-- The octets gathered from chunks after those already there, up to one beyond the limit; `none` if
the body breaks off before. This is the loop in `read_body`. -/
def gather (buffer : Octets) : List Octets → BodyEnd → Option Octets
  | [], .complete => some buffer
  | [], .broken => none
  | chunk :: rest, ending =>
    let buffer := buffer ++ chunk.take (maxBodyBytes + 1 - buffer.length)
    if maxBodyBytes < buffer.length then some buffer else gather buffer rest ending

/-- What is recorded of a body that could not be read. -/
def unreadableBody : String :=
  "[failed to read response body: error decoding response body]"

/-- The text kept of a body that arrives in chunks (`read_body`). -/
def readBody (chunks : List Octets) (ending : BodyEnd) : Option String :=
  match gather [] chunks ending with
  | some bytes => summarizeBody bytes
  | none => some unreadableBody

end WebhookDelivery
