import WebhookDelivery.Signing.Base64
import WebhookDelivery.Signing.Hmac
import WebhookDelivery.Text.Blank

/-!
# Signatures

A webhook is signed over its identifier, a timestamp and its payload, joined by points. The
signature token is a version tag and the Base64 text of the authentication code. While a secret is
rotated a header may list several tokens; a receiver accepts the payload if one of them fits.
-/

namespace WebhookDelivery

/-- The tag of the only signature version in use (`SIGNATURE_VERSION`). -/
def signatureVersion : String := "v1"

/-- What a signed request carries (`SignedHeaders`). -/
structure Signature where
  webhookId : String
  /-- Unix seconds at which the signature was made. -/
  timestamp : Int
  /-- The version tag and the code. -/
  token : String
  deriving DecidableEq, Repr

namespace Signature

/-- The octets that are authenticated, as `compute_mac` puts them together. -/
def content (webhookId : String) (timestamp : Int) (payload : Octets) : Octets :=
  utf8 webhookId ++ utf8 "." ++ utf8 (toString timestamp) ++ utf8 "." ++ payload

/-- The authentication code of a webhook (`compute_mac`). -/
def code (webhookId secret : String) (payload : Octets) (timestamp : Int) : Octets :=
  Hmac.mac (utf8 secret) (content webhookId timestamp payload)

/-- Signs a webhook (`sign`). Every secret is a key, so that it cannot fail. -/
def sign (webhookId secret : String) (payload : Octets) (timestamp : Int) : Signature :=
  { webhookId, timestamp
    token := signatureVersion ++ ","
      ++ String.ofList (Base64.encode (code webhookId secret payload timestamp)) }

/-- The headers of a signed request, in the order in which they are sent (`to_header_pairs`). -/
def headers (s : Signature) : List (String × String) :=
  [("X-Webhook-ID", s.webhookId), ("X-Webhook-Timestamp", toString s.timestamp),
    ("X-Webhook-Signature", s.token)]

/-- The version and the code text of a token, cut at the first comma (`split_once`). -/
def splitToken? (token : List Char) : Option (List Char × List Char) :=
  match token.dropWhile (· ≠ ',') with
  | [] => none
  | _ :: encoded => some (token.takeWhile (· ≠ ','), encoded)

/-- Whether one token fits a code. -/
def tokenFits (expected : Octets) (token : List Char) : Bool :=
  match splitToken? token with
  | none => false
  | some (version, encoded) =>
    version = signatureVersion.toList && Base64.decode? encoded = some expected

/-- Whether a header with tokens between blanks authenticates a webhook (`verify_signature`). -/
def verify (webhookId : String) (timestamp : Int) (payload : Octets) (secret header : String) :
    Bool :=
  (wordsOf header.toList).any (tokenFits (code webhookId secret payload timestamp))

end Signature

end WebhookDelivery
