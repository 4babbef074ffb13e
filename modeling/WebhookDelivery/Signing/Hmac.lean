import WebhookDelivery.Signing.Sha256

/-!
# HMAC

The keyed hash of RFC 2104 over SHA-256. Any key will do: a long one is hashed first, a short one
filled with zeros.
-/

namespace WebhookDelivery.Hmac

/-- The key as one block of the hash. -/
def keyBlock (key : Octets) : Octets :=
  let short := if 64 < key.length then Sha256.hash key else key
  short ++ List.replicate (64 - short.length) 0

/-- The code that authenticates a message under a key. -/
def mac (key message : Octets) : Octets :=
  let block := keyBlock key
  Sha256.hash (block.map (· ^^^ 0x5c) ++ Sha256.hash (block.map (· ^^^ 0x36) ++ message))

end WebhookDelivery.Hmac
