import WebhookDelivery.Proofs.Digits
import WebhookDelivery.Proofs.Identifiers
import WebhookDelivery.Proofs.Separators
import WebhookDelivery.Proofs.Utf8Text
import WebhookDelivery.Proofs.WireSignature

/-!
# What a signature is for

The three parts of what is signed are joined by points, with no lengths, and the payload may hold
any octets, points and digits among them. The parts can be told apart all the same: neither an
identifier nor a timestamp has a point, so the first two points are where the parts meet. What fits
one webhook therefore fits no other, unless the code is the same for two contents.

* `Signature.content_eq_iff` — one content for two webhooks of any names without a point.
* `Signature.content_unambiguous` — the webhooks of messages, and what a receiver accepts for them.
-/

namespace WebhookDelivery

-- ---------------------------------------------------------------------------
-- Texts without a point
-- ---------------------------------------------------------------------------

/-- A number is written without a point. -/
theorem Decimal.point_not_mem_toString (n : Int) : '.' ∉ (toString n).toList := by
  have hdigits : ∀ k : Nat, '.' ∉ Nat.toDigits 10 k := by
    intro k hmem
    have hdigit := isDigit_of_mem_toDigits hmem
    exact absurd hdigit (by decide)
  rw [Int.toString_eq_repr, Int.repr_eq_if]
  split
  · rw [Nat.repr_eq_ofList_toDigits, String.toList_ofList]
    exact hdigits _
  · rw [Nat.repr_eq_ofList_toDigits, String.toList_append, List.mem_append]
    simp only [String.toList_ofList]
    rintro (hsign | hmem)
    · exact absurd hsign (by decide)
    · exact hdigits _ hmem

theorem Decimal.toString_injective {m n : Int} (h : toString m = toString n) : m = n := by
  have hread := readInt?_toString m
  rw [h, readInt?_toString] at hread
  exact (Option.some.inj hread).symm

/-- An identifier is written without a point. -/
theorem Uuid.point_not_mem_chars (u : Uuid) : '.' ∉ u.chars := by
  intro hmem
  rcases mem_group hmem with hdigit | hhyphen
  · obtain ⟨d, hd, heq⟩ := Hex.exists_of_mem_lowDigits hdigit
    have hvalue := Hex.value?_digit hd
    rw [← heq] at hvalue
    cases hvalue
  · exact absurd hhyphen (by decide)

/-- The identifier of a webhook is written without a point. -/
theorem Message.point_not_mem_webhookId (m : Message) : '.' ∉ m.webhookId.toList := by
  have hid : m.id.text.toList = m.id.uuid.chars := String.toList_ofList
  rw [webhookId, String.toList_append, hid, List.mem_append]
  rintro (hlead | hid)
  · exact absurd hlead (by decide)
  · exact m.id.uuid.point_not_mem_chars hid

/-- Webhooks have the same identifier exactly if their messages have. -/
theorem Message.webhookId_inj {m n : Message} : m.webhookId = n.webhookId ↔ m.id = n.id := by
  constructor
  · intro h
    rw [webhookId, webhookId, String.append_right_inj] at h
    exact MessageId.text_injective h
  · intro h
    rw [webhookId, webhookId, h]

-- ---------------------------------------------------------------------------
-- Octets up to a point
-- ---------------------------------------------------------------------------

theorem utf8_injective {a b : String} (h : utf8 a = utf8 b) : a = b := by
  rw [← lossyText_utf8 a, h, lossyText_utf8]

/-- A text without a point ends where the first point is. -/
theorem utf8_point_inj {a b : String} {x y : Octets} (ha : '.' ∉ a.toList) (hb : '.' ∉ b.toList)
    (h : utf8 a ++ (utf8 "." ++ x) = utf8 b ++ (utf8 "." ++ y)) : a = b ∧ x = y := by
  have hpoint : utf8 "." = [46] := by decide
  have hfree : ∀ s : String, '.' ∉ s.toList → ∀ c ∈ utf8 s, (c != 46) = true := by
    intro s hs c hc
    rw [bne_iff_ne]
    rintro rfl
    exact hs ((mem_utf8_iff_of_lt rfl (by decide)).mp hc)
  have hstop : ∀ z : Octets, ∀ c ∈ ((46 : UInt8) :: z).head?, (c != 46) = false := by simp
  rw [hpoint, List.singleton_append, List.singleton_append] at h
  have htaken := congrArg (List.takeWhile (· != 46)) h
  rw [takeWhile_until (hfree a ha) (hstop x), takeWhile_until (hfree b hb) (hstop y)] at htaken
  have hab := utf8_injective htaken
  subst hab
  exact ⟨rfl, List.cons.inj (List.append_cancel_left h) |>.2⟩

-- ---------------------------------------------------------------------------
-- Contents
-- ---------------------------------------------------------------------------

/-- Two contents for which a key gives one code. -/
def Hmac.Collides (key first second : Octets) : Prop :=
  first ≠ second ∧ mac key first = mac key second

namespace Signature

/-- What is signed says what it is signed for. -/
theorem content_eq_iff {a b : String} {s t : Int} {p q : Octets} (ha : '.' ∉ a.toList)
    (hb : '.' ∉ b.toList) : content a s p = content b t q ↔ a = b ∧ s = t ∧ p = q := by
  constructor
  · intro h
    simp only [content, List.append_assoc] at h
    obtain ⟨hab, hrest⟩ := utf8_point_inj ha hb h
    obtain ⟨hst, hpq⟩ := utf8_point_inj (Decimal.point_not_mem_toString s)
      (Decimal.point_not_mem_toString t) hrest
    exact ⟨hab, Decimal.toString_injective hst, hpq⟩
  · rintro ⟨rfl, rfl, rfl⟩
    rfl

/-- Codes are the same for the same content, and else only where they collide. -/
theorem code_eq_iff {a b secret : String} {s t : Int} {p q : Octets} :
    code a secret p s = code b secret q t
      ↔ content a s p = content b t q
        ∨ Hmac.Collides (utf8 secret) (content a s p) (content b t q) := by
  rw [code, code, Hmac.Collides]
  constructor
  · intro h
    by_cases hcontent : content a s p = content b t q
    · exact .inl hcontent
    · exact .inr ⟨hcontent, h⟩
  · rintro (h | h)
    · rw [h]
    · exact h.2

/-- What is signed for messages is the same only for one message, one second and one payload. What
was signed for one of them is accepted for no other, unless the code collides. -/
theorem content_unambiguous (m n : Message) (s t : Int) (p q : Octets) :
    (content m.webhookId s p = content n.webhookId t q ↔ m.id = n.id ∧ s = t ∧ p = q)
      ∧ ∀ secret : String,
        verify m.webhookId s p secret (sign n.webhookId secret q t).token = true
          ↔ (m.id = n.id ∧ s = t ∧ p = q)
            ∨ Hmac.Collides (utf8 secret) (content m.webhookId s p)
              (content n.webhookId t q) := by
  have hcontent : content m.webhookId s p = content n.webhookId t q
      ↔ m.id = n.id ∧ s = t ∧ p = q := by
    rw [content_eq_iff m.point_not_mem_webhookId n.point_not_mem_webhookId, Message.webhookId_inj]
  refine ⟨hcontent, fun secret => ?_⟩
  rw [verify_token_iff, code_eq_iff, hcontent]

end Signature

end WebhookDelivery
