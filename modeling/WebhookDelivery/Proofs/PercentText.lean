import WebhookDelivery.Proofs.DomainNames
import WebhookDelivery.Proofs.Utf8Text

/-!
# Text without anything left to encode

Percent encoding leaves nothing to encode. This rests on the sets of characters: none of them holds
the percent sign or a digit. Reading a host goes the other way, it decodes; a name that holds no
percent sign is not changed by that.

What is outside a set is visible, and does not end the part of a URL that the set is for.

* `Percent.not_encoded_of_mem_encode` — what is encoded holds nothing to encode.
* `Percent.decode_text` — a text without a percent sign is decoded as itself.
* `Percent.facts_inUserInfo` and so on — what is known of a character that is not encoded.
* `Percent.isInert_of_isPlain` — what is known of a character of a name.
-/

namespace WebhookDelivery

/-- Whether a character is ASCII, and neither a control nor the space. -/
def IsVisible (c : Char) : Prop :=
  0x20 < c.toNat ∧ c.toNat < 0x7f

instance (c : Char) : Decidable (IsVisible c) :=
  inferInstanceAs (Decidable (_ ∧ _))

/-- What holds of the first characters one by one holds of all ASCII characters. -/
theorem forall_ascii {P : Char → Prop} (h : ∀ k : Fin 128, P (Char.ofNat k)) {c : Char}
    (hc : c.toNat < 0x80) : P c := by
  have hk := h ⟨c.toNat, hc⟩
  rwa [Char.ofNat_toNat] at hk

namespace Percent

-- ---------------------------------------------------------------------------
-- Encoding
-- ---------------------------------------------------------------------------

variable {encoded : Char → Bool} {c : Char} {cs : List Char}

/-- Where nothing is to be encoded, encoding changes nothing. -/
theorem encode_eq_self (h : ∀ c ∈ cs, encoded c = false) : encode encoded cs = cs := by
  induction cs with
  | nil => rfl
  | cons c cs ih =>
    obtain ⟨hc, hcs⟩ := List.forall_mem_cons.mp h
    have hrest := ih hcs
    rw [encode] at hrest ⊢
    rw [List.flatMap_cons, hrest, hc, if_neg Bool.false_ne_true, List.singleton_append]

/-- Whether a character is one that octets are encoded with. -/
def IsEscape (c : Char) : Prop :=
  c = '%' ∨ ∃ n, n < 16 ∧ c = Hex.upperDigit n

/-- An octet is encoded with escape characters only. -/
theorem isEscape_of_mem_octet {b : UInt8} (h : c ∈ octet b) : IsEscape c := by
  have hb := b.toNat_lt
  simp only [octet, List.mem_cons, List.not_mem_nil, or_false] at h
  rcases h with rfl | rfl | rfl
  · exact .inl rfl
  · exact .inr ⟨_, by omega, rfl⟩
  · exact .inr ⟨_, by omega, rfl⟩

/-- An encoded text is made of its own characters outside the set and of encoded octets. -/
theorem mem_encode (h : c ∈ encode encoded cs) : (c ∈ cs ∧ encoded c = false) ∨ IsEscape c := by
  obtain ⟨d, hd, hc⟩ := List.mem_flatMap.mp h
  split at hc
  · obtain ⟨b, -, hc⟩ := List.mem_flatMap.mp hc
    exact .inr (isEscape_of_mem_octet hc)
  · rename_i hraw
    obtain rfl := List.mem_singleton.mp hc
    exact .inl ⟨hd, Bool.eq_false_iff.mpr hraw⟩

/-- Whether a character may stand in every part of a URL, and is no slash. -/
structure IsFree (c : Char) : Prop where
  userInfo : inUserInfo c = false
  path : inPath c = false
  query : inQuery c = false
  fragment : inFragment c = false
  slash : Url.isSlash c = false

/-- What octets are encoded with may stand everywhere. -/
theorem IsEscape.free (h : IsEscape c) : IsFree c := by
  rcases h with rfl | ⟨n, hn, rfl⟩
  · exact ⟨by decide, by decide, by decide, by decide, by decide⟩
  · have hall : ∀ k : Fin 16, inUserInfo (Hex.upperDigit k) = false
        ∧ inPath (Hex.upperDigit k) = false ∧ inQuery (Hex.upperDigit k) = false
        ∧ inFragment (Hex.upperDigit k) = false ∧ Url.isSlash (Hex.upperDigit k) = false := by
      decide
    obtain ⟨huserInfo, hpath, hquery, hfragment, hslash⟩ := hall ⟨n, hn⟩
    exact ⟨huserInfo, hpath, hquery, hfragment, hslash⟩

/-- What has been encoded holds nothing that is to be encoded, as long as its set leaves alone what
octets are encoded with. -/
theorem not_encoded_of_mem_encode (hescape : ∀ d, IsEscape d → encoded d = false)
    (h : c ∈ encode encoded cs) : encoded c = false := by
  rcases mem_encode h with ⟨-, hc⟩ | hc
  · exact hc
  · exact hescape c hc

-- ---------------------------------------------------------------------------
-- The sets
-- ---------------------------------------------------------------------------

theorem lt_of_not_isControl (h : isControl c = false) : c.toNat < 0x7f := by
  rw [isControl, Bool.or_eq_false_iff, decide_eq_false_iff_not, decide_eq_false_iff_not] at h
  omega

/-- What a fragment does not encode is visible. -/
theorem facts_inFragment (h : inFragment c = false) : IsVisible c := by
  have hascii : c.toNat < 0x7f := by
    refine lt_of_not_isControl ?_
    simp only [inFragment, Bool.or_eq_false_iff] at h
    exact h.1.1.1.1.1
  have hall : ∀ k : Fin 128, inFragment (Char.ofNat k) = false → IsVisible (Char.ofNat k) := by
    decide +kernel
  exact forall_ascii (P := fun d => inFragment d = false → IsVisible d) hall (by omega) h

/-- What a query does not encode is visible, and does not end the query. -/
theorem facts_inQuery (h : inQuery c = false) : IsVisible c ∧ c ≠ '#' := by
  have hascii : c.toNat < 0x7f := by
    refine lt_of_not_isControl ?_
    simp only [inQuery, Bool.or_eq_false_iff] at h
    exact h.1.1.1.1.1.1
  have hall : ∀ k : Fin 128, inQuery (Char.ofNat k) = false →
      IsVisible (Char.ofNat k) ∧ Char.ofNat k ≠ '#' := by
    decide +kernel
  exact forall_ascii (P := fun d => inQuery d = false → IsVisible d ∧ d ≠ '#') hall (by omega) h

/-- What a path does not encode is visible, and does not end the path. -/
theorem facts_inPath (h : inPath c = false) : IsVisible c ∧ c ≠ '?' ∧ c ≠ '#' := by
  simp only [inPath, Bool.or_eq_false_iff, beq_eq_false_iff_ne] at h
  obtain ⟨⟨⟨⟨hfragment, hhash⟩, hquery⟩, -⟩, -⟩ := h
  exact ⟨facts_inFragment hfragment, hquery, hhash⟩

/-- What user information does not encode is visible, and does not end it. -/
theorem facts_inUserInfo (h : inUserInfo c = false) :
    IsVisible c ∧ c ≠ ':' ∧ c ≠ '@' ∧ Url.endsAuthority true c = false := by
  simp only [inUserInfo, Bool.or_eq_false_iff, beq_eq_false_iff_ne] at h
  obtain ⟨⟨⟨⟨⟨⟨⟨⟨⟨⟨hpath, hslash⟩, hcolon⟩, -⟩, -⟩, hat⟩, -⟩, hbackslash⟩, -⟩, -⟩, -⟩ := h
  obtain ⟨hvisible, hquery, hhash⟩ := facts_inPath hpath
  refine ⟨hvisible, hcolon, hat, ?_⟩
  simp [Url.endsAuthority, hslash, hquery, hhash, hbackslash]

/-- Whether a character has no meaning in an authority. -/
structure IsInert (c : Char) : Prop where
  visible : IsVisible c
  notPercent : c ≠ '%'
  notColon : c ≠ ':'
  notAt : c ≠ '@'
  notOpening : c ≠ '['
  notClosing : c ≠ ']'
  notEnding : Url.endsAuthority true c = false

/-- What may stand in the ASCII form of a name has no meaning in an authority. -/
theorem isInert_of_isPlain (h : Domain.IsPlain c) : IsInert c := by
  let P : Char → Prop := fun d => Domain.isForbidden d = false → IsVisible d ∧ d ≠ '%' ∧ d ≠ ':'
    ∧ d ≠ '@' ∧ d ≠ '[' ∧ d ≠ ']' ∧ Url.endsAuthority true d = false
  have hall : ∀ k : Fin 128, P (Char.ofNat k) := by
    decide +kernel
  obtain ⟨hvisible, hpercent, hcolon, hat, hopening, hclosing, hending⟩ :=
    forall_ascii hall h.1 h.2
  exact ⟨hvisible, hpercent, hcolon, hat, hopening, hclosing, hending⟩

-- ---------------------------------------------------------------------------
-- Decoding
-- ---------------------------------------------------------------------------

/-- Octets without a percent sign are decoded as themselves. -/
theorem decode_eq_self {bs : Octets} (h : ∀ b ∈ bs, b ≠ 37) : decode bs = bs := by
  induction bs with
  | nil => rfl
  | cons a bs ih =>
    obtain ⟨ha, hbs⟩ := List.forall_mem_cons.mp h
    match bs with
    | [] => rfl
    | [_] => rfl
    | b :: c :: rest =>
      rw [decode, if_neg ha]
      dsimp only
      rw [ih hbs]

/-- A text without a percent sign is decoded as itself. -/
theorem decode_text (h : ∀ c ∈ cs, c ≠ '%') :
    strictText? (decode (utf8 (String.ofList cs))) = some (String.ofList cs) := by
  have hmarks : ∀ b ∈ utf8 (String.ofList cs), b ≠ 37 := by
    rintro b hb rfl
    have hmem := (mem_utf8_iff_of_lt (c := '%') rfl (by decide)).mp hb
    rw [String.toList_ofList] at hmem
    exact h _ hmem rfl
  rw [decode_eq_self hmarks, strictText?_utf8]

end Percent

end WebhookDelivery
