import WebhookDelivery.Message

/-!
# The text of an identifier

An identifier travels through the queue as text. Its canonical text is read back as the same
identifier, so the entry that is pushed for a message names this message and no other.

* `Uuid.read?_chars` — the canonical text of a UUID is read as this UUID.
* `MessageId.ofText?_text` — the same for message identifiers, whose reader trims blanks first.
-/

namespace WebhookDelivery

-- ---------------------------------------------------------------------------
-- Digits
-- ---------------------------------------------------------------------------

/-- The lowest digits of a number are read as what is left of it above no digit. -/
theorem Hex.read?_lowDigits (count n : Nat) :
    Hex.read? (Hex.lowDigits count n) = some (n % Nat.pow 16 count) := by
  -- on the number of digits, the last of which is read last
  induction count generalizing n with
  | zero => simp [Hex.lowDigits, Hex.read?, Nat.mod_one]
  | succ count ih =>
    have hdigit : Hex.value? (Hex.digit (n % 16)) = some (n % 16) :=
      Hex.value?_digit (Nat.mod_lt _ (by omega))
    have hread := ih (n / 16)
    rw [Hex.read?] at hread
    rw [Hex.lowDigits, Hex.read?, List.foldlM_append, hread]
    simp only [Option.bind_eq_bind, Option.bind_some, List.foldlM_cons, List.foldlM_nil, hdigit,
      Option.map_some, Option.pure_def]
    congr 1
    have hpow : Nat.pow 16 (count + 1) = 16 * Nat.pow 16 count := Nat.mul_comm _ _
    rw [hpow, Nat.mod_mul]
    omega

theorem Hex.isBlank_digit {n : Nat} (h : n < 16) : isBlank (Hex.digit n) = false := by
  have hall : ∀ m : Fin 16, isBlank (Hex.digit m.val) = false := by decide
  exact hall ⟨n, h⟩

/-- Written digits are digits. -/
theorem Hex.exists_of_mem_lowDigits {count n : Nat} {c : Char} (h : c ∈ Hex.lowDigits count n) :
    ∃ d < 16, c = Hex.digit d := by
  induction count generalizing n with
  | zero => simp [Hex.lowDigits] at h
  | succ count ih =>
    rw [Hex.lowDigits, List.mem_append, List.mem_singleton] at h
    rcases h with h | rfl
    · exact ih h
    · exact ⟨n % 16, Nat.mod_lt _ (by omega), rfl⟩

-- ---------------------------------------------------------------------------
-- Groups
-- ---------------------------------------------------------------------------

namespace Uuid

/-- Thirty-two digits in their five groups are read as these digits. -/
theorem ofGroups?_group {cs : List Char} (h : cs.length = 32) :
    ofGroups? (group cs) = ofDigits? cs := by
  -- the digits in their five groups
  obtain ⟨a, b, c, d, e, rfl, ha, hb, hc, hd, he⟩ : ∃ a b c d e : List Char,
      cs = a ++ (b ++ (c ++ (d ++ e))) ∧ a.length = 8 ∧ b.length = 4 ∧ c.length = 4
        ∧ d.length = 4 ∧ e.length = 12 := by
    refine ⟨cs.take 8, (cs.drop 8).take 4, (cs.drop 12).take 4, (cs.drop 16).take 4, cs.drop 20,
      ?_, ?_, ?_, ?_, ?_, ?_⟩
    · have h1 : cs.drop 12 = (cs.drop 8).drop 4 := by rw [List.drop_drop]
      have h2 : cs.drop 16 = (cs.drop 12).drop 4 := by rw [List.drop_drop]
      have h3 : cs.drop 20 = (cs.drop 16).drop 4 := by rw [List.drop_drop]
      rw [h3, List.take_append_drop, h2, List.take_append_drop, h1, List.take_append_drop,
        List.take_append_drop]
    all_goals simp [h]
  have hgroup : group (a ++ (b ++ (c ++ (d ++ e))))
      = a ++ ('-' :: b ++ ('-' :: c ++ ('-' :: d ++ '-' :: e))) := by
    simp (disch := omega) [group, List.drop_append, List.drop_of_length_le, ha, hb, hc]
  rw [hgroup, ofGroups?, if_pos]
  · simp (disch := omega) [List.drop_append, List.drop_of_length_le, ha, hb, hc, hd]
  · simp [ha, hb, hc, hd, he]

theorem length_digits (u : Uuid) : u.digits.length = 32 :=
  Hex.length_lowDigits 32 u.value

/-- An identifier has thirty-six characters, its hyphens included. -/
theorem length_chars (u : Uuid) : u.chars.length = 36 := by
  simp [chars, group, u.length_digits]

/-- The canonical text of a UUID is read as this UUID. -/
theorem read?_chars (u : Uuid) : read? u.chars = some u := by
  have hread : Hex.read? u.digits = some u.value := by
    have hpow : Nat.pow 16 32 = 340282366920938463463374607431768211456 := by decide
    rw [digits, Hex.read?_lowDigits, hpow, Nat.mod_eq_of_lt u.value_lt]
  rw [read?, u.length_chars]
  show ofGroups? (group u.digits) = some u
  rw [ofGroups?_group u.length_digits, ofDigits?, if_pos u.length_digits, hread, Option.bind_some,
    dif_pos u.value_lt]

/-- Grouping digits adds hyphens and nothing else. -/
theorem mem_group {cs : List Char} {c : Char} (h : c ∈ group cs) : c ∈ cs ∨ c = '-' := by
  simp only [group, List.mem_append, List.mem_cons] at h
  rcases h with (((h | rfl | h) | rfl | h) | rfl | h) | rfl | h
  · exact Or.inl (List.mem_of_mem_take h)
  · exact Or.inr rfl
  · exact Or.inl (List.mem_of_mem_drop (List.mem_of_mem_take h))
  · exact Or.inr rfl
  · exact Or.inl (List.mem_of_mem_drop (List.mem_of_mem_take h))
  · exact Or.inr rfl
  · exact Or.inl (List.mem_of_mem_drop (List.mem_of_mem_take h))
  · exact Or.inr rfl
  · exact Or.inl (List.mem_of_mem_drop h)

/-- No character of an identifier is blank. -/
theorem not_isBlank_of_mem_chars {u : Uuid} {c : Char} (h : c ∈ u.chars) : isBlank c = false := by
  rcases mem_group h with h | rfl
  · obtain ⟨d, hd, rfl⟩ := Hex.exists_of_mem_lowDigits h
    exact Hex.isBlank_digit hd
  · decide

end Uuid

-- ---------------------------------------------------------------------------
-- Message identifiers
-- ---------------------------------------------------------------------------

/-- A text without blank characters has none at its ends. -/
theorem trimBlanks_eq_self {cs : List Char} (h : ∀ c ∈ cs, isBlank c = false) :
    trimBlanks cs = cs := by
  have hdrop : ∀ l : List Char, (∀ c ∈ l, isBlank c = false) → l.dropWhile isBlank = l := by
    intro l hl
    cases l with
    | nil => rfl
    | cons c rest => rw [List.dropWhile_cons_of_neg (by simp [hl c])]
  rw [trimBlanks, hdrop cs h, hdrop cs.reverse (by simpa using h), List.reverse_reverse]

namespace MessageId

/-- The canonical text of a message identifier is read as this identifier. -/
@[simp] theorem ofText?_text (id : MessageId) : ofText? id.text = some id := by
  rw [ofText?, text, Uuid.text, String.toList_ofList,
    trimBlanks_eq_self fun _ => Uuid.not_isBlank_of_mem_chars, Uuid.read?_chars]
  rfl

/-- Different identifiers have different texts. -/
theorem text_injective {a b : MessageId} (h : a.text = b.text) : a = b := by
  have hread := congrArg ofText? h
  rw [ofText?_text, ofText?_text] at hread
  exact Option.some.inj hread

end MessageId

end WebhookDelivery
