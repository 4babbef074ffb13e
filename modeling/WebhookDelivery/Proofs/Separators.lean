import WebhookDelivery.Domain
import WebhookDelivery.Url.Reader

/-!
# Texts between separators

Addresses are cut at points, names at points too, and paths at slashes of either kind. All three are
`cutAt`, for different separators, and it undoes the writing of a separator between parts that hold
none.

* `cutAt_intercalate`, `intercalate_cutAt` — cutting and joining undo each other.
* `mem_of_mem_cutAt` — what the parts consist of.
* `takeWhile_until`, `dropWhile_until` — a text up to a character.
-/

namespace WebhookDelivery

/-- A text cut at its separators. -/
def cutAt (isSep : Char → Bool) (cs : List Char) : List (List Char) :=
  cs.foldr (fun c parts =>
    if isSep c then [] :: parts
    else match parts with
      | part :: others => (c :: part) :: others
      | [] => [[c]]) [[]]

/-- The parts of an address are cut so. -/
theorem Address.splitAt_eq (sep : Char) (cs : List Char) :
    splitAt sep cs = cutAt (· = sep) cs := by
  unfold splitAt cutAt
  congr
  funext c parts
  by_cases hc : c = sep
  · simp [hc]
  · cases parts <;> simp [hc]

/-- The labels of a name are cut so. -/
theorem Domain.splitLabels_eq (cs : List Char) : splitLabels cs = cutAt (· = '.') cs := by
  unfold splitLabels cutAt
  congr
  funext c parts
  by_cases hc : c = '.'
  · simp [hc]
  · cases parts <;> simp [hc]

theorem Url.splitSegments_eq (cs : List Char) : splitSegments cs = cutAt isSlash cs :=
  rfl

section Cut

variable {isSep : Char → Bool} {c sep : Char} {cs part : List Char} {parts : List (List Char)}

theorem cutAt_cons_of_sep (hc : isSep c = true) : cutAt isSep (c :: cs) = [] :: cutAt isSep cs := by
  simp [cutAt, hc]

/-- There is always a part, be it an empty one. -/
theorem cutAt_ne_nil (isSep : Char → Bool) (cs : List Char) : cutAt isSep cs ≠ [] := by
  cases cs with
  | nil => simp [cutAt]
  | cons c cs =>
    rw [cutAt, List.foldr_cons]
    split
    · simp
    · split <;> simp

/-- A character that is no separator goes to the first part. -/
theorem cutAt_cons_of_not_sep (cs : List Char) (hc : isSep c = false) :
    ∃ part others, cutAt isSep cs = part :: others
      ∧ cutAt isSep (c :: cs) = (c :: part) :: others := by
  obtain ⟨part, others, hparts⟩ := List.exists_cons_of_ne_nil (cutAt_ne_nil isSep cs)
  refine ⟨part, others, hparts, ?_⟩
  rw [cutAt, List.foldr_cons, hc]
  rw [cutAt] at hparts
  rw [hparts]
  rfl

/-- A text without separators is one part. -/
theorem cutAt_of_not_sep (h : ∀ c ∈ cs, isSep c = false) : cutAt isSep cs = [cs] := by
  induction cs with
  | nil => rfl
  | cons c cs ih =>
    obtain ⟨hc, hcs⟩ := List.forall_mem_cons.mp h
    obtain ⟨part, others, hparts, hcons⟩ := cutAt_cons_of_not_sep cs hc
    rw [ih hcs] at hparts
    obtain ⟨rfl, rfl⟩ := List.cons.inj hparts
    exact hcons

/-- The text before the first separator is the first part. -/
theorem cutAt_append (hpart : ∀ c ∈ part, isSep c = false) (hsep : isSep sep = true) :
    cutAt isSep (part ++ sep :: cs) = part :: cutAt isSep cs := by
  induction part with
  | nil => exact cutAt_cons_of_sep hsep
  | cons c part ih =>
    obtain ⟨hc, hpart⟩ := List.forall_mem_cons.mp hpart
    obtain ⟨first, others, hparts, hcons⟩ := cutAt_cons_of_not_sep (part ++ sep :: cs) hc
    rw [ih hpart] at hparts
    obtain ⟨rfl, rfl⟩ := List.cons.inj hparts
    exact hcons

/-- Parts that were joined by separators are cut apart again. -/
theorem cutAt_intercalate (hparts : parts ≠ []) (hsep : isSep sep = true)
    (h : ∀ part ∈ parts, ∀ c ∈ part, isSep c = false) :
    cutAt isSep (List.intercalate [sep] parts) = parts := by
  induction parts with
  | nil => exact absurd rfl hparts
  | cons part others ih =>
    obtain ⟨hpart, hothers⟩ := List.forall_mem_cons.mp h
    cases others with
    | nil =>
      rw [List.intercalate_singleton]
      exact cutAt_of_not_sep hpart
    | cons next others =>
      rw [List.intercalate_cons_cons, List.append_assoc, List.singleton_append,
        cutAt_append hpart hsep, ih (by simp) hothers]

/-- A text that was cut at one character is put together again by it. -/
theorem intercalate_cutAt (sep : Char) (cs : List Char) :
    List.intercalate [sep] (cutAt (· = sep) cs) = cs := by
  induction cs with
  | nil => rfl
  | cons c cs ih =>
    -- a separator begins a new part, any other character goes into the first
    by_cases hc : c = sep
    · subst hc
      obtain ⟨part, others, hparts⟩ :=
        List.exists_cons_of_ne_nil (cutAt_ne_nil (· = c) cs)
      rw [cutAt_cons_of_sep (by simp), hparts, List.intercalate_cons_cons, ← hparts, ih]
      rfl
    · obtain ⟨part, others, hparts, hcons⟩ : ∃ part others, cutAt (· = sep) cs = part :: others
          ∧ cutAt (· = sep) (c :: cs) = (c :: part) :: others :=
        cutAt_cons_of_not_sep cs (decide_eq_false hc)
      rw [hparts] at ih
      rw [hcons]
      cases others with
      | nil =>
        rw [List.intercalate_singleton] at ih ⊢
        rw [ih]
      | cons next others =>
        rw [List.intercalate_cons_cons] at ih ⊢
        rw [List.cons_append, List.cons_append, ih]

/-- Parts hold the characters of the text, and no separators. -/
theorem mem_of_mem_cutAt (hpart : part ∈ cutAt isSep cs) (hc : c ∈ part) :
    c ∈ cs ∧ isSep c = false := by
  -- on the text, along `cutAt`
  induction cs generalizing part with
  | nil =>
    obtain rfl := List.mem_singleton.mp hpart
    cases hc
  | cons d cs ih =>
    by_cases hd : isSep d = true
    · rw [cutAt_cons_of_sep hd, List.mem_cons] at hpart
      rcases hpart with rfl | hpart
      · cases hc
      · obtain ⟨hmem, hfree⟩ := ih hpart hc
        exact ⟨List.mem_cons_of_mem _ hmem, hfree⟩
    · rw [Bool.not_eq_true] at hd
      obtain ⟨first, others, hparts, hcons⟩ := cutAt_cons_of_not_sep cs hd
      rw [hcons, List.mem_cons] at hpart
      rw [hparts] at ih
      rcases hpart with rfl | hpart
      · rcases List.mem_cons.mp hc with rfl | hc
        · exact ⟨List.mem_cons_self, hd⟩
        · obtain ⟨hmem, hfree⟩ := ih List.mem_cons_self hc
          exact ⟨List.mem_cons_of_mem _ hmem, hfree⟩
      · obtain ⟨hmem, hfree⟩ := ih (List.mem_cons_of_mem _ hpart) hc
        exact ⟨List.mem_cons_of_mem _ hmem, hfree⟩

end Cut

/-- What is written between separators is a separator or from one of the parts. -/
theorem mem_intercalate {sep c : Char} {parts : List (List Char)}
    (h : c ∈ List.intercalate [sep] parts) : c = sep ∨ ∃ part ∈ parts, c ∈ part := by
  induction parts with
  | nil => cases h
  | cons part others ih =>
    cases others with
    | nil =>
      rw [List.intercalate_singleton] at h
      exact .inr ⟨part, List.mem_cons_self, h⟩
    | cons next others =>
      rw [List.intercalate_cons_cons, List.append_assoc, List.mem_append, List.singleton_append,
        List.mem_cons] at h
      rcases h with h | rfl | h
      · exact .inr ⟨part, List.mem_cons_self, h⟩
      · exact .inl rfl
      · rcases ih h with hsep | ⟨found, hfound, hc⟩
        · exact .inl hsep
        · exact .inr ⟨found, List.mem_cons_of_mem _ hfound, hc⟩

-- ---------------------------------------------------------------------------
-- Up to a character
-- ---------------------------------------------------------------------------

section Until

variable {α : Type} {p : α → Bool} {cs after : List α}

/-- What is taken while something holds ends where it does not hold any more. -/
theorem takeWhile_until (h : ∀ c ∈ cs, p c = true) (hafter : ∀ c ∈ after.head?, p c = false) :
    (cs ++ after).takeWhile p = cs := by
  rw [List.takeWhile_append_of_pos h]
  cases after with
  | nil => exact List.append_nil cs
  | cons c after =>
    rw [List.takeWhile_cons_of_neg (by simp [hafter c rfl]), List.append_nil]

theorem dropWhile_none (h : ∀ c ∈ cs.head?, p c = false) : cs.dropWhile p = cs := by
  cases cs with
  | nil => rfl
  | cons c cs => rw [List.dropWhile_cons_of_neg (by simp [h c rfl])]

/-- What is left begins where it does not hold any more. -/
theorem dropWhile_until (h : ∀ c ∈ cs, p c = true) (hafter : ∀ c ∈ after.head?, p c = false) :
    (cs ++ after).dropWhile p = after := by
  rw [List.dropWhile_append_of_pos h, dropWhile_none hafter]

theorem takeWhile_all (h : ∀ c ∈ cs, p c = true) : cs.takeWhile p = cs := by
  have htake := takeWhile_until h fun c (hc : c ∈ ([] : List α).head?) => nomatch hc
  rwa [List.append_nil] at htake

theorem dropWhile_all (h : ∀ c ∈ cs, p c = true) : cs.dropWhile p = [] := by
  have hdrop := dropWhile_until h fun c (hc : c ∈ ([] : List α).head?) => nomatch hc
  rwa [List.append_nil] at hdrop

/-- A text taken apart at the first place where a condition fails. -/
theorem exists_until (p : α → Bool) (cs : List α) : ∃ run after, cs = run ++ after
    ∧ (∀ c ∈ run, p c = true) ∧ ∀ c ∈ after.head?, p c = false := by
  induction cs with
  | nil => exact ⟨[], [], rfl, by simp, by simp⟩
  | cons c cs ih =>
    cases hc : p c with
    | false => exact ⟨[], c :: cs, rfl, by simp, by simp [hc]⟩
    | true =>
      obtain ⟨run, after, rfl, hrun, hafter⟩ := ih
      exact ⟨c :: run, after, rfl, List.forall_mem_cons.mpr ⟨hc, hrun⟩, hafter⟩

end Until

end WebhookDelivery
