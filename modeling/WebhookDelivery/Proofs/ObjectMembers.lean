import WebhookDelivery.Json

/-!
# What objects hold under a name

An object is a list of members, each under a name. What is found under a name does not depend on the
order of the members if each name stands once, and each way of making one list from others comes
with what is then found under every name.

* `lookup_perm`, `lookup_filter`, `lookup_set` — members put in another order, left out, replaced.
* `Json.find?_overlay` — one object laid over another.
-/

namespace WebhookDelivery

-- ---------------------------------------------------------------------------
-- Members under their names
-- ---------------------------------------------------------------------------

section Lookup

variable {α : Type} {ms ns : List (String × α)} {name key : String} {a b : α}

/-- The first member decides, if it has the name. -/
theorem lookup_cons_if (m : String × α) (ms : List (String × α)) (key : String) :
    (m :: ms).lookup key = if key = m.1 then some m.2 else ms.lookup key := by
  rw [List.lookup_cons]
  split
  · rename_i heq
    rw [if_pos (beq_iff_eq.mp heq)]
  · rename_i hne
    rw [if_neg (by simpa using hne)]

theorem mem_of_lookup (h : ms.lookup name = some a) : (name, a) ∈ ms := by
  obtain ⟨before, after, rfl, -⟩ := List.lookup_eq_some_iff.mp h
  simp

theorem mem_names_of_lookup (h : ms.lookup name = some a) : name ∈ ms.map (·.1) :=
  List.mem_map_of_mem (f := (·.1)) (mem_of_lookup h)

/-- Where each name stands once, what stands under it is found. -/
theorem lookup_eq_some_iff_mem (hnodup : (ms.map (·.1)).Nodup) :
    ms.lookup name = some a ↔ (name, a) ∈ ms := by
  refine ⟨mem_of_lookup, fun hmem => ?_⟩
  induction ms with
  | nil => cases hmem
  | cons m ms ih =>
    rw [List.map_cons, List.nodup_cons] at hnodup
    rw [lookup_cons_if]
    obtain rfl | hmem := List.mem_cons.mp hmem
    · exact if_pos rfl
    · rw [if_neg, ih hnodup.2 hmem]
      rintro rfl
      exact hnodup.1 (List.mem_map_of_mem (f := (·.1)) hmem)

/-- Where each name stands once, the order does not matter. -/
theorem lookup_perm (hperm : ms.Perm ns) (hnodup : (ms.map (·.1)).Nodup) (name : String) :
    ms.lookup name = ns.lookup name := by
  have hnodup' := (hperm.map (·.1)).nodup_iff.mp hnodup
  refine Option.ext fun a => ?_
  rw [lookup_eq_some_iff_mem hnodup, lookup_eq_some_iff_mem hnodup', hperm.mem_iff]

/-- Members that are kept are found as before, and others are not found. -/
theorem lookup_filter (keep : String → Bool) (ms : List (String × α)) (key : String) :
    (ms.filter fun m => keep m.1).lookup key = if keep key then ms.lookup key else none := by
  induction ms with
  | nil => simp
  | cons m ms ih =>
    rw [List.filter_cons, lookup_cons_if]
    -- a member that is dropped may be the one that is sought
    cases hkeep : keep m.1 with
    | true =>
      rw [if_pos rfl, lookup_cons_if, ih]
      split
      · rename_i heq
        rw [heq, if_pos hkeep]
      · rfl
    | false =>
      rw [if_neg Bool.false_ne_true, ih]
      split
      · rename_i hkey
        rw [if_neg]
        rintro rfl
        rw [hkeep] at hkey
        cases hkey
      · rfl

/-- A member replaced where it stands. -/
theorem lookup_set {i : Nat} (hnodup : (ms.map (·.1)).Nodup) (hi : (ms.map (·.1))[i]? = some name)
    (a : α) (key : String) :
    (ms.set i (name, a)).lookup key = if key = name then some a else ms.lookup key := by
  induction ms generalizing i with
  | nil => simp at hi
  | cons m ms ih =>
    rw [List.map_cons, List.nodup_cons] at hnodup
    cases i with
    | zero =>
      obtain rfl : m.1 = name := by simpa using hi
      rw [List.set_cons_zero, lookup_cons_if, lookup_cons_if]
      split <;> rfl
    | succ i =>
      rw [List.map_cons, List.getElem?_cons_succ] at hi
      rw [List.set_cons_succ, lookup_cons_if, lookup_cons_if, ih hnodup.2 hi]
      split
      · rename_i heq
        -- the name does not come twice, so the first member does not have it
        rw [if_neg]
        rintro rfl
        exact hnodup.1 (heq ▸ List.mem_of_getElem? hi)
      · rfl

end Lookup

-- ---------------------------------------------------------------------------
-- One object laid over another
-- ---------------------------------------------------------------------------

namespace Json

/-- What an object holds under a name. -/
def find? (v : Json) (name : String) : Option Json :=
  (v.members? []).bind (·.lookup name)

variable {base top : List (String × Json)} {name : String}

/-- Under each name of the base, an overlay holds the base overlaid with what is on top. -/
theorem lookup_overlayMembers (base top : List (String × Json)) (name : String) :
    (overlayMembers base top).lookup name
      = (base.lookup name).map fun v => (top.lookup name).elim v v.overlay := by
  induction base with
  | nil => rw [overlayMembers]; rfl
  | cons m base ih =>
    rw [overlayMembers, lookup_cons_if, lookup_cons_if, ih]
    split
    · rename_i heq
      rw [heq]
      rfl
    · rfl

/-- What is not an object replaces what it is laid over. -/
theorem find?_overlay (hreplace : ∀ w, top.lookup name = some w → ∀ v : Json, v.overlay w = w) :
    ((obj base).overlay (obj top)).find? name = (top.lookup name).or (base.lookup name) := by
  rw [overlay]
  change List.lookup name (_ ++ _) = _
  rw [List.lookup_append, lookup_overlayMembers,
    lookup_filter fun name => (base.lookup name).isNone]
  cases hbase : base.lookup name with
  | none => simp
  | some v =>
    cases htop : top.lookup name with
    | none => simp
    | some w => simp [hreplace w htop]

end Json

end WebhookDelivery
