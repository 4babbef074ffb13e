import Mathlib
import WebhookDelivery.Proofs.SettingLayers

/-!
# Texts from the environment

Three settings are texts: the address of the database, the name of the queue and the filter of the
log. Set by a variable, such a setting should be what the variable says. The value of the variable
is read before the setting is taken from it, though, and whatever is read as something other than a
text does not suit the setting. A queue that is called `1` and a log that is filtered by the level
`3` end in a configuration that cannot be loaded, and a text in quotes loses them.

* `load_text`, `load_misfit`, `load_unreadable` — the three ways in which loading ends.
* `text_kept_iff` — the texts that are kept.
* `filter_kept` — a filter that is.
* `level_rejected` — one that is not.
-/

namespace WebhookDelivery.Settings

/-- The settings that are texts. -/
inductive TextSetting where
  | databaseUrl
  | queueName
  | logFilter
  deriving DecidableEq, Repr

namespace TextSetting

/-- The name of the setting. -/
def key : TextSetting → String
  | databaseUrl => "database_url"
  | queueName => "queue_name"
  | logFilter => "rust_log"

/-- The variable that sets it. -/
def variableName : TextSetting → String
  | databaseUrl => "DATABASE_URL"
  | queueName => "QUEUE_NAME"
  | logFilter => "RUST_LOG"

/-- What the settings hold of it. -/
def of (s : Settings) : TextSetting → String
  | databaseUrl => s.databaseUrl
  | queueName => s.queueName
  | logFilter => s.logFilter

/-- The usual settings but for this one. -/
def alone (text : String) : TextSetting → Settings
  | databaseUrl => { databaseUrl := text }
  | queueName => { queueName := text }
  | logFilter => { logFilter := text }

variable (x : TextSetting) {text : String}

theorem key_mem : x.key ∈ keys := by
  cases x <;> decide

theorem key_toUpper : x.key.toUpper = x.variableName := by
  cases x <;> decide +kernel

theorem of_alone (text : String) : x.of (x.alone text) = text := by
  cases x <;> rfl

theorem set?_key (v : Json) : ({} : Settings).set? x.key v = v.string?.map (x.alone ·) := by
  cases x <;> rfl

theorem misfit_key (v : Json) : misfit x.key v = .wrongType x.key := by
  cases x <;> cases v <;> rfl

theorem problem?_alone (hne : text ≠ "") : (x.alone text).problem? = none := by
  have hjitter : (0 : Float) ≤ 0 ∧ (0 : Float) ≤ 1 := by decide +kernel
  cases x <;> simp [problem?, checks, alone, hne, hjitter]

end TextSetting

-- ---------------------------------------------------------------------------
-- A single variable
-- ---------------------------------------------------------------------------

/-- A layer of one setting has only that to be taken. -/
theorem take_single (s : Settings) (key name : String) (v : Json) :
    take [(name, v)] s key = if key = name then take [(name, v)] s name else .ok s := by
  split
  · rename_i heq
    rw [heq]
  · rename_i hne
    rw [take, lookup_cons_if, if_neg hne]
    rfl

/-- Where one name only is set, taking all settings is taking that one. -/
theorem foldlM_take_single {names : List String} (hnodup : names.Nodup) (s : Settings)
    (name : String) (v : Json) :
    names.foldlM (take [(name, v)]) s
      = if name ∈ names then take [(name, v)] s name else .ok s := by
  -- on the names, none of which comes twice
  induction names generalizing s with
  | nil => rfl
  | cons key names ih =>
    obtain ⟨hnew, hnodup⟩ := List.nodup_cons.mp hnodup
    rw [List.foldlM_cons, take_single]
    split
    · rename_i heq
      subst heq
      rw [if_pos List.mem_cons_self]
      cases take [(key, v)] s key with
      | error e => rfl
      | ok s' => exact (ih hnodup s').trans (if_neg hnew)
    · rename_i hne
      refine (ih hnodup s).trans ?_
      simp [Ne.symm hne]

/-- A layer of one setting is merged by taking that setting. -/
theorem ofLayers_single {key : String} (hkey : key ∈ keys) (v : Json) :
    ofLayers [(key, v)] = take [(key, v)] {} key := by
  have hperm : sortedKeys.Perm keys := List.mergeSort_perm _ _
  rw [ofLayers, foldlM_take_single (hperm.nodup_iff.mpr (by decide)),
    if_pos (hperm.mem_iff.mpr hkey)]

/-- One variable is loaded by taking its value and checking the whole. -/
theorem load_single {key text : String} {v : Json} (hkey : key ∈ keys)
    (hv : Environment.value? text = some v) :
    load none [(key.toUpper, text)] = take [(key, v)] {} key >>= validate := by
  have hlayer : Environment.layer? [(key.toUpper, text)] = some (.obj [(key, v)]) := by
    rw [Environment.layer?_eq, List.mergeSort_singleton, List.foldlM_cons, Environment.lay,
      Environment.layerOf?_toUpper hkey hv]
    rfl
  rw [load, readEnvironment, hlayer, ← ofLayers_single hkey]
  rfl

-- ---------------------------------------------------------------------------
-- A variable for a text
-- ---------------------------------------------------------------------------

variable (x : TextSetting) {text s : String} {v : Json}

theorem str_of_string? (h : v.string? = some s) : v = .str s := by
  cases v with
  | str _ => exact congrArg Json.str (Option.some.inj h)
  | _ => cases h

/-- A value that is read as a text is what the setting becomes. -/
theorem load_text (hv : Environment.value? text = some (.str s)) :
    load none [(x.variableName, text)] = validate (x.alone s) := by
  rw [← x.key_toUpper, load_single x.key_mem hv, take, lookup_cons_if, if_pos rfl]
  simp only [x.set?_key]
  rfl

/-- A value that is read as anything else does not suit the setting. -/
theorem load_misfit (hv : Environment.value? text = some v) (hstr : v.string? = none) :
    load none [(x.variableName, text)] = .error (.wrongType x.key) := by
  rw [← x.key_toUpper, load_single x.key_mem hv, take, lookup_cons_if, if_pos rfl]
  simp only [x.set?_key, hstr, x.misfit_key]
  rfl

/-- A text in which a character is to be cut is not loaded. -/
theorem load_unreadable (hv : Environment.value? text = none) :
    load none [(x.variableName, text)] = .error .cutCharacter := by
  have hlayer : Environment.layer? [(x.variableName, text)] = none := by
    rw [← x.key_toUpper, Environment.layer?_eq, List.mergeSort_singleton, List.foldlM_cons,
      Environment.lay, Environment.layerOf?, Environment.way?_toUpper x.key x.key_mem, hv]
    rfl
  rw [load, readEnvironment, hlayer]
  rfl

/-- A text without blanks around it is what the setting becomes exactly if it has no form of another
value and no character is to be cut in it. -/
theorem text_kept_iff (hne : text ≠ "") (htrim : trim text = text) :
    (∃ s, load none [(x.variableName, text)] = .ok s ∧ x.of s = text)
      ↔ Environment.IsPlain text := by
  have hchars : trimBlanks text.toList = text.toList := by
    have hlist := congrArg String.toList htrim
    rwa [trim, String.toList_ofList] at hlist
  rw [← Environment.value?_eq_self_iff hchars]
  constructor
  · rintro ⟨s, hload, hof⟩
    -- a value that cannot be read is not loaded, nor is one that is no text
    cases hv : Environment.value? text with
    | none =>
      rw [load_unreadable x hv] at hload
      cases hload
    | some v =>
      cases hstr : v.string? with
      | none =>
        rw [load_misfit x hv hstr] at hload
        cases hload
      | some u =>
        obtain rfl := str_of_string? hstr
        rw [load_text x hv, validate] at hload
        split at hload
        · obtain rfl := Except.ok.inj hload
          rw [← hof, x.of_alone]
        · cases hload
  · intro hv
    refine ⟨x.alone text, ?_, x.of_alone text⟩
    rw [load_text x hv, validate, x.problem?_alone hne]

/-- A filter of two parts is read as far as the comma and then kept as a whole. -/
theorem filter_kept : "courier=debug,sqlx=3" ≠ "" ∧
    trim "courier=debug,sqlx=3" = "courier=debug,sqlx=3" ∧
    ∃ s, load none [("RUST_LOG", "courier=debug,sqlx=3")] = .ok s ∧
      s.logFilter = "courier=debug,sqlx=3" := by
  have hne : "courier=debug,sqlx=3" ≠ "" := by decide
  have htrim : trim "courier=debug,sqlx=3" = "courier=debug,sqlx=3" := by decide +kernel
  refine ⟨hne, htrim, (text_kept_iff .logFilter hne htrim).mpr ?_⟩
  exact Environment.isPlain_of_unmarked (c := '=') (by decide +kernel) (by decide +kernel) rfl

/-- A filter that is a level alone is read as a number. -/
theorem level_rejected : "3" ≠ "" ∧ trim "3" = "3" ∧
    load none [("RUST_LOG", "3")] = .error (.wrongType "rust_log") := by
  have hv : Environment.value? "3" = some (.int 3) := by cbv
  exact ⟨by decide, by decide +kernel, load_misfit .logFilter hv rfl⟩

end WebhookDelivery.Settings
