import WebhookDelivery.Proofs.ObjectMembers
import WebhookDelivery.Proofs.PlainValues
import WebhookDelivery.Settings.Loading

/-!
# What the layers make of each setting

Settings are taken one after the other, and so are the variables of an environment. Neither order
matters, which shows once it is said of one step what is found afterwards under every name: a
setting that is put in place is found under its own and changes no other (`IsPut`), and a variable
that leads to a setting is found under that one only. A run then has at each name what the last
layer with that name says.

Layers and variables fit where they hold nothing for a setting that is not of its kind. The jitter,
which may have a point, is left out: nothing fits it.

* `Settings.set?_of_fits`, `Settings.ofLayers_of_fits` — one setting, and all of them.
* `Environment.lay_of_fits`, `Environment.layer?_of_fits` — one variable, and all of them.
* `Environment.layer?_eq_none_iff` — variables that cannot be read.
* `Settings.load_of_fits` — a file and an environment together.
-/

namespace WebhookDelivery

-- ---------------------------------------------------------------------------
-- Settings and their kinds
-- ---------------------------------------------------------------------------

namespace Settings

/-- What a setting can be set to. -/
inductive Kind where
  | text
  /-- A whole number of 32 bits. -/
  | word
  /-- A whole number of 64 bits. -/
  | long
  deriving DecidableEq, Repr

/-- Whether a value is one of a kind. -/
def Kind.Holds : Kind → Json → Prop
  | text, v => ∃ s, v = .str s
  | word, v => ∃ n : Nat, v = .int n ∧ n < 4294967296
  | long, v => ∃ n : Nat, v = .int n ∧ n < 18446744073709551616

/-- The kinds of all settings but the jitter. -/
def kinds : List (String × Kind) :=
  [("database_url", .text), ("database_max_connections", .word),
    ("database_min_connections", .word),
    ("database_connection_timeout", .long), ("queue_name", .text), ("queue_pop_timeout_ms", .long),
    ("queue_poll_interval_ms", .long), ("worker_count", .long), ("delivery_timeout_seconds", .long),
    ("shutdown_timeout_seconds", .long), ("max_attempts", .word), ("retry_base_delay_ms", .long),
    ("retry_max_delay_ms", .long), ("scheduler_interval_ms", .long),
    ("scheduler_batch_size", .long), ("recovery_limit", .long), ("rust_log", .text)]

/-- A value that a setting can be set to. -/
def Fits (key : String) (v : Json) : Prop :=
  ∃ kind, (key, kind) ∈ kinds ∧ kind.Holds v

/-- What settings hold under a name. -/
def field? (s : Settings) (key : String) : Option Json :=
  s.toJson.find? key

/-- One setting changed and no other. -/
def IsPut (s s' : Settings) (key : String) (v : Json) : Prop :=
  ∀ name, s'.field? name = if name = key then some v else s.field? name

/-- Settings of which one member is set have that setting changed and no other. -/
theorem isPut_of_members {s s' : Settings} {i : Nat} {key : String} {v : Json}
    (hkey : keys[i]? = some key)
    (hput : s'.toJson.members? [] = (s.toJson.members? []).map fun ms => ms.set i (key, v)) :
    IsPut s s' key v := by
  intro name
  rw [field?, Json.find?, hput]
  have hnames : (((s.toJson.members? []).getD []).map (·.1)).Nodup := show keys.Nodup by decide
  exact lookup_set hnames hkey v name

variable {s : Settings} {key : String} {v : Json} {kind : Kind}

theorem string?_of_holds (hv : Kind.text.Holds v) : ∃ x, v.string? = some x ∧ .str x = v := by
  obtain ⟨x, rfl⟩ := hv
  exact ⟨x, rfl, rfl⟩

/-- A number of 32 bits is taken by a setting that is one. -/
theorem uint32?_of_holds (hv : Kind.word.Holds v) :
    ∃ x, v.uint32? = some x ∧ .int x.toNat = v := by
  obtain ⟨n, rfl, hn⟩ := hv
  have hword : (UInt32.ofNat n).toNat = n := UInt32.toNat_ofNat_of_lt hn
  refine ⟨UInt32.ofNat n, ?_, by rw [hword]⟩
  rw [Json.uint32?, Json.intBetween?, if_pos ⟨by omega, by omega⟩]
  rfl

/-- A number of 64 bits is taken by a setting that is one. -/
theorem uint64?_of_holds (hv : Kind.long.Holds v) :
    ∃ x, v.uint64? = some x ∧ .int x.toNat = v := by
  obtain ⟨n, rfl, hn⟩ := hv
  have hword : (UInt64.ofNat n).toNat = n := UInt64.toNat_ofNat_of_lt hn
  refine ⟨UInt64.ofNat n, ?_, by rw [hword]⟩
  rw [Json.uint64?, Json.intBetween?, if_pos ⟨by omega, by omega⟩]
  rfl

/-- A setting is put where it stands among all, if what is put there is what was read. -/
theorem set_value {α : Type} {read : Json → Option α} {write : α → Json} (i : Nat)
    (put : α → Settings) (hv : ∃ x, read v = some x ∧ write x = v)
    (hkey : keys[i]? = some key := by rfl)
    (hset : s.set? key v = (read v).map put := by rfl)
    (hput : ∀ x, (put x).toJson.members? []
      = (s.toJson.members? []).map fun ms => ms.set i (key, write x) := by exact fun _ => rfl) :
    ∃ s', s.set? key v = some s' ∧ IsPut s s' key v := by
  obtain ⟨x, hread, hwrite⟩ := hv
  exact ⟨put x, by rw [hset, hread]; rfl, isPut_of_members hkey (by rw [hput, hwrite])⟩

/-- A value that fits is put in place and changes nothing else. -/
theorem set?_of_fits (s : Settings) (hfits : Fits key v) :
    ∃ s', s.set? key v = some s' ∧ IsPut s s' key v := by
  obtain ⟨kind, hkind, hv⟩ := hfits
  simp only [kinds, List.mem_cons, Prod.mk.injEq, List.not_mem_nil, or_false] at hkind
  -- one setting after the other; the jitter, at place 13, has no kind
  obtain ⟨rfl, rfl⟩ | ⟨rfl, rfl⟩ | ⟨rfl, rfl⟩ | ⟨rfl, rfl⟩ | ⟨rfl, rfl⟩ | ⟨rfl, rfl⟩ | ⟨rfl, rfl⟩ |
    ⟨rfl, rfl⟩ | ⟨rfl, rfl⟩ | ⟨rfl, rfl⟩ | ⟨rfl, rfl⟩ | ⟨rfl, rfl⟩ | ⟨rfl, rfl⟩ | ⟨rfl, rfl⟩ |
    ⟨rfl, rfl⟩ | ⟨rfl, rfl⟩ | ⟨rfl, rfl⟩ := hkind
  · exact set_value 0 (fun x => { s with databaseUrl := x }) (string?_of_holds hv)
  · exact set_value 1 (fun x => { s with databaseMaxConnections := x }) (uint32?_of_holds hv)
  · exact set_value 2 (fun x => { s with databaseMinConnections := x }) (uint32?_of_holds hv)
  · exact set_value 3 (fun x => { s with databaseConnectionTimeout := x }) (uint64?_of_holds hv)
  · exact set_value 4 (fun x => { s with queueName := x }) (string?_of_holds hv)
  · exact set_value 5 (fun x => { s with queuePopTimeoutMs := x }) (uint64?_of_holds hv)
  · exact set_value 6 (fun x => { s with queuePollIntervalMs := x }) (uint64?_of_holds hv)
  · exact set_value 7 (fun x => { s with workerCount := x }) (uint64?_of_holds hv)
  · exact set_value 8 (fun x => { s with deliveryTimeoutSeconds := x }) (uint64?_of_holds hv)
  · exact set_value 9 (fun x => { s with shutdownTimeoutSeconds := x }) (uint64?_of_holds hv)
  · exact set_value 10 (fun x => { s with maxAttempts := x }) (uint32?_of_holds hv)
  · exact set_value 11 (fun x => { s with retryBaseDelayMs := x }) (uint64?_of_holds hv)
  · exact set_value 12 (fun x => { s with retryMaxDelayMs := x }) (uint64?_of_holds hv)
  · exact set_value 14 (fun x => { s with schedulerIntervalMs := x }) (uint64?_of_holds hv)
  · exact set_value 15 (fun x => { s with schedulerBatchSize := x }) (uint64?_of_holds hv)
  · exact set_value 16 (fun x => { s with recoveryLimit := x }) (uint64?_of_holds hv)
  · exact set_value 17 (fun x => { s with logFilter := x }) (string?_of_holds hv)

-- ---------------------------------------------------------------------------
-- All settings
-- ---------------------------------------------------------------------------

variable {layers : List (String × Json)} {names : List String}

/-- Layers that hold nothing that a setting cannot be set to. -/
def AllFit (layers : List (String × Json)) : Prop :=
  ∀ key ∈ keys, ∀ v, layers.lookup key = some v → Fits key v

/-- A setting takes what the layers hold of it, or stays as it is. -/
theorem take_of_fits (s : Settings) (hfits : ∀ v, layers.lookup key = some v → Fits key v) :
    ∃ s', take layers s key = .ok s' ∧ ∀ name, s'.field? name
      = if name = key then (layers.lookup name).or (s.field? name) else s.field? name := by
  rw [take]
  -- what no layer holds is left alone
  cases hlookup : layers.lookup key with
  | none =>
    refine ⟨s, rfl, fun name => ?_⟩
    split
    · rename_i heq
      rw [heq, hlookup, Option.none_or]
    · rfl
  | some v =>
    obtain ⟨s', hset, hput⟩ := set?_of_fits s (hfits v hlookup)
    refine ⟨s', by simp only [hset], fun name => ?_⟩
    rw [hput]
    split
    · rename_i heq
      rw [heq, hlookup, Option.some_or]
    · rfl

/-- Settings taken one after the other: those named are as the layers have them, and the others as
they were. -/
theorem foldlM_take (s : Settings)
    (hfits : ∀ key ∈ names, ∀ v, layers.lookup key = some v → Fits key v) :
    ∃ merged, names.foldlM (take layers) s = .ok merged ∧ ∀ name, merged.field? name
      = if name ∈ names then (layers.lookup name).or (s.field? name) else s.field? name := by
  induction names generalizing s with
  | nil => exact ⟨s, rfl, fun name => by simp⟩
  | cons key names ih =>
    rw [List.forall_mem_cons] at hfits
    obtain ⟨s', htake, hs'⟩ := take_of_fits s hfits.1
    obtain ⟨merged, hfold, hmerged⟩ := ih s' hfits.2
    refine ⟨merged, ?_, fun name => ?_⟩
    · rw [List.foldlM_cons, htake]
      exact hfold
    · rw [hmerged, hs']
      by_cases hkey : name = key <;> by_cases hmem : name ∈ names <;>
        cases layers.lookup name <;> simp [hkey, hmem]

/-- Layers that fit are merged: a setting is what they hold of it, or its default. -/
theorem ofLayers_of_fits (hfit : AllFit layers) :
    ∃ merged, ofLayers layers = .ok merged ∧ ∀ key ∈ keys,
      merged.field? key = (layers.lookup key).or (({} : Settings).field? key) := by
  have hmem : ∀ key, key ∈ sortedKeys ↔ key ∈ keys := fun _ => List.mem_mergeSort
  obtain ⟨merged, hfold, hmerged⟩ :=
    foldlM_take {} fun key hkey => hfit key ((hmem key).mp hkey)
  exact ⟨merged, hfold, fun key hkey => by rw [hmerged, if_pos ((hmem key).mpr hkey)]⟩

end Settings

-- ---------------------------------------------------------------------------
-- What an environment says
-- ---------------------------------------------------------------------------

namespace Environment

/-- The setting that the name of a variable leads to or into. -/
def target? (name : String) : Option String :=
  (way? name).bind (·.head?)

/-- Variables of which each that leads to a setting has the name of the setting in upper case, and a
value that the setting can be set to. -/
structure AreFit (vars : List (String × String)) : Prop where
  nodup : (vars.map (·.1)).Nodup
  fits : ∀ name text, (name, text) ∈ vars → ∀ key ∈ Settings.keys, target? name = some key →
    name = key.toUpper ∧ ∃ v, value? text = some v ∧ Settings.Fits key v

/-- What variables say of a setting. -/
def said? (vars : List (String × String)) (key : String) : Option Json :=
  (vars.lookup key.toUpper).bind value?

/-- A variable that is read and in which a character is to be cut. -/
def IsUnreadable (var : String × String) : Prop :=
  (way? var.1).isSome = true ∧ Breaks .item var.2.toList

/-- What one variable adds to the settings before it. -/
def lay (v : Json) (var : String × String) : Option Json :=
  (layerOf? var.1 var.2).map v.overlay

variable {vars : List (String × String)} {name text key : String} {v layer : Json}

/-- Variables are laid one over the other in the order of their names. -/
theorem layer?_eq (vars : List (String × String)) :
    layer? vars = (vars.mergeSort fun a b => a.1 ≤ b.1).foldlM lay (.obj []) :=
  rfl

/-- A variable adds no layer exactly if it cannot be read. -/
theorem layerOf?_eq_none_iff {var : String × String} :
    layerOf? var.1 var.2 = none ↔ IsUnreadable var := by
  rw [layerOf?, IsUnreadable, ← value?_eq_none_iff]
  cases way? var.1 <;> simp

/-- Laying variables fails exactly if one of them cannot be read. -/
theorem foldlM_lay_eq_none_iff : vars.foldlM lay v = none ↔ ∃ var ∈ vars, IsUnreadable var := by
  induction vars generalizing v with
  | nil => simp
  | cons var vars ih =>
    simp only [List.foldlM_cons, List.mem_cons, exists_eq_or_imp]
    rw [← layerOf?_eq_none_iff, lay]
    cases layerOf? var.1 var.2 with
    | none => simp
    | some layer => simpa using ih

theorem layer?_eq_none_iff : layer? vars = none ↔ ∃ var ∈ vars, IsUnreadable var := by
  rw [layer?_eq, foldlM_lay_eq_none_iff]
  simp only [List.mem_mergeSort]

theorem go_ne_nil (cs part : List Char) : splitAtPoints.go cs part ≠ [] := by
  fun_induction splitAtPoints.go cs part <;> simp_all

/-- The way to a setting has a step at least. -/
theorem way_ne_nil {way : List String} (h : way? name = some way) : way ≠ [] := by
  rw [way?] at h
  split at h
  · cases h
  · rintro rfl
    exact go_ne_nil _ _ (List.map_eq_nil_iff.mp (Option.some.inj h))

/-- A variable says nothing of settings that it does not lead to. -/
theorem lookup_of_layerOf? (h : layerOf? name text = some layer) :
    ∃ top, layer = .obj top ∧ ∀ key, target? name ≠ some key → top.lookup key = none := by
  rw [layerOf?] at h
  cases hway : way? name with
  | none =>
    rw [hway] at h
    exact ⟨[], (Option.some.inj h).symm, fun _ _ => rfl⟩
  | some way =>
    -- all that the layer holds is under the first step of the way
    obtain ⟨first, way, rfl⟩ := List.exists_cons_of_ne_nil (way_ne_nil hway)
    rw [hway] at h
    obtain ⟨v, -, rfl⟩ := Option.map_eq_some_iff.mp h
    refine ⟨[(first, nest way v)], rfl, fun key hkey => ?_⟩
    rw [lookup_cons_if, if_neg]
    · rfl
    · rintro rfl
      exact hkey (by rw [target?, hway]; rfl)

theorem way?_toUpper : ∀ key ∈ Settings.keys, way? key.toUpper = some [key] := by
  decide +kernel

/-- A variable with the name of a setting in upper case holds that setting. -/
theorem layerOf?_toUpper (hkey : key ∈ Settings.keys) (hv : value? text = some v) :
    layerOf? key.toUpper text = some (.obj [(key, v)]) := by
  rw [layerOf?, way?_toUpper key hkey, hv]
  rfl

theorem target?_toUpper (hkey : key ∈ Settings.keys) : target? key.toUpper = some key := by
  rw [target?, way?_toUpper key hkey]
  rfl

/-- A value that a setting can be set to replaces what was there. -/
theorem overlay_of_fits (h : Settings.Fits key v) (w : Json) : w.overlay v = v := by
  obtain ⟨kind, -, hv⟩ := h
  cases kind with
  | text =>
    obtain ⟨x, rfl⟩ := hv
    cases w <;> rfl
  | word | long =>
    obtain ⟨n, rfl, -⟩ := hv
    cases w <;> rfl

/-- A variable is laid over what the ones before it said, setting by setting. -/
theorem lay_of_fits {base : List (String × Json)} {result : Json}
    (hfit : ∀ key ∈ Settings.keys, target? name = some key →
      name = key.toUpper ∧ ∃ v, value? text = some v ∧ Settings.Fits key v)
    (h : lay (.obj base) (name, text) = some result) :
    ∃ top, result = .obj top ∧ ∀ key ∈ Settings.keys, top.lookup key
      = if key.toUpper = name then value? text else base.lookup key := by
  obtain ⟨layer, hlayer, rfl⟩ := Option.map_eq_some_iff.mp h
  obtain ⟨top, rfl, hnone⟩ := lookup_of_layerOf? hlayer
  obtain ⟨both, hboth⟩ : ∃ both, (Json.obj base).overlay (.obj top) = .obj both :=
    ⟨_, by rw [Json.overlay]⟩
  refine ⟨both, hboth, fun key hkey => ?_⟩
  change (Json.obj both).find? key = _
  rw [← hboth]
  -- the variable leads to the setting, or says nothing of it
  split
  · rename_i hname
    obtain ⟨-, v, hv, hfits⟩ := hfit key hkey (hname ▸ target?_toUpper hkey)
    dsimp only at hlayer
    rw [← hname, layerOf?_toUpper hkey hv] at hlayer
    obtain rfl := Json.obj.inj (Option.some.inj hlayer)
    have hlookup : List.lookup key [(key, v)] = some v := by rw [lookup_cons_if, if_pos rfl]
    rw [Json.find?_overlay, hlookup, hv, Option.some_or]
    intro w hw
    obtain rfl := Option.some.inj (hlookup.symm.trans hw)
    exact overlay_of_fits hfits
  · rename_i hname
    have htarget : target? name ≠ some key := fun heq => hname (hfit key hkey heq).1.symm
    rw [Json.find?_overlay, hnone key htarget, Option.none_or]
    intro w hw
    rw [hnone key htarget] at hw
    cases hw

/-- What variables laid one over the other say of each setting. -/
theorem foldlM_lay {base : List (String × Json)} {result : Json} (hfit : AreFit vars)
    (h : vars.foldlM lay (.obj base) = some result) :
    ∃ top, result = .obj top ∧ ∀ key ∈ Settings.keys,
      top.lookup key = (said? vars key).or (base.lookup key) := by
  -- on the variables; `base` is what those before have said
  induction vars generalizing base with
  | nil => exact ⟨base, (Option.some.inj h).symm, fun _ _ => rfl⟩
  | cons var vars ih =>
    obtain ⟨hnew, hnodup⟩ := List.nodup_cons.mp hfit.nodup
    obtain ⟨next, hnext, h⟩ := Option.bind_eq_some_iff.mp (List.foldlM_cons.symm.trans h)
    obtain ⟨mid, rfl, hmid⟩ := lay_of_fits (hfit.fits var.1 var.2 List.mem_cons_self) hnext
    obtain ⟨top, rfl, htop⟩ := ih ⟨hnodup, fun name text hmem =>
      hfit.fits name text (List.mem_cons_of_mem _ hmem)⟩ h
    refine ⟨top, rfl, fun key hkey => ?_⟩
    rw [htop key hkey, hmid key hkey, said?, said?, lookup_cons_if]
    split
    · rename_i hname
      -- no name comes twice, so nothing later is laid over it
      have hlater : vars.lookup key.toUpper = none := by
        rw [hname]
        cases hlookup : vars.lookup var.1 with
        | none => rfl
        | some text => exact absurd (mem_names_of_lookup hlookup) hnew
      obtain ⟨-, v, hv, -⟩ := hfit.fits var.1 var.2 List.mem_cons_self key hkey
        (hname ▸ target?_toUpper hkey)
      rw [hlater, Option.bind_none, Option.none_or, Option.bind_some, hv, Option.some_or]
    · rfl

/-- The order of the variables does not matter for whether they fit. -/
theorem AreFit.perm {others : List (String × String)} (hperm : vars.Perm others)
    (hfit : AreFit vars) : AreFit others where
  nodup := (hperm.map (·.1)).nodup_iff.mp hfit.nodup
  fits name text hmem := hfit.fits name text (hperm.mem_iff.mpr hmem)

/-- The layer of variables that fit holds of each setting what they say of it. -/
theorem layer?_of_fits (hfit : AreFit vars) (h : layer? vars = some layer) :
    ∃ top, layer = .obj top ∧ ∀ key ∈ Settings.keys, top.lookup key = said? vars key := by
  have hperm := (List.mergeSort_perm vars fun a b => a.1 ≤ b.1).symm
  rw [layer?_eq] at h
  obtain ⟨top, rfl, htop⟩ := foldlM_lay (hfit.perm hperm) h
  refine ⟨top, rfl, fun key hkey => ?_⟩
  rw [htop key hkey, said?, said?, lookup_perm hperm hfit.nodup]
  exact Option.or_none

/-- What variables that fit say of a setting is what it can be set to. -/
theorem fits_of_said? (hfit : AreFit vars) (hkey : key ∈ Settings.keys)
    (h : said? vars key = some v) : Settings.Fits key v := by
  obtain ⟨text, hlookup, hv⟩ := Option.bind_eq_some_iff.mp h
  obtain ⟨-, w, hw, hfits⟩ :=
    hfit.fits _ text (mem_of_lookup hlookup) key hkey (target?_toUpper hkey)
  obtain rfl := Option.some.inj (hw.symm.trans hv)
  exact hfits

end Environment

-- ---------------------------------------------------------------------------
-- A file and an environment together
-- ---------------------------------------------------------------------------

namespace Settings

variable {file : Option String} {vars : List (String × String)} {members : List (String × Json)}

/-- No settings are loaded where a variable cannot be read. -/
theorem load_of_unreadable (h : ∃ var ∈ vars, Environment.IsUnreadable var) :
    load file vars = .error .cutCharacter := by
  rw [load, readEnvironment, Environment.layer?_eq_none_iff.mpr h]
  rfl

/-- A setting is what the environment says, else what the file says, else what it usually is. -/
theorem load_of_fits (hfile : readFile file = .ok members) (hmembers : AllFit members)
    (hvars : Environment.AreFit vars) (hread : ¬ ∃ var ∈ vars, Environment.IsUnreadable var) :
    ∃ merged : Settings, load file vars = validate merged ∧ ∀ key ∈ keys, merged.field? key
      = (Environment.said? vars key).or ((members.lookup key).or (({} : Settings).field? key)) := by
  cases hlayer : Environment.layer? vars with
  | none => exact absurd (Environment.layer?_eq_none_iff.mp hlayer) hread
  | some layer =>
    obtain ⟨top, rfl, htop⟩ := Environment.layer?_of_fits hvars hlayer
    obtain ⟨both, hboth⟩ : ∃ both, (Json.obj members).overlay (.obj top) = .obj both :=
      ⟨_, by rw [Json.overlay]⟩
    -- the environment lies on the file, setting by setting
    have hlookup : ∀ key ∈ keys,
        both.lookup key = (Environment.said? vars key).or (members.lookup key) := by
      intro key hkey
      change (Json.obj both).find? key = _
      rw [← hboth, ← htop key hkey]
      refine Json.find?_overlay fun w hw => Environment.overlay_of_fits
        (Environment.fits_of_said? hvars hkey ?_)
      exact (htop key hkey).symm.trans hw
    have hfit : AllFit both := by
      intro key hkey v hv
      rw [hlookup key hkey, Option.or_eq_some_iff] at hv
      obtain hv | ⟨-, hv⟩ := hv
      · exact Environment.fits_of_said? hvars hkey hv
      · exact hmembers key hkey v hv
    obtain ⟨merged, hmerged, hfields⟩ := ofLayers_of_fits hfit
    refine ⟨merged, ?_, fun key hkey => ?_⟩
    · rw [load, readEnvironment, hlayer, hfile]
      simp only [bind, Except.bind, hboth]
      rw [show ((Json.obj both).members? []).getD [] = both from rfl, hmerged]
    · rw [hfields key hkey, hlookup key hkey, Option.or_assoc]

end Settings

end WebhookDelivery
