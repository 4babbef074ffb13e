import Mathlib
import WebhookDelivery.Proofs.SettingLayers

/-!
# Settings from three layers

Of a file and an environment in which every setting has a value of its kind, whatever else they
hold, comes one configuration: each setting is what the environment says, else what the file says,
else what it usually is. The checks are made on that configuration only, so that the layers need not
pass them one by one, and settings that pass apart may fail together.

One thing does not go by this. A variable that leads to no setting is read like any other, and if a
character is to be cut in it, nothing is loaded at all.

* `load_layers` — what is loaded, or the first problem of it.
* `min_above_max_across_layers` — a problem that neither layer has alone.
* `stranger_unreadable` — a variable that is no setting keeps the usual settings from being loaded.
-/

namespace WebhookDelivery.Settings

-- ---------------------------------------------------------------------------
-- The first problem
-- ---------------------------------------------------------------------------

/-- Settings in which no check finds a problem. -/
def IsSound (s : Settings) : Prop :=
  ∀ check ∈ s.checks, check.1 = false

/-- A problem that its check finds while no check before that one finds any. -/
def FailsFirst (s : Settings) (problem : Problem) : Prop :=
  ∃ before after, s.checks = before ++ (true, problem) :: after ∧
    ∀ check ∈ before, check.1 = false

variable {s : Settings} {problem : Problem} {key : String}

/-- No check finds a problem exactly if the settings are sound. -/
theorem problem?_eq_none_iff : s.problem? = none ↔ s.IsSound := by
  rw [problem?, Option.map_eq_none_iff, List.find?_eq_none, IsSound]
  simp only [Bool.not_eq_true]

/-- The problem that is told is that of the first check that fails. -/
theorem problem?_eq_some_iff : s.problem? = some problem ↔ s.FailsFirst problem := by
  rw [problem?, Option.map_eq_some_iff]
  simp only [List.find?_eq_some_iff_append]
  constructor
  · rintro ⟨⟨found, problem⟩, ⟨hfound, before, after, heq, hbefore⟩, rfl⟩
    obtain rfl : found = true := hfound
    exact ⟨before, after, heq, fun check hcheck => by simpa using hbefore check hcheck⟩
  · rintro ⟨before, after, heq, hbefore⟩
    refine ⟨(true, problem), ⟨rfl, before, after, heq, fun check hcheck => ?_⟩, rfl⟩
    rw [hbefore check hcheck, Bool.not_false]

/-- Sound settings pass as they are, and others fail by their first problem. -/
theorem validate_cases (s : Settings) :
    s.IsSound ∧ validate s = .ok s ∨
      ∃ problem, s.FailsFirst problem ∧ validate s = .error (.invalid problem) := by
  rw [validate]
  cases hproblem : s.problem? with
  | none => exact .inl ⟨problem?_eq_none_iff.mp hproblem, rfl⟩
  | some problem => exact .inr ⟨problem, problem?_eq_some_iff.mp hproblem, rfl⟩

-- ---------------------------------------------------------------------------
-- Loading
-- ---------------------------------------------------------------------------

variable {file : Option String} {vars : List (String × String)} {members : List (String × Json)}

/-- Settings of which each is what the environment says, else what the file says, else what it
usually is. -/
def IsMerge (members : List (String × Json)) (vars : List (String × String)) (s : Settings) :
    Prop :=
  ∀ key ∈ keys, s.field? key
    = (Environment.said? vars key).or ((members.lookup key).or (({} : Settings).field? key))

/-- What is loaded is the merged configuration, and that exactly if no check finds a problem in it;
else loading ends with the first problem. -/
theorem load_layers (hfile : readFile file = .ok members) (hmembers : AllFit members)
    (hvars : Environment.AreFit vars) :
    (∃ var ∈ vars, Environment.IsUnreadable var) ∧ load file vars = .error .cutCharacter ∨
      (¬ ∃ var ∈ vars, Environment.IsUnreadable var) ∧ ∃ merged, IsMerge members vars merged ∧
        (merged.IsSound ∧ load file vars = .ok merged ∨
          ∃ problem, merged.FailsFirst problem ∧ load file vars = .error (.invalid problem)) := by
  by_cases hread : ∃ var ∈ vars, Environment.IsUnreadable var
  · exact .inl ⟨hread, load_of_unreadable hread⟩
  · obtain ⟨merged, hload, hmerged⟩ := load_of_fits hfile hmembers hvars hread
    rw [hload]
    exact .inr ⟨hread, merged, hmerged, validate_cases merged⟩

/-- A file that allows five connections. -/
def cappedFile : String :=
  "database_max_connections = 5\ntheme = 'x'"

/-- What it holds. -/
def capped : List (String × Json) :=
  [("database_max_connections", .int 5), ("theme", .str "x")]

/-- Variables that ask for nine connections at least. -/
def raised : List (String × String) :=
  [("DATABASE_MIN_CONNECTIONS", "9"), ("LANG", "C")]

/-- The file is read as what it holds. -/
theorem readFile_cappedFile : readFile (some cappedFile) = .ok capped := by
  have hread : Toml.read? cappedFile
      = some [("database_max_connections", .int 5), ("theme", .str "x")] := by cbv
  rw [readFile, hread]
  rfl

theorem allFit_capped : AllFit capped := by
  intro key hkey v hv
  rw [capped, lookup_cons_if, lookup_cons_if] at hv
  split at hv
  · rename_i heq
    obtain rfl := Option.some.inj hv
    exact ⟨.word, by simp [kinds, heq], 5, rfl, by decide⟩
  · split at hv
    · rename_i heq
      exact absurd (heq ▸ hkey) (by decide)
    · cases hv

/-- The variables fit the settings that they lead to. -/
theorem areFit_raised : Environment.AreFit raised where
  nodup := by decide
  fits name text hmem key hkey htarget := by
    rw [raised, List.mem_cons, List.mem_singleton] at hmem
    obtain heq | heq := hmem <;> obtain ⟨rfl, rfl⟩ := Prod.mk.inj heq
    · have hname : Environment.target? "DATABASE_MIN_CONNECTIONS"
          = some "database_min_connections" := by decide +kernel
      obtain rfl := Option.some.inj (hname.symm.trans htarget)
      exact ⟨by decide +kernel, .int 9, by cbv, .word, by decide, 9, rfl, by decide⟩
    · have hname : Environment.target? "LANG" = some "lang" := by decide +kernel
      obtain rfl := Option.some.inj (hname.symm.trans htarget)
      exact absurd hkey (by decide)

theorem not_isUnreadable_raised : ¬ ∃ var ∈ raised, Environment.IsUnreadable var := by
  rintro ⟨var, hvar, -, hbreaks⟩
  have hread : ∀ var ∈ raised, (Environment.value? var.2).isSome = true := by decide +kernel
  have hsome := hread var hvar
  rw [Environment.value?_eq_none_iff.mpr hbreaks] at hsome
  cases hsome

/-- Nine connections at least and five at most do not go together. -/
theorem problem?_of_isMerge (hmerge : IsMerge capped raised s) :
    s.problem? = some .minAboveMax := by
  -- the file alone speaks of the most connections, the environment of the least
  have hmax : s.databaseMaxConnections = 5 := by
    have hfield := hmerge "database_max_connections" (by decide)
    rw [Environment.said?, show raised.lookup "database_max_connections".toUpper = none by
      decide +kernel, Option.bind_none, Option.none_or] at hfield
    exact UInt32.toNat_inj.mp (Int.ofNat_inj.mp (Json.int.inj (Option.some.inj hfield)))
  have hmin : s.databaseMinConnections = 9 := by
    have hfield := hmerge "database_min_connections" (by decide)
    rw [Environment.said?, show raised.lookup "database_min_connections".toUpper = some "9" by
      decide +kernel, Option.bind_some, show Environment.value? "9" = some (.int 9) by cbv,
      Option.some_or] at hfield
    exact UInt32.toNat_inj.mp (Int.ofNat_inj.mp (Json.int.inj (Option.some.inj hfield)))
  simp [problem?, checks, hmax, hmin]

/-- Five connections at most from the file, nine at least from the environment. -/
theorem min_above_max_across_layers : readFile (some cappedFile) = .ok capped ∧ AllFit capped ∧
    Environment.AreFit raised ∧
    load (some cappedFile) raised = .error (.invalid .minAboveMax) := by
  refine ⟨readFile_cappedFile, allFit_capped, areFit_raised, ?_⟩
  obtain ⟨hread, -⟩ | ⟨-, merged, hmerge, hresult⟩ :=
    load_layers readFile_cappedFile allFit_capped areFit_raised
  · exact absurd hread not_isUnreadable_raised
  · have hproblem := problem?_of_isMerge hmerge
    obtain ⟨hsound, -⟩ | ⟨problem, hfirst, hload⟩ := hresult
    · rw [problem?_eq_none_iff.mpr hsound] at hproblem
      cases hproblem
    · rw [problem?_eq_some_iff.mpr hfirst] at hproblem
      obtain rfl := Option.some.inj hproblem
      exact hload

/-- A variable that leads to no setting, with an escape after a character beyond ASCII. -/
def stranger : List (String × String) :=
  [("FOO", "\"aé\\n\"")]

theorem target?_stranger (hkey : key ∈ keys) : Environment.target? "FOO" ≠ some key := by
  have hname : Environment.target? "FOO" = some "foo" := by decide +kernel
  rw [hname]
  rintro heq
  obtain rfl := Option.some.inj heq
  exact absurd hkey (by decide)

/-- A variable that leads to no setting fits whatever it holds. -/
theorem areFit_stranger : Environment.AreFit stranger where
  nodup := by decide
  fits name text hmem key hkey htarget := by
    obtain ⟨rfl, -⟩ := Prod.mk.inj (List.mem_singleton.mp hmem)
    exact absurd htarget (target?_stranger hkey)

/-- A variable that leads to no setting changes none. -/
theorem isMerge_stranger : IsMerge [] stranger {} := by
  intro key hkey
  have hne : key.toUpper ≠ "FOO" := by
    intro heq
    exact target?_stranger hkey (heq ▸ Environment.target?_toUpper hkey)
  rw [Environment.said?, stranger, lookup_cons_if, if_neg hne]
  rfl

/-- Its value cannot be read all the same. -/
theorem isUnreadable_stranger : ∃ var ∈ stranger, Environment.IsUnreadable var := by
  have hcut : Environment.CutsCharacter "aé\\n\"".toList :=
    ⟨by decide, by decide, by decide +kernel⟩
  have hbreaks : Environment.Breaks .item ([] ++ '"' :: "aé\\n\"".toList) :=
    .quoted (fun c hc => absurd hc List.not_mem_nil) hcut
  exact ⟨_, List.mem_singleton_self _, by decide +kernel, hbreaks⟩

/-- Nothing is set, and the usual settings have no problem, but they are not loaded. -/
theorem stranger_unreadable : readFile none = .ok [] ∧ AllFit [] ∧
    Environment.AreFit stranger ∧ IsMerge [] stranger {} ∧ IsSound {} ∧
    load none stranger = .error .cutCharacter := by
  have hsound : ({} : Settings).problem? = none := by decide +kernel
  refine ⟨rfl, fun _ _ v hv => ?_, areFit_stranger, isMerge_stranger,
    problem?_eq_none_iff.mp hsound, load_of_unreadable isUnreadable_stranger⟩
  cases hv

end WebhookDelivery.Settings
