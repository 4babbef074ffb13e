import Mathlib.Data.List.Perm.Basic
import WebhookDelivery.Queue.Handoff

/-!
# Wakeups

A waiting pop must not be left asleep beside an entry that nobody is about to take. Which pop and
which push is where does not matter for this, only how many are: `Counts` has the numbers, and
`Counts.Step` what an act does to them. As many wakings are on their way as pushes have appended
without waking anyone yet and as permits are stored. As long as they suffice for the pops that wait
or are about to, or with the pops that look for the entries, no entry is left over. But the queue
stores one permit only: a push that leaves its permit where one is stored already adds none, and if
two pops have found nothing and have not registered yet, one of them may sleep for good.

* `step_counts` — what an act does to the numbers.
* `Counts.Step.overdrawn_of` — what it takes to overdraw the wakings.
* `Counts.Step.overdrawn` — what does not make up for it.
* `lost_wakeups` — which states leave a pop asleep, and how they come about.
-/

namespace WebhookDelivery

namespace Handoff

-- ---------------------------------------------------------------------------
-- The numbers
-- ---------------------------------------------------------------------------

/-- How many pops stand where, how many pushes have yet to wake a pop, how many entries there are
and whether there is a permit. -/
structure Counts where
  looking : Nat
  unregistered : Nat
  parked : Nat
  appended : Nat
  entries : Nat
  permit : Bool

/-- The numbers of a queue with its pops and pushes. -/
def counts (h : Handoff) : Counts where
  looking := h.pops.count .looking
  unregistered := h.pops.count .unregistered
  parked := h.pops.count .parked
  appended := h.pushes.count .appended
  entries := h.entries.length
  permit := h.permit

namespace Counts

/-- One pop more. -/
def withPop (c : Counts) : Pop → Counts
  | .looking => { c with looking := c.looking + 1 }
  | .unregistered => { c with unregistered := c.unregistered + 1 }
  | .parked => { c with parked := c.parked + 1 }
  | .ended _ => c

/-- One push more. -/
def withPush (c : Counts) : Push → Counts
  | .appended => { c with appended := c.appended + 1 }
  | .starting _ | .ended => c

/-- What an act does to the numbers. -/
inductive Step : Counts → Move → Counts → Prop where
  | beginPop (c : Counts) : Step c .beginPop (c.withPop .looking)
  | findNothing (c : Counts) (i : Nat) (empty : c.entries = 0) :
    Step (c.withPop .looking) (.look i) (c.withPop .unregistered)
  | take (c : Counts) (i : Nat) (entry : String) :
    Step { c.withPop .looking with entries := c.entries + 1 } (.look i)
      (c.withPop (.ended (some entry)))
  | useUp (c : Counts) (i : Nat) :
    Step { c.withPop .unregistered with permit := true } (.register i)
      { c.withPop .looking with permit := false }
  | park (c : Counts) (i : Nat) (unpermitted : c.permit = false) :
    Step (c.withPop .unregistered) (.register i) (c.withPop .parked)
  | giveUp (c : Counts) (i : Nat) : Step (c.withPop .parked) (.timeOut i) (c.withPop (.ended none))
  | beginPush (c : Counts) (entry : String) : Step c (.beginPush entry) c
  | append (c : Counts) (i : Nat) :
    Step c (.append i) { c.withPush .appended with entries := c.entries + 1 }
  | wake (c : Counts) (i j : Nat) :
    Step ((c.withPop .parked).withPush .appended) (.wake i (some j)) (c.withPop .looking)
  | permit (c : Counts) (i : Nat) (unparked : c.parked = 0) :
    Step (c.withPush .appended) (.wake i none) { c with permit := true }

end Counts

/-- The pops without one of them, and with it elsewhere. -/
theorem counts_setPop {h : Handoff} {i : Nat} {p : Pop} (hi : h.pops[i]? = some p) :
    h.counts = ({ h with pops := h.pops.eraseIdx i }).counts.withPop p
    ∧ ∀ q, (h.setPop i q).counts = ({ h with pops := h.pops.eraseIdx i }).counts.withPop q := by
  obtain ⟨hlt, hp⟩ := List.getElem?_eq_some_iff.mp hi
  have hset : ∀ q, (h.setPop i q).counts
      = ({ h with pops := h.pops.eraseIdx i }).counts.withPop q := by
    intro q
    have hperm := List.set_perm_cons_eraseIdx hlt q
    simp only [counts, setPop, hperm.count_eq, List.count_cons]
    cases q <;> rfl
  refine ⟨?_, hset⟩
  rw [← hset p, setPop, ← hp, List.set_getElem_self]

/-- The pushes without one of them, and with it elsewhere. -/
theorem counts_setPush {h : Handoff} {i : Nat} {p : Push} (hi : h.pushes[i]? = some p) :
    h.counts = ({ h with pushes := h.pushes.eraseIdx i }).counts.withPush p
    ∧ ∀ q, (h.setPush i q).counts
      = ({ h with pushes := h.pushes.eraseIdx i }).counts.withPush q := by
  obtain ⟨hlt, hp⟩ := List.getElem?_eq_some_iff.mp hi
  have hset : ∀ q, (h.setPush i q).counts
      = ({ h with pushes := h.pushes.eraseIdx i }).counts.withPush q := by
    intro q
    have hperm := List.set_perm_cons_eraseIdx hlt q
    simp only [counts, setPush, hperm.count_eq, List.count_cons]
    cases q <;> rfl
  refine ⟨?_, hset⟩
  rw [← hset p, setPush, ← hp, List.set_getElem_self]

/-- What an act does to a queue, it does to the numbers. -/
theorem step_counts {h h' : Handoff} {m : Move} (hstep : h.step m = some h') :
    h.counts.Step m h'.counts := by
  -- each act moves one pop or push from one place to another
  cases m with
  | beginPop =>
    obtain rfl := Option.some.inj hstep
    have hone : counts { h with pops := h.pops ++ [.looking] } = h.counts.withPop .looking := by
      simp [counts, Counts.withPop]
    rw [hone]
    exact .beginPop _
  | look i =>
    rw [step, Option.ite_none_right_eq_some] at hstep
    obtain ⟨hi, hstep⟩ := hstep
    obtain rfl := Option.some.inj hstep
    obtain ⟨_ | ⟨entry, rest⟩, permit, pops, pushes⟩ := h
    · obtain ⟨hbefore, hafter⟩ := counts_setPop hi
      rw [look, hbefore, hafter]
      exact .findNothing _ i rfl
    · obtain ⟨hbefore, hafter⟩ := counts_setPop (h := ⟨rest, permit, pops, pushes⟩) hi
      show Counts.Step { counts ⟨rest, permit, pops, pushes⟩ with entries := rest.length + 1 } _ _
      rw [look, hbefore, hafter]
      exact .take _ i entry
  | register i =>
    rw [step, Option.ite_none_right_eq_some] at hstep
    obtain ⟨hi, hstep⟩ := hstep
    obtain rfl := Option.some.inj hstep
    obtain ⟨entries, _ | _, pops, pushes⟩ := h
    · obtain ⟨hbefore, hafter⟩ := counts_setPop hi
      rw [register, if_neg Bool.false_ne_true, hbefore, hafter]
      exact .park _ i rfl
    · obtain ⟨hbefore, hafter⟩ := counts_setPop (h := ⟨entries, false, pops, pushes⟩) hi
      show Counts.Step { counts ⟨entries, false, pops, pushes⟩ with permit := true } _ _
      rw [register, if_pos rfl, hbefore, hafter]
      exact .useUp _ i
  | timeOut i =>
    rw [step, Option.ite_none_right_eq_some] at hstep
    obtain ⟨hi, hstep⟩ := hstep
    obtain rfl := Option.some.inj hstep
    obtain ⟨hbefore, hafter⟩ := counts_setPop hi
    rw [hbefore, hafter]
    exact .giveUp _ i
  | beginPush entry =>
    obtain rfl := Option.some.inj hstep
    have hsame : counts { h with pushes := h.pushes ++ [.starting entry] } = h.counts := by
      simp [counts]
    rw [hsame]
    exact .beginPush _ entry
  | append i =>
    simp only [step] at hstep
    split at hstep
    · rename_i entry hi
      obtain rfl := Option.some.inj hstep
      obtain ⟨hbefore, hafter⟩ := counts_setPush hi
      have hone : counts ({ h with entries := h.entries ++ [entry] }.setPush i .appended)
          = { (h.setPush i .appended).counts with entries := h.counts.entries + 1 } := by
        simp [counts, setPush]
      rw [hone, hafter, hbefore]
      exact .append _ i
    · cases hstep
  | wake i chosen =>
    cases chosen with
    | some j =>
      rw [step, Option.ite_none_right_eq_some] at hstep
      obtain ⟨hi, hstep⟩ := hstep
      rw [Option.ite_none_right_eq_some] at hstep
      obtain ⟨hj, hstep⟩ := hstep
      obtain rfl := Option.some.inj hstep
      obtain ⟨hbefore, hafter⟩ := counts_setPush hi
      obtain ⟨hasleep, hawake⟩ := counts_setPop (h := h.setPush i .ended) hj
      rw [hafter .ended] at hasleep
      rw [hbefore, hawake]
      exact (congrArg (Counts.withPush · .appended) hasleep) ▸ .wake _ i j
    | none =>
      rw [step, Option.ite_none_right_eq_some] at hstep
      obtain ⟨hi, hstep⟩ := hstep
      rw [Option.ite_none_left_eq_some] at hstep
      obtain ⟨hasleep, hstep⟩ := hstep
      obtain rfl := Option.some.inj hstep
      obtain ⟨hbefore, hafter⟩ := counts_setPush hi
      -- a permit is left only where no pop is parked
      have hunparked : h.pops.count .parked = 0 := by
        rw [List.count_eq_zero, ← List.contains_iff_mem]
        exact hasleep
      show Counts.Step _ _ { (h.setPush i .ended).counts with permit := true }
      rw [hbefore, hafter]
      exact .permit _ i hunparked

-- ---------------------------------------------------------------------------
-- Wakings on their way
-- ---------------------------------------------------------------------------

namespace Counts

/-- How many wakings are on their way. -/
def wakings (c : Counts) : Nat :=
  c.appended + c.permit.toNat

/-- Neither for the pops that wait or are about to, nor together with the pops that look for the
entries are there wakings enough. -/
def Overdrawn (c : Counts) : Prop :=
  c.wakings < c.unregistered + c.parked ∧ c.wakings + c.looking < c.entries

instance (c : Counts) : Decidable c.Overdrawn :=
  inferInstanceAs (Decidable (_ ∧ _))

/-- Whether an act leaves a permit where one is stored, though two pops are about to register. -/
def wastes (c : Counts) : Move → Bool
  | .wake _ none => c.permit && decide (2 ≤ c.unregistered)
  | _ => false

/-- No pop looks at the entries or is about to register, and no push is about to wake one. -/
def AtRest (c : Counts) : Prop :=
  c.looking = 0 ∧ c.unregistered = 0 ∧ c.appended = 0

/-- How far it is to a rest. -/
def effort (c : Counts) : Nat :=
  3 * c.appended + 2 * c.permit.toNat + 2 * c.looking + c.unregistered

end Counts

/-- Whether an act is one that pops come to without giving up, or pushes once they have appended. -/
def Move.settles : Move → Bool
  | .look _ | .register _ | .wake _ _ => true
  | _ => false

variable {c c' : Counts} {m : Move}

/-- While a permit is stored no pop waits. -/
theorem Counts.Step.unparked (hstep : c.Step m c') (h : c.permit = true → c.parked = 0) :
    c'.permit = true → c'.parked = 0 := by
  intro hpermit
  cases hstep with
  | beginPop | findNothing | take | beginPush | append => exact h hpermit
  | useUp => cases hpermit
  | park c i unpermitted => exact absurd (unpermitted.symm.trans hpermit) Bool.false_ne_true
  | giveUp | wake => exact absurd (h hpermit) (Nat.succ_ne_zero _)
  | permit c i unparked => exact unparked

/-- Wakings that suffice go on to suffice, unless one is wasted. -/
theorem Counts.Step.overdrawn_of (hstep : c.Step m c') (hwastes : c.wastes m = false)
    (h : ¬ c.Overdrawn) : ¬ c'.Overdrawn := by
  unfold Overdrawn wakings at h ⊢
  cases hstep with
  | beginPush => exact h
  | permit c i unparked =>
    cases hpermit : c.permit with
    | false =>
      simp [withPush, hpermit] at h ⊢
      omega
    | true =>
      simp [wastes, withPush, hpermit] at h hwastes ⊢
      omega
  | beginPop | findNothing | take | useUp | park | giveUp | append | wake =>
    simp [withPop, withPush] at h ⊢
    omega

/-- Wakings that lack go on to lack, until a pop begins or gives up or a push appends. -/
theorem Counts.Step.overdrawn (hstep : c.Step m c') (hsettles : m.settles = true)
    (h : c.Overdrawn) : c'.Overdrawn := by
  unfold Overdrawn wakings at h ⊢
  cases hstep with
  | beginPop | giveUp | beginPush | append => cases hsettles
  | findNothing | take | useUp | park | wake =>
    simp [withPop, withPush] at h ⊢
    omega
  -- a second permit is lost where one is stored: this is what `wastes` tells
  | permit c i unparked =>
    cases hpermit : c.permit <;> simp [withPush, hpermit] at h ⊢ <;> omega

/-- Every act that settles comes nearer to a rest. -/
theorem Counts.Step.effort_lt (hstep : c.Step m c') (hsettles : m.settles = true) :
    c'.effort < c.effort := by
  unfold effort
  cases hstep with
  | beginPop | giveUp | beginPush | append => cases hsettles
  | findNothing | take | useUp | park | wake =>
    simp only [withPop, withPush, Bool.toNat_true, Bool.toNat_false]
    omega
  | permit c i unparked =>
    simp only [withPush, Bool.toNat_true]
    omega

-- ---------------------------------------------------------------------------
-- Rows of acts
-- ---------------------------------------------------------------------------

variable {h h' : Handoff} {moves : List Move}

/-- Whether a waking is wasted in a row of acts. -/
def wasted : List Move → Handoff → Bool
  | [], _ => false
  | m :: rest, h => h.counts.wastes m || (h.step m).any (wasted rest)

/-- What every act of a row keeps, the row keeps. -/
theorem run_keeps {P : Handoff → Prop}
    (hkeeps : ∀ m ∈ moves, ∀ h h', h.step m = some h' → P h → P h')
    (hrun : run moves h = some h') (hP : P h) : P h' := by
  induction moves generalizing h with
  | nil => exact Option.some.inj hrun ▸ hP
  | cons m rest ih =>
    rw [run, Option.bind_eq_some_iff] at hrun
    obtain ⟨h₁, hstep, hrest⟩ := hrun
    rw [List.forall_mem_cons] at hkeeps
    exact ih hkeeps.2 hrest (hkeeps.1 h h₁ hstep hP)

/-- While a permit is stored no pop waits. -/
theorem run_unparked (hrun : run moves {} = some h) :
    h.counts.permit = true → h.counts.parked = 0 :=
  run_keeps (P := fun h => h.counts.permit = true → h.counts.parked = 0)
    (fun _ _ _ _ hstep => (step_counts hstep).unparked) hrun (fun _ => rfl)

/-- Wakings that suffice go on to suffice while none is wasted. -/
theorem run_overdrawn_of (hrun : run moves h = some h') (hwasted : wasted moves h = false)
    (hsuffice : ¬ h.counts.Overdrawn) : ¬ h'.counts.Overdrawn := by
  induction moves generalizing h with
  | nil => exact Option.some.inj hrun ▸ hsuffice
  | cons m rest ih =>
    rw [run, Option.bind_eq_some_iff] at hrun
    obtain ⟨h₁, hstep, hrest⟩ := hrun
    rw [wasted, hstep, Option.any_some, Bool.or_eq_false_iff] at hwasted
    exact ih hrest hwasted.2 ((step_counts hstep).overdrawn_of hwasted.1 hsuffice)

/-- Wakings that lack go on to lack while pops and pushes settle. -/
theorem run_overdrawn (hrun : run moves h = some h') (hsettles : ∀ m ∈ moves, m.settles = true)
    (hlack : h.counts.Overdrawn) : h'.counts.Overdrawn :=
  run_keeps (P := fun h => h.counts.Overdrawn)
    (fun m hm _ _ hstep => (step_counts hstep).overdrawn (hsettles m hm)) hrun hlack

/-- Unless all is at rest, pops and pushes can settle further without wasting a waking: a permit is
left only when no pop is about to register. -/
theorem exists_settling_step (hrest : ¬ h.counts.AtRest) :
    ∃ m h', h.step m = some h' ∧ m.settles = true ∧ h.counts.wastes m = false := by
  -- pops register first, so that no permit is left while one is about to
  by_cases hunregistered : Pop.unregistered ∈ h.pops
  · obtain ⟨i, hi⟩ := List.mem_iff_getElem?.mp hunregistered
    exact ⟨.register i, h.register i, if_pos hi, rfl, rfl⟩
  by_cases hlooking : Pop.looking ∈ h.pops
  · obtain ⟨i, hi⟩ := List.mem_iff_getElem?.mp hlooking
    exact ⟨.look i, h.look i, if_pos hi, rfl, rfl⟩
  by_cases happended : Push.appended ∈ h.pushes
  · obtain ⟨i, hi⟩ := List.mem_iff_getElem?.mp happended
    by_cases hparked : Pop.parked ∈ h.pops
    · obtain ⟨j, hj⟩ := List.mem_iff_getElem?.mp hparked
      refine ⟨.wake i (some j), (h.setPush i .ended).setPop j .looking, ?_, rfl, rfl⟩
      rw [step, if_pos hi, if_pos hj]
    · refine ⟨.wake i none, { h with permit := true }.setPush i .ended, ?_, rfl, ?_⟩
      · rw [step, if_pos hi, if_neg fun hasleep => hparked (List.contains_iff_mem.mp hasleep)]
      · have hnone : h.counts.unregistered = 0 := List.count_eq_zero.mpr hunregistered
        simp [Counts.wastes, hnone]
  · exact absurd ⟨List.count_eq_zero.mpr hlooking, List.count_eq_zero.mpr hunregistered,
      List.count_eq_zero.mpr happended⟩ hrest

/-- Pops and pushes settle to a rest, and they can without wasting a waking. -/
theorem exists_settling_run (h : Handoff) :
    ∃ moves h', run moves h = some h' ∧ (∀ m ∈ moves, m.settles = true)
      ∧ wasted moves h = false ∧ h'.counts.AtRest := by
  by_cases hrest : h.counts.AtRest
  · exact ⟨[], h, rfl, List.forall_mem_nil _, rfl, hrest⟩
  · obtain ⟨m, h₁, hstep, hsettles, hwastes⟩ := exists_settling_step hrest
    have hcloser := (step_counts hstep).effort_lt hsettles
    obtain ⟨rest, h', hrun, hrests, hwasted, hatRest⟩ := exists_settling_run h₁
    refine ⟨m :: rest, h', ?_, List.forall_mem_cons.mpr ⟨hsettles, hrests⟩, ?_, hatRest⟩
    · rw [run, hstep]
      exact hrun
    · rw [wasted, hstep, hwastes]
      exact hwasted
termination_by h.counts.effort

-- ---------------------------------------------------------------------------
-- Pops left asleep
-- ---------------------------------------------------------------------------

/-- A pop waits beside an entry, though no permit is stored and no other pop is on its way to the
entries. -/
def Stalled (h : Handoff) : Prop :=
  h.entries ≠ [] ∧ h.permit = false ∧ .looking ∉ h.pops ∧ .unregistered ∉ h.pops
    ∧ .parked ∈ h.pops

instance (h : Handoff) : Decidable h.Stalled :=
  inferInstanceAs (Decidable (_ ∧ _))

/-- Whether a pop is stalled can be told from the numbers. -/
theorem stalled_iff : h.Stalled ↔ 0 < h.counts.entries ∧ h.counts.permit = false
    ∧ h.counts.looking = 0 ∧ h.counts.unregistered = 0 ∧ 0 < h.counts.parked := by
  simp only [Stalled, counts, List.count_eq_zero, List.count_pos_iff, List.length_pos_iff]

/-- Where a pop waits beside an entry a push is about to wake it, or the wakings lack. -/
theorem Stalled.overdrawn (hstalled : h.Stalled) (hpushes : .appended ∉ h.pushes) :
    h.counts.Overdrawn := by
  obtain ⟨hentries, hpermit, hlooking, hunregistered, hparked⟩ := stalled_iff.mp hstalled
  have happended : h.counts.appended = 0 := List.count_eq_zero.mpr hpushes
  have hwakings : h.counts.wakings = 0 := by rw [Counts.wakings, happended, hpermit]; rfl
  exact ⟨by omega, by omega⟩

/-- At rest, lacking wakings are a pop that waits beside an entry. -/
theorem stalled_of_overdrawn (hunparked : h.counts.permit = true → h.counts.parked = 0)
    (hrest : h.counts.AtRest) (hlack : h.counts.Overdrawn) : h.Stalled := by
  obtain ⟨hlooking, hunregistered, happended⟩ := hrest
  obtain ⟨hwaiting, hentries⟩ := hlack
  have hparked : 0 < h.counts.parked := by omega
  have hpermit : h.counts.permit = false := by
    rw [Bool.eq_false_iff]
    exact fun hpermit => absurd (hunparked hpermit) (Nat.ne_of_gt hparked)
  exact stalled_iff.mpr ⟨by omega, hpermit, hlooking, hunregistered, hparked⟩

/-- Acts in two rows are acts in one. -/
theorem run_append {more : List Move} (hrun : run moves h = some h') :
    run (moves ++ more) h = run more h' := by
  induction moves generalizing h with
  | nil => rw [← Option.some.inj hrun, List.nil_append]
  | cons m rest ih =>
    rw [run, Option.bind_eq_some_iff] at hrun
    obtain ⟨h₁, hstep, hrest⟩ := hrun
    rw [List.cons_append, run, hstep]
    exact ih hrest

/-- A pop waits beside an entry only while a push is about to wake it, or after a waking was wasted.
It is lost exactly when the wakings lack, which takes a wasted one: then, and only then, whatever
the pops and pushes do until they are at rest, a pop is left asleep. -/
theorem lost_wakeups (hrun : run moves {} = some h) :
    (h.Stalled → .appended ∈ h.pushes ∨ wasted moves {} = true)
    ∧ (h.counts.Overdrawn → wasted moves {} = true)
    ∧ (h.counts.Overdrawn ↔ ∀ settling h', (∀ m ∈ settling, m.settles = true) →
        run settling h = some h' → h'.counts.AtRest → h'.Stalled) := by
  -- at first nothing lacks, so something was wasted on the way
  have hwasted : h.counts.Overdrawn → wasted moves {} = true := by
    intro hlack
    rw [← Bool.not_eq_false]
    exact fun hnone => run_overdrawn_of hrun hnone (by decide) hlack
  refine ⟨fun hstalled => ?_, hwasted, fun hlack settling h' hsettles hmore hrest => ?_,
    fun hasleep => Classical.byContradiction fun hsuffice => ?_⟩
  · by_cases hpushes : .appended ∈ h.pushes
    · exact .inl hpushes
    · exact .inr (hwasted (hstalled.overdrawn hpushes))
  · have hunparked := run_unparked ((run_append hrun).trans hmore)
    exact stalled_of_overdrawn hunparked hrest (run_overdrawn hmore hsettles hlack)
  · -- let all come to rest without wasting any more
    obtain ⟨settling, h', hmore, hsettles, hnone, hrest⟩ := exists_settling_run h
    have hpushes : .appended ∉ h'.pushes := List.count_eq_zero.mp hrest.2.2
    have hstalled := hasleep settling h' hsettles hmore hrest
    exact run_overdrawn_of hmore hnone hsuffice (hstalled.overdrawn hpushes)

/-- Two pops find nothing, then two pushes append and leave their permits, of which one is kept. -/
def crowdedMoves : List Move :=
  [.beginPop, .beginPop, .look 0, .look 1, .beginPush "a", .append 0, .beginPush "b", .append 1,
    .wake 0 none, .wake 1 none]

/-- What comes of it: one pop can be lost, and nothing that is under way saves it. -/
theorem lost_wakeups_crowded :
    ∃ h, run crowdedMoves {} = some h ∧ wasted crowdedMoves {} = true
      ∧ ∀ settling h', (∀ m ∈ settling, m.settles = true) →
        run settling h = some h' → h'.counts.AtRest → h'.Stalled :=
  ⟨_, rfl, (lost_wakeups (show run crowdedMoves {} = some _ from rfl)).2.1 (by decide),
    (lost_wakeups (show run crowdedMoves {} = some _ from rfl)).2.2.mp (by decide)⟩

/-- One pop takes the permit and an entry, and the other waits beside the second entry, though no
push is on its way and no pop but this one is left. -/
theorem stalled_beside_entry :
    ∃ h, run (crowdedMoves ++ [.register 0, .look 0, .register 1]) {} = some h
      ∧ h.Stalled ∧ h.pops = [.ended (some "a"), .parked] ∧ h.pushes = [.ended, .ended] :=
  ⟨_, rfl, by decide, rfl, rfl⟩

end Handoff

end WebhookDelivery
