import WebhookDelivery.Proofs.Tally

/-!
# Single ownership

Workers, submissions and one sweeper share a store and a queue, and between any two calls of one of
them any calls of the others may come. Still a message has one owner at most: the entries that name
it and the workers that have it in hand are at most one together. So its attempts come one after
another, and their numbers on record count from one.

What a worker has in hand is told from its calls alone (`Scene.hand`), and the invariant shows that
it is what the worker's stage says.

* `Scene.single_owner` — the three laws, in every reachable scene.
-/

namespace WebhookDelivery

-- ---------------------------------------------------------------------------
-- What a worker has in hand
-- ---------------------------------------------------------------------------

/-- What a worker has in hand after a call, by what it had before. A pop puts a message into its
hand. It lets go of the message when this turns out to be missing or at its end, when a failure of
the store leaves no hope for another try, when its new state is written, and when its entry goes
back into the queue. -/
def Moment.hand (x : Moment) (before : Option MessageId) : Option MessageId :=
  match x with
  | ⟨_, .pop, .ok (some entry)⟩ => MessageId.ofText? entry
  | ⟨_, .pop, _⟩ => none
  | ⟨_, .findMessage _, .ok m⟩ => if m.status.isTerminal then none else before
  | ⟨_, .findMessage _, .error e⟩ =>
    if e.isNotFound = false ∧ e.toPipeline.isRetryable then before else none
  | ⟨_, .updateMessage _, .ok _⟩ => none
  | ⟨_, .updateMessage _, .error e⟩ => if e.toPipeline.isRetryable then before else none
  | ⟨_, .updateMessageStatus _ _, .ok _⟩ => none
  | ⟨_, .updateMessageStatus _ _, .error e⟩ => if e.toPipeline.isRetryable then before else none
  | ⟨_, .push _, _⟩ => none
  | _ => before

namespace Scene

/-- The calls that an actor has made, the latest first. -/
def calls (s : Scene) (i : Nat) : List Moment :=
  s.history.filterMap fun (j, x) => if j = i then some x else none

/-- The message that an actor has in hand. -/
def hand (s : Scene) (i : Nat) : Option MessageId :=
  (s.calls i).foldr Moment.hand none

/-- How many actors have a message in hand. -/
def holders (s : Scene) (id : MessageId) : Nat :=
  (List.range s.actors.length).countP fun i => s.hand i = some id

end Scene

/-- What a role has in hand at a stage; only workers take anything in hand. -/
def Role.hand : Role → Stage → Option MessageId
  | .worker _, σ => σ.hand
  | _, _ => none

/-- What a role has in hand, its stage has in hand. -/
theorem Role.hand_eq_some {role : Role} {σ : Stage} {id : MessageId}
    (h : role.hand σ = some id) : σ.hand = some id := by
  cases role <;> first | exact h | cases h

theorem Role.hand_of_hand {role : Role} {σ : Stage} (h : σ.hand = none) : role.hand σ = none := by
  cases role <;> first | exact h | rfl

theorem Moment.hand_none {w : World} {c : Call} {answer : c.Answer} (h : c ≠ .pop) :
    Moment.hand ⟨w, c, answer⟩ none = none := by
  cases c <;> first | exact absurd rfl h | rfl | (cases answer <;> first | rfl | exact ite_self _)

/-- What a role has in hand is told from its calls. -/
theorem Stage.Next.hand {ids : Nat → MessageId} {k k' : Ledger} {role : Role} {σ σ' : Stage}
    {w : World} {c : Call} {answer : c.Answer} (hnext : Next role σ c answer σ')
    (heffect : Effect ids k c answer k') :
    Moment.hand ⟨w, c, answer⟩ (role.hand σ) = role.hand σ' := by
  cases role with
  | worker worker =>
    cases hnext with
    | pop hid => exact hid
    | popUnreadable hid => exact hid
    -- a loaded message stays in hand, one that has come to its end does not
    | load hlive =>
      cases heffect with
      | quiet hquiet => obtain ⟨_, ⟨⟩⟩ := hquiet
      | find hget =>
        obtain rfl := Ledger.id_of_get? hget
        exact if_neg (by rw [hlive]; exact Bool.false_ne_true)
    | skipEnded hended => exact if_pos hended
    | skipMissing hmissing => exact if_neg (by simp [hmissing])
    -- after a failure the entry may go back, and is in hand until then
    | @loadFailed _ entry id e hfound =>
      show (if e.isNotFound = false ∧ e.toPipeline.isRetryable then _ else _) = _
      rw [Stage.afterFailure]
      cases hretryable : e.toPipeline.isRetryable <;> simp [hfound, Role.hand, Stage.hand]
    | writeFailed _ e | rejectFailed _ e =>
      show (if e.toPipeline.isRetryable then _ else _) = _
      rw [Stage.afterFailure]
      split <;> rfl
    | note | popNothing | popFailed | pause | secret | signingTime | send | time | record | draw
    | write | reject | pushBack => rfl
  -- only workers pop
  | sweeper | recovery | submission =>
    refine Moment.hand_none fun hpop => ?_
    subst hpop
    cases hnext

-- ---------------------------------------------------------------------------
-- The scene's record
-- ---------------------------------------------------------------------------

namespace Scene

/-- A call goes to the actor who made it. -/
theorem calls_cons (s : Scene) (world : World) (actors : List Actor) (i j : Nat) (x : Moment) :
    calls { world, actors, history := (i, x) :: s.history } j
      = if i = j then x :: s.calls j else s.calls j := by
  by_cases hij : i = j
  · rw [if_pos hij]
    exact List.filterMap_cons_some (if_pos hij)
  · rw [if_neg hij]
    exact List.filterMap_cons_none (if_neg hij)

/-- After a call of an actor its hand is as the call says, and all others are as they were. -/
theorem hand_cons (s : Scene) (world : World) (actors : List Actor) (i j : Nat) (x : Moment) :
    hand { world, actors, history := (i, x) :: s.history } j
      = if i = j then x.hand (s.hand j) else s.hand j := by
  rw [hand, calls_cons]
  split <;> rfl

/-- Where the hands are after a change of one actor. -/
theorem hands_replace {s : Scene} {before after : List (Actor × Stage)} {a b : Actor} {σ σ' : Stage}
    (hhands : ∀ i, s.hand i = (before ++ (a, σ) :: after)[i]?.bind fun x => x.1.role.hand x.2)
    {hand : Nat → Option MessageId}
    (hhand : ∀ j, hand j = if before.length = j then b.role.hand σ' else s.hand j) (j : Nat) :
    hand j = (before ++ (b, σ') :: after)[j]?.bind fun x => x.1.role.hand x.2 := by
  rw [hhand, hhands, getElem?_replaced (a, σ) (b, σ')]
  by_cases hj : before.length = j
  · rw [if_pos hj, if_pos hj.symm]
    rfl
  · rw [if_neg hj, if_neg fun heq => hj heq.symm]

/-- What the actors have in hand is what their stages say after each turn. -/
theorem Turn.hands {s t : Scene} {staff staff' : List (Actor × Stage)} {i : Nat}
    (hturn : Turn s i staff t staff')
    (hhands : ∀ i, s.hand i = staff[i]?.bind fun x => x.1.role.hand x.2) :
    ∀ j, t.hand j = staff'[j]?.bind fun x => x.1.role.hand x.2 := by
  cases hturn with
  -- nobody has made a call
  | none => exact hhands
  -- the actor was at rest, and is idle now
  | @restart before after a σ hi hrest =>
    refine hands_replace (b := .ofRole a.role) hhands fun j => ?_
    show s.hand j = _
    split
    · rename_i hj
      rw [hhands, ← hj, Role.hand_of_hand rfl]
      simp [Role.hand_of_hand hrest.hand]
    · rfl
  | @move before after a σ σ' c answer w' next hi htask hmove =>
    refine hands_replace (b := { a with task := next answer }) hhands fun j => ?_
    rw [hand_cons, hi]
    split
    · rename_i hj
      have hhand : s.hand j = a.role.hand σ := by
        rw [hhands, ← hj]
        simp
      rw [hhand, hmove.next.hand hmove.effect]
    · rfl
  -- no call is on record, and the stage stays
  | @unanswered before after a σ c w' hi hperform =>
    refine hands_replace (b := { a with task := .breakdown }) hhands fun j => ?_
    show s.hand j = _
    split
    · rename_i hj
      rw [← hj]
      exact (hhands before.length).trans (by simp)
    · rfl

/-- Who joins has nothing in hand. -/
theorem hands_join {s : Scene} {staff : List (Actor × Stage)} (role : Role)
    (hhands : ∀ i, s.hand i = staff[i]?.bind fun x => x.1.role.hand x.2) (i : Nat) :
    (s.join role).hand i
      = (staff ++ [(.ofRole role, .idle)])[i]?.bind fun x => x.1.role.hand x.2 := by
  refine (hhands i).trans ?_
  rcases Nat.lt_trichotomy i staff.length with hlt | rfl | hgt
  · rw [List.getElem?_append_left hlt]
  · rw [List.getElem?_concat_length, List.getElem?_eq_none (Nat.le_refl _)]
    exact (Role.hand_of_hand rfl).symm
  · rw [List.getElem?_eq_none (by omega), List.getElem?_eq_none (by simp; omega)]

/-- Who has a message in hand can be counted over the staff. -/
theorem holders_eq {s : Scene} {staff : List (Actor × Stage)} (h : Staffed s staff)
    (hhand : ∀ i, s.hand i = staff[i]?.bind fun x => x.1.role.hand x.2) (id : MessageId) :
    s.holders id = staff.countP fun x => x.1.role.hand x.2 = some id := by
  have hlength : s.actors.length = staff.length := by rw [h.actors, List.length_map]
  have hlist : (List.range staff.length).map (staff[·]?) = staff.map some := by
    refine List.ext_getElem (by simp) fun i hi _ => ?_
    have hi' : i < staff.length := by simpa using hi
    simp only [List.getElem_map, List.getElem_range, List.getElem?_eq_getElem hi']
  have hcount := congrArg
    (List.countP fun x => x.bind (fun x => x.1.role.hand x.2) = some id) hlist
  rw [List.countP_map, List.countP_map] at hcount
  rw [holders, hlength]
  simp only [hhand]
  exact hcount

/-- Workers have no more in hand than all actors. -/
theorem countP_hand_le (staff : List (Actor × Stage)) (id : MessageId) :
    (staff.countP fun x => x.1.role.hand x.2 = some id)
      ≤ (staff.map Prod.snd).countP (·.hand = some id) := by
  rw [List.countP_map]
  refine List.countP_mono_left fun x _ hx => ?_
  exact decide_eq_true (Role.hand_eq_some (of_decide_eq_true hx))

end Scene

/-- A stage belongs to a role: only sweepers sweep, and only recoveries recover. -/
structure Stage.Fits (σ : Stage) (role : Role) : Prop where
  sweeps : σ.sweeps = true → ∃ s, role = .sweeper s
  recovers : σ.recovers = true → ∃ s, role = .recovery s

/-- A stage without sweep and recovery fits every role. -/
theorem Stage.Fits.of_quiet {σ : Stage} {role : Role} (hsweeps : σ.sweeps = false)
    (hrecovers : σ.recovers = false) : σ.Fits role where
  sweeps h := by cases hsweeps.symm.trans h
  recovers h := by cases hrecovers.symm.trans h

/-- After a failure a worker neither sweeps nor recovers. -/
theorem Stage.fits_afterFailure (e : StoreError) (entry : String) (id : MessageId) (role : Role) :
    (Stage.afterFailure e entry id).Fits role := by
  rw [Stage.afterFailure]
  split <;> exact .of_quiet rfl rfl

/-- Moves stay within the role. -/
theorem Stage.Next.fits {role : Role} {σ σ' : Stage} {c : Call} {answer : c.Answer}
    (hnext : Next role σ c answer σ') (hfits : σ.Fits role) : σ'.Fits role := by
  cases hnext with
  | note => exact hfits
  | loadFailed | writeFailed | rejectFailed => exact Stage.fits_afterFailure _ _ _ _
  | due | sweepPush | sweepPushFailed | requeue => exact ⟨fun _ => ⟨_, rfl⟩, by rintro ⟨⟩⟩
  | pending | present | missing | recoverPush => exact ⟨by rintro ⟨⟩, fun _ => ⟨_, rfl⟩⟩
  | _ => exact .of_quiet rfl rfl

-- ---------------------------------------------------------------------------
-- The staff
-- ---------------------------------------------------------------------------

/-- Whether a role may join: workers whose budget lies below the highest count, and submissions. -/
def Role.Joins : Role → Prop
  | .worker w => w.policy.maxAttempts.toNat < 2147483647
  | .submission _ => True
  | .sweeper _ | .recovery _ => False

/-- The roles that may join count attempts as they are made. -/
theorem keeps_of_joins :
    Keeps (fun role => role.Joins ∨ ∃ s, role = .sweeper s) (fun _ => True) Message.Counted :=
  keeps_counted fun _ hworks => hworks.elim (fun hjoins => hjoins) (by rintro ⟨_, ⟨⟩⟩)

/-- A sweeper and others, none of which sweeps or recovers, each at a stage of its role. -/
structure OneSweeper (staff : List (Actor × Stage)) : Prop where
  roles : ∃ s others, staff.map (·.1.role) = .sweeper s :: others ∧ ∀ role ∈ others, role.Joins
  fits : ∀ x ∈ staff, x.2.Fits x.1.role

namespace OneSweeper

variable {staff before after : List (Actor × Stage)} {x y : Actor × Stage}

/-- Everyone on the staff has joined, or is the sweeper. -/
theorem joins_or_sweeper (h : OneSweeper staff) (hx : x ∈ staff) :
    x.1.role.Joins ∨ ∃ s, x.1.role = .sweeper s := by
  obtain ⟨s, others, heq, hothers⟩ := h.roles
  have hrole : x.1.role ∈ staff.map (·.1.role) := List.mem_map_of_mem hx
  rw [heq] at hrole
  rcases List.mem_cons.mp hrole with hrole | hrole
  · exact .inr ⟨s, hrole⟩
  · exact .inl (hothers _ hrole)

/-- Nobody recovers. -/
theorem recovers (h : OneSweeper staff) (hx : x ∈ staff) : x.2.recovers = false := by
  rw [← Bool.not_eq_true]
  intro hrecovers
  obtain ⟨s, hs⟩ := (h.fits x hx).recovers hrecovers
  rcases h.joins_or_sweeper hx with hjoins | ⟨s', hs'⟩
  · rw [hs] at hjoins
    exact hjoins
  · cases hs.symm.trans hs'

/-- While the sweeper moves nobody else sweeps. -/
theorem sweeps (h : OneSweeper (before ++ x :: after)) (hx : ∃ s, x.1.role = .sweeper s)
    (hy : y ∈ before ++ after) : y.2.sweeps = false := by
  obtain ⟨s, others, heq, hothers⟩ := h.roles
  obtain ⟨s', hs'⟩ := hx
  have hjoins : y.1.role.Joins := by
    cases before with
    -- the sweeper is the one that moves
    | nil =>
      obtain ⟨-, rfl⟩ := List.cons.inj heq
      exact hothers _ (List.mem_map_of_mem hy)
    -- the sweeper stands at the head, so that it is not the one that moves
    | cons b before =>
      obtain ⟨-, rfl⟩ := List.cons.inj heq
      have hx : x.1.role.Joins := hothers _ (List.mem_map_of_mem (mem_split.mpr (.inl rfl)))
      rw [hs'] at hx
      exact hx.elim
  rw [← Bool.not_eq_true]
  intro hsweeps
  obtain ⟨s'', hs''⟩ := (h.fits y (mem_split.mpr (.inr hy))).sweeps hsweeps
  rw [hs''] at hjoins
  exact hjoins

/-- A move of one actor leaves the sweeper alone with its role. -/
theorem replace (h : OneSweeper (before ++ x :: after)) (hrole : y.1.role = x.1.role)
    (hfits : y.2.Fits x.1.role) : OneSweeper (before ++ y :: after) := by
  refine ⟨?_, fun z hz => ?_⟩
  · have hroles := h.roles
    rw [List.map_append, List.map_cons] at hroles ⊢
    rw [hrole]
    exact hroles
  · rcases mem_split.mp hz with rfl | hz
    · rw [hrole]
      exact hfits
    · exact h.fits z (mem_split.mpr (.inr hz))

/-- A newcomer is no sweeper. -/
theorem join (h : OneSweeper staff) {role : Role} (hrole : role.Joins) :
    OneSweeper (staff ++ [(.ofRole role, .idle)]) := by
  refine ⟨?_, fun z hz => ?_⟩
  · obtain ⟨s, others, heq, hothers⟩ := h.roles
    refine ⟨s, others ++ [role], by rw [List.map_append, heq]; rfl, fun r hr => ?_⟩
    rcases List.mem_append.mp hr with hr | hr
    · exact hothers r hr
    · obtain rfl := List.mem_singleton.mp hr
      exact hrole
  · rcases List.mem_append.mp hz with hz | hz
    · exact h.fits z hz
    · obtain rfl := List.mem_singleton.mp hz
      exact .of_quiet rfl rfl

end OneSweeper

-- ---------------------------------------------------------------------------
-- The invariant
-- ---------------------------------------------------------------------------

/-- The outside may change anything but what is on record and the supply of identifiers, and makes
no write fail. -/
def World.Undisturbed (w w' : World) : Prop :=
  w.SameRecord w' ∧ w'.Writable

/-- A sweeper about to begin. -/
def Scene.ofSweeper (w : World) (s : SweepSettings) : Scene :=
  { world := w, actors := [.ofRole (.sweeper s)] }

/-- The scene begins with the sweeper, idle. -/
theorem Scene.Staffed.ofSweeper (w : World) (sw : SweepSettings) :
    Staffed (.ofSweeper w sw) [(.ofRole (.sweeper sw), .idle)] := by
  refine ⟨rfl, fun x hx => ?_⟩
  obtain rfl := List.mem_singleton.mp hx
  exact .inr (Role.follows_round _)

/-- What holds of a scene and its staff, where identifiers are as supplied at the start. -/
structure OwnershipInvariant (start : World) (s : Scene) (staff : List (Actor × Stage)) : Prop where
  ids : s.world.supply.messageIds = start.supply.messageIds
  writable : s.world.Writable
  staffing : OneSweeper staff
  hands : ∀ i, s.hand i = staff[i]?.bind fun x => x.1.role.hand x.2
  kept : ∀ bound, s.world.created ≤ bound → start.supply.Distinct bound →
    Owned start.supply.messageIds bound (fun _ => False) s.world.ledger (staff.map Prod.snd)
      ∧ ∀ id, Tally Message.Counted s.world.ledger (staff.map Prod.snd) (s.history.map Prod.snd) id

namespace OwnershipInvariant

variable {w₀ : World} {s : Scene} {staff before after : List (Actor × Stage)} {a b : Actor}
  {σ σ' : Stage} {w' : World}

/-- The invariant holds at the beginning. -/
theorem start (hempty : w₀.Empty) (hwritable : w₀.Writable) (sw : SweepSettings) :
    OwnershipInvariant w₀ (.ofSweeper w₀ sw) [(.ofRole (.sweeper sw), .idle)] where
  ids := rfl
  writable := hwritable
  staffing := ⟨⟨sw, [], rfl, fun _ h => absurd h List.not_mem_nil⟩, fun x hx => by
    obtain rfl := List.mem_singleton.mp hx
    exact .of_quiet rfl rfl⟩
  hands i := by cases i <;> rfl
  kept _ _ _ := ⟨.start hempty.messages hempty.entries,
    fun _ => .start hempty.messages hempty.attempts⟩

/-- What the outside may change does not touch it. -/
theorem outside (h : OwnershipInvariant w₀ s staff) (hsame : s.world.SameRecord w')
    (hwritable : w'.Writable) : OwnershipInvariant w₀ { s with world := w' } staff where
  ids := hsame.2.trans h.ids
  writable := hwritable
  staffing := h.staffing
  hands := h.hands
  kept bound hbound hdistinct := by
    have hcreated : w'.created = s.world.created := congrArg Ledger.created hsame.1
    have hledger : w'.ledger = s.world.ledger := hsame.1
    rw [show Scene.world { s with world := w' } = w' from rfl, hledger]
    exact h.kept bound (hcreated ▸ hbound) hdistinct

/-- A move of one actor keeps it: the sweeper is alone in sweeping, and no write fails, so that
every message stays fair, and every attempt is tallied. -/
theorem move (h : OwnershipInvariant w₀ s (before ++ (a, σ) :: after)) {t : Scene} {i : Nat}
    {c : Call} {answer : c.Answer} (hrole : b.role = a.role)
    (hmove : Stage.Move a.role σ s.world c answer σ' t.world)
    (hhistory : t.history = (i, ⟨s.world, c, answer⟩) :: s.history)
    (hhands : ∀ j, t.hand j = (before ++ (b, σ') :: after)[j]?.bind fun x => x.1.role.hand x.2) :
    OwnershipInvariant w₀ t (before ++ (b, σ') :: after) := by
  have hmem : (a, σ) ∈ before ++ (a, σ) :: after := mem_split.mpr (.inl rfl)
  have heffect := hmove.effect
  refine ⟨hmove.kept.supply ▸ h.ids, h.writable.of_kept hmove.kept,
    h.staffing.replace hrole (hmove.next.fits (h.staffing.fits _ hmem)), hhands,
    fun bound hbound hdistinct => ?_⟩
  rw [h.ids] at heffect
  obtain ⟨howned, htally⟩ := h.kept bound (Nat.le_trans heffect.created_le hbound) hdistinct
  rw [hhistory]
  simp only [List.map_append, List.map_cons] at howned htally ⊢
  -- the sweeper alone sweeps
  have hlone : ∀ sw, a.role = .sweeper sw →
      ∀ τ ∈ before.map Prod.snd ++ after.map Prod.snd, τ.sweeps = false := by
    intro sw hsw τ hτ
    rw [← List.map_append] at hτ
    obtain ⟨y, hy, rfl⟩ := List.mem_map.mp hτ
    exact h.staffing.sweeps ⟨sw, hsw⟩ hy
  have hquiet : ∀ τ ∈ before.map Prod.snd ++ after.map Prod.snd, τ.recovers = false := by
    intro τ hτ
    rw [← List.map_append] at hτ
    obtain ⟨y, hy, rfl⟩ := List.mem_map.mp hτ
    exact h.staffing.recovers (mem_split.mpr (.inr hy))
  have hworks := h.staffing.joins_or_sweeper hmem
  -- nobody recovers, so that nothing has to be shown of a recovery
  have halone : ∀ sw, a.role = .recovery sw →
      before.map Prod.snd = [] ∧ after.map Prod.snd = [] := by
    intro sw hsw
    rw [hsw] at hworks
    exact (hworks.elim (fun hfalse => hfalse) (by rintro ⟨_, ⟨⟩⟩)).elim
  refine ⟨howned.step hdistinct hbound hmove.next heffect hlone halone hquiet ?_, fun id => ?_⟩
  · intro id hspoiled
    exact hspoiled.elim (fun hfalse => hfalse) (h.writable.not_spoils hmove.performed id)
  · refine (htally id).step keeps_of_joins hworks hmove.next heffect
      (h.writable.carried hmove.performed) (fun hlt => ?_) (howned.fair id fun hfalse => hfalse)
      fun _ _ => trivial
    exact howned.unissued _ (Nat.le_refl _) (Nat.lt_of_lt_of_le hlt hbound)

/-- An actor that begins its next round had let go of everything. -/
theorem restart (h : OwnershipInvariant w₀ s (before ++ (a, σ) :: after)) (hrest : σ.AtRest)
    (hrole : b.role = a.role) (actors : List Actor)
    (hhands : ∀ j, Scene.hand { s with actors } j
      = (before ++ (b, .idle) :: after)[j]?.bind fun x => x.1.role.hand x.2) :
    OwnershipInvariant w₀ { s with actors } (before ++ (b, .idle) :: after) := by
  refine ⟨h.ids, h.writable, h.staffing.replace hrole (.of_quiet rfl rfl), hhands,
    fun bound hbound hdistinct => ?_⟩
  obtain ⟨howned, htally⟩ := h.kept bound hbound hdistinct
  simp only [List.map_append, List.map_cons] at howned htally ⊢
  exact ⟨howned.drop hrest.pushed, fun id => (htally id).drop hrest.report⟩

/-- An actor that breaks down over an unanswered call stays where it was, with what it has in hand.
-/
theorem unanswered (h : OwnershipInvariant w₀ s (before ++ (a, σ) :: after)) {c : Call}
    (hperform : s.world.perform c = (none, w')) (hrole : b.role = a.role) (actors : List Actor)
    (hhands : ∀ j, Scene.hand { s with world := w', actors } j
      = (before ++ (b, σ) :: after)[j]?.bind fun x => x.1.role.hand x.2) :
    OwnershipInvariant w₀ { s with world := w', actors } (before ++ (b, σ) :: after) := by
  have hkept := s.world.kept_perform c
  rw [hperform] at hkept
  have hsame := h.outside (World.sameRecord_of_unanswered hperform) (h.writable.of_kept hkept)
  have hmem : (a, σ) ∈ before ++ (a, σ) :: after := mem_split.mpr (.inl rfl)
  refine ⟨hsame.ids, hsame.writable, hsame.staffing.replace hrole (h.staffing.fits _ hmem), hhands,
    fun bound hbound hdistinct => ?_⟩
  have hkept := hsame.kept bound hbound hdistinct
  simp only [List.map_append, List.map_cons] at hkept ⊢
  exact hkept

/-- A newcomer has nothing in hand. -/
theorem join (h : OwnershipInvariant w₀ s staff) {role : Role} (hrole : role.Joins) :
    OwnershipInvariant w₀ (s.join role) (staff ++ [(.ofRole role, .idle)]) := by
  refine ⟨h.ids, h.writable, h.staffing.join hrole, Scene.hands_join role h.hands,
    fun bound hbound hdistinct => ?_⟩
  obtain ⟨howned, htally⟩ := h.kept bound hbound hdistinct
  simp only [List.map_append, List.map_cons, List.map_nil] at howned htally ⊢
  exact ⟨howned.join, fun id => (htally id).join⟩

end OwnershipInvariant

/-- What stands at another place is before or after. -/
theorem mem_of_getElem?_ne {α : Type} {before after : List α} {x y : α} {j : Nat}
    (hy : (before ++ x :: after)[j]? = some y) (hj : j ≠ before.length) : y ∈ before ++ after := by
  rcases Nat.lt_or_gt_of_ne hj with hlt | hgt
  · rw [List.getElem?_append_left hlt] at hy
    exact List.mem_append_left _ (List.mem_of_getElem? hy)
  · obtain ⟨n, rfl⟩ := Nat.exists_eq_add_of_lt hgt
    rw [List.getElem?_append_right (by omega),
      show before.length + n + 1 - before.length = n + 1 by omega, List.getElem?_cons_succ] at hy
    exact List.mem_append_right _ (List.mem_of_getElem? hy)

/-- No two actors have a message in hand. -/
theorem OwnershipInvariant.hand_unique {w₀ : World} {s : Scene} {staff : List (Actor × Stage)}
    {id : MessageId} (h : OwnershipInvariant w₀ s staff)
    (hfair : Fair s.world.ledger (staff.map Prod.snd) id) {i j : Nat} (hi : s.hand i = some id)
    (hj : s.hand j = some id) : j = i := by
  rw [h.hands, Option.bind_eq_some_iff] at hi hj
  obtain ⟨x, hx, hxhand⟩ := hi
  obtain ⟨y, hy, hyhand⟩ := hj
  obtain ⟨hlt, hget⟩ := List.getElem?_eq_some_iff.mp hx
  -- one of the two actors splits the staff, and the other is on either side
  have hsplit : staff = staff.take i ++ x :: staff.drop (i + 1) := by
    rw [← hget, ← List.drop_eq_getElem_cons hlt, List.take_append_drop]
  have hlength : (staff.take i).length = i := List.length_take_of_le (Nat.le_of_lt hlt)
  rw [hsplit] at hy hfair
  rw [List.map_append, List.map_cons] at hfair
  refine Decidable.byContradiction fun hne => ?_
  have hmem := mem_of_getElem?_ne hy (hlength.symm ▸ hne)
  refine hfair.others (Role.hand_eq_some hxhand) y.2 ?_ (Role.hand_eq_some hyhand)
  rw [← List.map_append]
  exact List.mem_map_of_mem hmem

/-- Every turn keeps the invariant. -/
theorem OwnershipInvariant.turn {w₀ : World} {s t : Scene} {staff staff' : List (Actor × Stage)}
    {i : Nat} (h : OwnershipInvariant w₀ s staff) (hturn : Scene.Turn s i staff t staff') :
    OwnershipInvariant w₀ t staff' := by
  have hhands := hturn.hands h.hands
  cases hturn with
  | none => exact h
  | @restart _ _ a _ hi hrest => exact h.restart (b := .ofRole a.role) hrest rfl _ hhands
  | @move _ _ a _ _ c answer _ next hi htask hmove =>
    exact h.move (b := { a with task := next answer }) rfl hmove rfl hhands
  | @unanswered _ _ a _ _ _ hi hperform =>
    exact h.unanswered (b := { a with task := .breakdown }) hperform rfl _ hhands

/-- So it holds in every reachable scene. The induction is on how the scene was reached. -/
theorem Scene.Reachable.ownership {w : World} {sw : SweepSettings} {s : Scene}
    (hempty : w.Empty) (hwritable : w.Writable)
    (hreachable : Reachable Role.Joins World.Undisturbed (.ofSweeper w sw) s) :
    ∃ staff, Staffed s staff ∧ OwnershipInvariant w s staff := by
  refine hreachable.staffed (I := OwnershipInvariant w) (.ofSweeper w sw)
    (.start hempty hwritable sw) ?_ ?_ ?_
  · exact fun s i staff t staff' _ hinvariant hturn _ => hinvariant.turn hturn
  · exact fun s role staff hinvariant hrole => hinvariant.join hrole
  · exact fun s w' staff hinvariant hchange => hinvariant.outside hchange.1 hchange.2

-- ---------------------------------------------------------------------------
-- Single ownership
-- ---------------------------------------------------------------------------

/-- Only a worker that has a message in hand sends it. -/
theorem Scene.Staffed.hand_of_send {s : Scene} {staff : List (Actor × Stage)}
    (h : Staffed s staff) (hhands : ∀ i, s.hand i = staff[i]?.bind fun x => x.1.role.hand x.2)
    {i : Nat} {client : Client} {r : DeliveryRequest} (hnext : s.next? i = some (.send client r)) :
    s.hand i = some r.messageId := by
  obtain ⟨a, σ, σ', hactor, hmove⟩ := h.next hnext (⟨.transportError "", .zero⟩ : Report)
  rw [hhands, hactor, Option.bind_some]
  revert hmove
  generalize a.role = role
  intro hmove
  cases hmove with
  | send hr => exact congrArg some (DeliveryRequest.messageId_of_ofMessage hr).symm

/-- While workers, submissions and one sweeper are at work, and no write is made to fail, the
entries that name a message and the workers that have it in hand are at most one together; whoever
sends a message has it in hand, and nobody else has; and the attempts on record for a message are
numbered from one, in order. -/
theorem Scene.single_owner {w : World} {sw : SweepSettings} {s : Scene} (hempty : w.Empty)
    (hwritable : w.Writable)
    (hreachable : Reachable Role.Joins World.Undisturbed (.ofSweeper w sw) s)
    (hdistinct : w.supply.Distinct s.world.created) :
    (∀ id, s.world.queue.entries.countP (names id) + s.holders id ≤ 1)
    ∧ (∀ i client r, s.next? i = some (.send client r) →
      s.hand i = some r.messageId ∧ ∀ j, s.hand j = some r.messageId → j = i)
    ∧ ∀ (id : MessageId) (i : Nat) (a : Attempt),
      (s.world.ledger.attemptsOf id)[i]? = some a → a.number.value = i + 1 := by
  obtain ⟨staff, hstaffed, hinvariant⟩ := hreachable.ownership hempty hwritable
  obtain ⟨howned, htally⟩ := hinvariant.kept _ (Nat.le_refl _) hdistinct
  have hfair : ∀ id, Fair s.world.ledger (staff.map Prod.snd) id :=
    fun id => howned.fair id fun hfalse => hfalse
  have hsingle : ∀ id, s.world.queue.entries.countP (names id) + s.holders id ≤ 1 := by
    intro id
    rw [holders_eq hstaffed hinvariant.hands]
    exact Nat.le_trans (Nat.add_le_add_left (countP_hand_le staff id) _) (hfair id).single
  refine ⟨hsingle, fun i client r hnext => ?_, fun id i a ha => ?_⟩
  · have hhand := hstaffed.hand_of_send hinvariant.hands hnext
    exact ⟨hhand, fun j hj => hinvariant.hand_unique (hfair _) hhand hj⟩
  · exact (htally id).number keeps_of_joins (hfair id) ha

-- A submission has stored and queued a webhook, and a worker has taken it and is about to send it.

/-- A worker, a submission and a sweeper, at the moment before the first request goes out. -/
def Scene.sending : Scene :=
  (((Scene.ofSweeper .fresh {}).join (.worker .plain)).join (.submission .toLoopback)).acts
    [2, 2, 1, 1, 1, 1]

/-- Whether a call sends a request. -/
def Call.sends : Call → Bool
  | .send _ _ => true
  | _ => false

/-- This scene is reachable. -/
theorem Scene.reachable_sending :
    Reachable Role.Joins World.Undisturbed (.ofSweeper .fresh {}) .sending := by
  have hworker : Worker.plain.policy.maxAttempts.toNat < 2147483647 := by decide
  have hfirst : Reachable Role.Joins World.Undisturbed (.ofSweeper .fresh {}) _ :=
    Reachable.refl.step (.join (.ofSweeper .fresh {}) (.worker .plain) hworker)
  have hjoined := hfirst.step (.join _ (.submission .toLoopback) trivial)
  exact hjoined.trans (reachable_acts _ _ _ _)

/-- There the worker, and nobody else, has the message in hand. -/
theorem Scene.single_owner_sending : ∃ client r,
    Scene.sending.next? 1 = some (.send client r) ∧ Scene.sending.hand 1 = some r.messageId
      ∧ ∀ j, Scene.sending.hand j = some r.messageId → j = 1 := by
  have hwritable : World.fresh.Writable := ⟨rfl, rfl, fun p hp => absurd hp List.not_mem_nil⟩
  have hcreated : Scene.sending.world.created = 1 := by decide +kernel
  have hdistinct : World.fresh.supply.Distinct Scene.sending.world.created := by
    rw [hcreated]
    exact Supply.distinct_counting (by decide)
  obtain ⟨-, hsend, -⟩ := Scene.single_owner ⟨rfl, rfl, rfl⟩ hwritable reachable_sending hdistinct
  have hnext : (Scene.sending.next? 1).any Call.sends = true := by decide +kernel
  obtain ⟨c, hc, hsends⟩ := (Option.any_eq_true _ _).mp hnext
  cases c with
  | send client r => exact ⟨client, r, hc, hsend 1 client r hc⟩
  | _ => cases hsends

end WebhookDelivery
