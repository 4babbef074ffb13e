import WebhookDelivery.Json.Records
import WebhookDelivery.Proofs.Identifiers
import WebhookDelivery.Proofs.TimeText

/-!
# Records read back from JSON

Each record is read back from the JSON that it is written as. A leaf is read back by its own reader:
identifiers and instants from their texts, numbers within the bounds of their type. An optional
value is written as null where it is missing, and no leaf is, so that a value that is there is never
taken for a missing one. A record then needs no more than that its members have different names.

All leaves but one are read back as they were. An instant in a leap second that is out of place has
the text of another instant and is read as that, and with it the record that it stands in.

* `Json.ReadsAs`, `Json.Reads` — what a reader takes back; `Json.Reads.list`, `Json.ReadsAs.option`.
* `Json.member?_cons_ne`, `Json.optional?_cons_ne` — a member is found behind those of other names.
* `Json.records_read_back` — messages, drafts, results and attempts.
* `Json.stray_leap_second` — an attempt that is read back as another one.
-/

namespace WebhookDelivery

namespace Json

-- ---------------------------------------------------------------------------
-- Readers and writers
-- ---------------------------------------------------------------------------

/-- What a reader takes back of each value that is written. -/
def ReadsAs {α : Type} (read : Json → Option α) (write : α → Json) (back : α → α) : Prop :=
  ∀ a, read (write a) = some (back a)

/-- A reader takes back whatever a writer makes. -/
def Reads {α : Type} (read : Json → Option α) (write : α → Json) : Prop :=
  ∀ a, read (write a) = some a

section Reads

variable {α : Type} {read : Json → Option α} {write : α → Json} {back : α → α}

/-- A list is read back if its items are. -/
theorem Reads.list (h : Reads read write) :
    Reads (list? read) fun items : List α => .arr (items.map write) := by
  intro items
  rw [list?]
  -- on the items, of which each is read back
  induction items with
  | nil => rfl
  | cons a items ih =>
    rw [List.map_cons, List.mapM_cons, h a, ih]
    rfl

/-- What is there is not taken for missing, if its writer never makes null. -/
theorem ReadsAs.option (h : ReadsAs read write back) (hnull : ∀ a, write a ≠ .null) :
    ReadsAs (option? read) (ofOption write) (Option.map back) := by
  intro value
  cases value with
  | none => rfl
  | some a =>
    rw [ofOption, option?.eq_def]
    split
    · rename_i heq
      -- only a value that is written as null could be taken for none
      exact absurd heq (hnull a)
    · rw [h a]
      rfl

/-- An option is read back if its value is, and is never written as null. -/
theorem Reads.option (h : Reads read write) (hnull : ∀ a, write a ≠ .null) :
    Reads (option? read) (ofOption write) := by
  intro value
  rw [ReadsAs.option h hnull value, Option.map_id']

theorem intBetween?_int {lo hi n : Int} (h : lo ≤ n ∧ n ≤ hi) :
    intBetween? lo hi (.int n) = some n :=
  if_pos h

theorem reads_string : Reads string? .str :=
  fun _ => rfl

theorem str_ne_null (s : String) : str s ≠ .null := by
  intro h
  cases h

theorem int_ne_null {n : Int} : int n ≠ .null := by
  intro h
  cases h

theorem reads_uint8 : Reads uint8? fun b => .int b.toNat := by
  intro b
  have hlt := b.toNat_lt
  rw [uint8?, intBetween?_int (by omega), Option.map_some, Int.toNat_natCast, UInt8.ofNat_toNat]

theorem reads_uint16 : Reads uint16? fun n => .int n.toNat := by
  intro n
  have hlt := n.toNat_lt
  rw [uint16?, intBetween?_int (by omega), Option.map_some, Int.toNat_natCast, UInt16.ofNat_toNat]

theorem reads_int32 : Reads int32? fun n => .int n.toInt := by
  intro n
  have hle := n.le_toInt
  have hlt := n.toInt_lt
  rw [int32?, intBetween?_int (by omega), Option.map_some, Int32.ofInt_toInt]

theorem reads_int64 : Reads int64? fun n => .int n.toInt := by
  intro n
  have hle := n.le_toInt
  have hlt := n.toInt_lt
  rw [int64?, intBetween?_int (by omega), Option.map_some, Int64.ofInt_toInt]

end Reads

-- ---------------------------------------------------------------------------
-- Members
-- ---------------------------------------------------------------------------

section Members

variable {α : Type} {name other : String} {v : Json} {members : List (String × Json)}
  {read : Json → Option α}

theorem member?_cons_self : member? ((name, v) :: members) name read = read v := by
  rw [member?, List.lookup_cons_self, Option.bind_some]

theorem member?_cons_ne (h : name ≠ other) :
    member? ((other, v) :: members) name read = member? members name read := by
  rw [member?, List.lookup_cons, beq_false_of_ne h, member?]

theorem optional?_cons_self :
    optional? ((name, v) :: members) name read = option? read v := by
  rw [optional?, List.lookup_cons_self, Option.getD_some]

theorem optional?_cons_ne (h : name ≠ other) :
    optional? ((other, v) :: members) name read = optional? members name read := by
  rw [optional?, List.lookup_cons, beq_false_of_ne h, optional?]

end Members

end Json

-- ---------------------------------------------------------------------------
-- Leaves
-- ---------------------------------------------------------------------------

open Json (Reads ReadsAs)

theorem Uuid.reads : Reads ofJson? toJson := by
  intro u
  rw [ofJson?, toJson, Json.string?, Option.bind_some, ofText?, text, String.toList_ofList,
    read?_chars]

theorem MessageId.reads : Reads ofJson? toJson := by
  intro id
  rw [ofJson?, toJson, Uuid.reads id.uuid]
  rfl

theorem OrgId.reads : Reads ofJson? toJson := by
  intro id
  rw [ofJson?, toJson, Uuid.reads id.uuid]
  rfl

theorem Status.reads : Reads ofJson? toJson :=
  ofText?_text

/-- An instant is read back as what its text shows. -/
theorem Instant.readsAs : ReadsAs ofJson? toJson shown := by
  intro t
  rw [ofJson?, toJson, Json.string?, Option.bind_some, ofText?_text]

theorem Instant.toJson_ne_null (t : Instant) : t.toJson ≠ .null :=
  Json.str_ne_null t.text

theorem Count.reads : Reads ofJson? toJson := by
  intro c
  show of? c.value = some c
  rw [of?, dif_pos ⟨c.value_ge, c.value_le⟩]

theorem Octets.reads : Reads ofJson? toJson :=
  Json.reads_uint8.list

-- ---------------------------------------------------------------------------
-- Records
-- ---------------------------------------------------------------------------

/-- What is submitted is read back as it was written. -/
theorem Draft.reads : Reads ofJson? toJson := by
  intro d
  unfold ofJson? toJson Json.members?
  simp (disch := decide) only [Json.member?_cons_self, Json.member?_cons_ne, some_bind,
    OrgId.reads d.org, Json.reads_string d.method, Json.reads_string d.url, Octets.reads d.payload]

/-- Whether an instant of a message is in no leap second out of place. -/
def Message.IsRegular (m : Message) : Prop :=
  m.createdAt.IsRegular ∧ m.updatedAt.IsRegular ∧ ∀ t ∈ m.nextRetryAt, t.IsRegular

/-- A message as the texts of its instants show it. -/
def Message.shown (m : Message) : Message :=
  { m with
    nextRetryAt := m.nextRetryAt.map (·.shown), createdAt := m.createdAt.shown
    updatedAt := m.updatedAt.shown }

/-- A message is shown as it is exactly if its instants are in place. -/
theorem Message.shown_eq_iff (m : Message) : m.shown = m ↔ m.IsRegular := by
  have hdue : m.nextRetryAt.map (·.shown) = m.nextRetryAt ↔ ∀ t ∈ m.nextRetryAt, t.IsRegular := by
    cases m.nextRetryAt <;> simp [Instant.shown_eq_iff]
  rw [IsRegular, ← Instant.shown_eq_iff, ← Instant.shown_eq_iff, ← hdue]
  constructor
  · intro h
    exact ⟨congrArg createdAt h, congrArg updatedAt h, congrArg nextRetryAt h⟩
  · rintro ⟨hcreated, hupdated, hretry⟩
    rw [shown, hcreated, hupdated, hretry]

/-- A message is read back with its instants as their texts show them. -/
theorem Message.readsAs : ReadsAs ofJson? toJson shown := by
  intro m
  -- the due time is the one member that may be null
  have hdue := Instant.readsAs.option Instant.toJson_ne_null m.nextRetryAt
  unfold ofJson? toJson Json.members?
  simp (disch := decide) only [Json.member?_cons_self, Json.member?_cons_ne,
    Json.optional?_cons_self, Json.optional?_cons_ne, some_bind, MessageId.reads m.id,
    OrgId.reads m.org, Json.reads_string m.method, Json.reads_string m.url, Octets.reads m.payload,
    Status.reads m.status, Count.reads m.attemptCount, hdue, Instant.readsAs m.createdAt,
    Instant.readsAs m.updatedAt]
  rfl

/-- The kind is read first, and says by which members to go on. -/
theorem AttemptResult.reads : Reads ofJson? toJson := by
  intro result
  cases result with
  | response code body =>
    have hbody := Json.reads_string.option Json.str_ne_null body
    unfold ofJson? toJson ofMembers?
    simp (disch := decide) only [Json.member?_cons_self, Json.member?_cons_ne,
      Json.optional?_cons_self, Json.optional?_cons_ne, some_bind, if_true,
      Json.reads_string "response", Json.reads_uint16 code, hbody]
  | error message =>
    have hkind : ¬ "error" = "response" := by decide
    unfold ofJson? toJson ofMembers?
    simp (disch := decide) only [Json.member?_cons_self, Json.member?_cons_ne, some_bind, hkind,
      if_true, if_false, Json.reads_string "error", Json.reads_string message]

/-- An attempt as the text of its time shows it. -/
def Attempt.shown (a : Attempt) : Attempt :=
  { a with attemptedAt := a.attemptedAt.shown }

/-- An attempt is shown as it is exactly if its time is in place. -/
theorem Attempt.shown_eq_iff (a : Attempt) : a.shown = a ↔ a.attemptedAt.IsRegular := by
  rw [← Instant.shown_eq_iff]
  constructor
  · exact congrArg attemptedAt
  · intro h
    rw [shown, h]

/-- An attempt is read back with its time as its text shows it. -/
theorem Attempt.readsAs : ReadsAs ofJson? toJson shown := by
  intro a
  have hcode := Json.reads_int32.option (fun _ => Json.int_ne_null) a.statusCode
  have hbody := Json.reads_string.option Json.str_ne_null a.responseBody
  have herror := Json.reads_string.option Json.str_ne_null a.errorMessage
  have hduration := Json.reads_int64.option (fun _ => Json.int_ne_null) a.durationMs
  unfold ofJson? toJson Json.members?
  simp (disch := decide) only [Json.member?_cons_self, Json.member?_cons_ne,
    Json.optional?_cons_self, Json.optional?_cons_ne, some_bind, Uuid.reads a.id,
    MessageId.reads a.messageId, Count.reads a.number, hcode, hbody, herror, hduration,
    Instant.readsAs a.attemptedAt]
  rfl

/-- Messages, drafts, results and attempts are always read back: drafts and results as they were,
messages and attempts as the texts of their instants show them. That is as they were if, and only
if, no instant is in a leap second out of place. -/
theorem Json.records_read_back :
    (∀ m : Message, Message.ofJson? m.toJson = some m.shown ∧ (m.shown = m ↔ m.IsRegular))
      ∧ (∀ d : Draft, Draft.ofJson? d.toJson = some d)
      ∧ (∀ result : AttemptResult, AttemptResult.ofJson? result.toJson = some result)
      ∧ (∀ a : Attempt, Attempt.ofJson? a.toJson = some a.shown
          ∧ (a.shown = a ↔ a.attemptedAt.IsRegular)) :=
  ⟨fun m => ⟨Message.readsAs m, m.shown_eq_iff⟩, Draft.reads, AttemptResult.reads,
    fun a => ⟨Attempt.readsAs a, a.shown_eq_iff⟩⟩

/-- An attempt in a leap second after 1972-06-30T23:56:04. -/
def Attempt.stray : Attempt :=
  { id := default, messageId := default, number := .zero, statusCode := some 200
    responseBody := none, errorMessage := none, durationMs := none
    attemptedAt := ⟨78796564, 1333333333, by decide, by decide, by decide⟩ }

/-- Its time has the text of one in the second that follows, and it is read back as an attempt of
that second. -/
theorem Json.stray_leap_second :
    Attempt.stray.attemptedAt.text = "1972-06-30T23:56:05.333333333Z"
      ∧ Attempt.ofJson? Attempt.stray.toJson
        = some { Attempt.stray with
            attemptedAt := ⟨78796565, 333333333, by decide, by decide, by decide⟩ }
      ∧ Attempt.ofJson? Attempt.stray.toJson ≠ some Attempt.stray := by
  have hread : Attempt.ofJson? Attempt.stray.toJson = some Attempt.stray.shown :=
    Attempt.readsAs .stray
  refine ⟨by decide, hread.trans (by decide), ?_⟩
  rw [hread]
  decide

end WebhookDelivery
