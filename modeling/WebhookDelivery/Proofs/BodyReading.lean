import WebhookDelivery.Http.Body

/-!
# Bodies in chunks

A body comes in chunks, cut wherever the network likes, and then it is complete or has broken off.
What is recorded of it must not depend on the cuts. `BodyReading` is the reading one chunk at a
time, with the buffer and the chunks that were not asked for in sight at every point: the buffer is
the beginning of the body, as long as there is room for a chunk there is room for an octet, and the
chunk that oversteps the limit is the last that is asked for.

* `BodyReading.Sound.next` — what one chunk keeps.
* `BodyReading.after_eq_ended` — the reading one chunk at a time comes to what `gather` says.
* `readBody_of_chunks` — what is recorded, and how much is held and asked for on the way.
-/

namespace WebhookDelivery

-- ---------------------------------------------------------------------------
-- One chunk at a time
-- ---------------------------------------------------------------------------

/-- Where the reading of a body stands. -/
inductive BodyReading where
  /-- The next chunk is asked for. -/
  | asking (buffer : Octets) (coming : List Octets)
  /-- It is over, with the octets gathered or, if the body broke off, with none; the chunks left
  were never asked for. -/
  | ended (gathered : Option Octets) (left : List Octets)
  deriving DecidableEq, Repr

namespace BodyReading

/-- The answer to the question for a chunk: a chunk or the end. -/
def next : BodyEnd → BodyReading → BodyReading
  | .complete, asking buffer [] => ended (some buffer) []
  | .broken, asking _ [] => ended none []
  | _, asking buffer (chunk :: rest) =>
    let buffer := buffer ++ chunk.take (maxBodyBytes + 1 - buffer.length)
    if maxBodyBytes < buffer.length then ended (some buffer) rest else asking buffer rest
  | _, ended gathered left => ended gathered left

/-- So many answers later. -/
def after (ending : BodyEnd) : Nat → BodyReading → BodyReading
  | 0, s => s
  | n + 1, s => after ending n (s.next ending)

/-- The octets that are held. -/
def held : BodyReading → Octets
  | asking buffer _ => buffer
  | ended gathered _ => gathered.getD []

/-- The chunks that have not been asked for. -/
def unread : BodyReading → List Octets
  | asking _ coming => coming
  | ended _ left => left

/-- What a reading of some chunks can have come to. -/
inductive Sound (chunks : List Octets) : BodyEnd → BodyReading → Prop where
  | asking {ending : BodyEnd} {read coming : List Octets} (split : chunks = read ++ coming)
    (room : read.flatten.length ≤ maxBodyBytes) :
    Sound chunks ending (.asking read.flatten coming)
  /-- The limit was overstepped with one chunk. -/
  | cut {ending : BodyEnd} {read left : List Octets} {chunk : Octets}
    (split : chunks = read ++ chunk :: left) (room : read.flatten.length ≤ maxBodyBytes)
    (beyond : maxBodyBytes < (read.flatten ++ chunk).length) :
    Sound chunks ending (.ended (some ((read.flatten ++ chunk).take (maxBodyBytes + 1))) left)
  | complete (room : chunks.flatten.length ≤ maxBodyBytes) :
    Sound chunks .complete (.ended (some chunks.flatten) [])
  | broken (room : chunks.flatten.length ≤ maxBodyBytes) :
    Sound chunks .broken (.ended none [])

/-- What fits of a chunk completes the buffer to the beginning of what has arrived. -/
theorem append_take_room {buffer : Octets} (room : buffer.length ≤ maxBodyBytes)
    (chunk : Octets) :
    buffer ++ chunk.take (maxBodyBytes + 1 - buffer.length)
      = (buffer ++ chunk).take (maxBodyBytes + 1) := by
  rw [List.take_append, List.take_of_length_le (Nat.le_succ_of_le room)]

variable {chunks : List Octets} {ending : BodyEnd} {s : BodyReading}

/-- An answer leads from what a reading can have come to to what it can have come to. -/
theorem Sound.next (h : Sound chunks ending s) : Sound chunks ending (s.next ending) := by
  cases h with
  | @asking _ read coming split room =>
    cases coming with
    | nil =>
      rw [List.append_nil] at split
      subst split
      cases ending with
      | complete => exact .complete room
      | broken => exact .broken room
    | cons chunk rest =>
      -- what is kept of the chunk is what one octet beyond the limit leaves room for
      have hnext : (BodyReading.asking read.flatten (chunk :: rest)).next ending
          = if maxBodyBytes < ((read.flatten ++ chunk).take (maxBodyBytes + 1)).length
            then .ended (some ((read.flatten ++ chunk).take (maxBodyBytes + 1))) rest
            else .asking ((read.flatten ++ chunk).take (maxBodyBytes + 1)) rest := by
        rw [← append_take_room room]
        cases ending <;> rfl
      rw [hnext, List.length_take]
      split
      · exact .cut split room (by omega)
      · have hfits : (read.flatten ++ chunk).length ≤ maxBodyBytes := by omega
        rw [List.take_of_length_le (by omega), ← List.flatten_concat]
        refine .asking ?_ (List.flatten_concat ▸ hfits)
        rw [split, List.append_assoc]
        rfl
  | cut split room beyond =>
    cases ending <;> exact .cut split room beyond
  | complete room => exact .complete room
  | broken room => exact .broken room

/-- What any number of answers leads to. -/
theorem Sound.after (h : Sound chunks ending s) (n : Nat) :
    Sound chunks ending (s.after ending n) := by
  induction n generalizing s with
  | zero => exact h
  | succ n ih => exact ih h.next

theorem sound_start (chunks : List Octets) (ending : BodyEnd) :
    Sound chunks ending (.asking [] chunks) :=
  @Sound.asking chunks ending [] chunks rfl (Nat.zero_le _)

/-- A reading that has ended stays as it is. -/
theorem after_ended (ending : BodyEnd) (n : Nat) (gathered : Option Octets)
    (left : List Octets) : (ended gathered left).after ending n = ended gathered left := by
  induction n with
  | zero => rfl
  | succ n ih =>
    rw [BodyReading.after]
    cases ending <;> exact ih

/-- Asking for one chunk after another comes to what is gathered. -/
theorem after_eq_ended (ending : BodyEnd) (buffer : Octets) (chunks : List Octets) :
    ∃ left, (asking buffer chunks).after ending (chunks.length + 1)
      = ended (gather buffer chunks ending) left := by
  -- on the chunks that come: each is one answer, and one step of `gather`
  induction chunks generalizing buffer with
  | nil => cases ending <;> exact ⟨[], rfl⟩
  | cons chunk rest ih =>
    rw [gather, List.length_cons, BodyReading.after]
    have hnext : (asking buffer (chunk :: rest)).next ending
        = if maxBodyBytes < (buffer ++ chunk.take (maxBodyBytes + 1 - buffer.length)).length
          then ended (some (buffer ++ chunk.take (maxBodyBytes + 1 - buffer.length))) rest
          else asking (buffer ++ chunk.take (maxBodyBytes + 1 - buffer.length)) rest := by
      cases ending <;> rfl
    rw [hnext]
    by_cases hbeyond : maxBodyBytes
        < (buffer ++ chunk.take (maxBodyBytes + 1 - buffer.length)).length
    · rw [if_pos hbeyond, if_pos hbeyond]
      exact ⟨rest, after_ended ..⟩
    · rw [if_neg hbeyond, if_neg hbeyond]
      exact ih _

-- ---------------------------------------------------------------------------
-- What is held, asked for and gathered
-- ---------------------------------------------------------------------------

/-- At no time is more than one octet beyond the limit held. -/
theorem Sound.length_held_le (h : Sound chunks ending s) :
    s.held.length ≤ maxBodyBytes + 1 := by
  cases h with
  | asking _ room => exact Nat.le_succ_of_le room
  | cut _ _ beyond => exact List.length_take_le _ _
  | complete room => exact Nat.le_succ_of_le room
  | broken room => exact Nat.zero_le _

/-- Chunks that overstep the limit are more than chunks that do not. -/
theorem length_le_of_room {read before rest coming : List Octets} {chunk : Octets}
    (hsplit : before ++ chunk :: rest = read ++ coming)
    (room : read.flatten.length ≤ maxBodyBytes)
    (beyond : maxBodyBytes < (before ++ [chunk]).flatten.length) :
    read.length ≤ before.length := by
  refine Nat.le_of_not_lt fun hlonger => ?_
  have hlength : (before ++ [chunk]).length ≤ read.length := by
    rw [List.length_append, List.length_singleton]
    omega
  have hbefore : before ++ [chunk] <+: read ++ coming := by
    rw [← hsplit]
    exact ⟨rest, by simp⟩
  obtain ⟨others, rfl⟩ := List.prefix_of_prefix_length_le hbefore (List.prefix_append _ _) hlength
  rw [List.flatten_append, List.length_append] at room
  omega

/-- What comes after the chunk that oversteps the limit is not asked for. -/
theorem Sound.suffix_unread (h : Sound chunks ending s) {before rest : List Octets}
    {chunk : Octets} (hsplit : chunks = before ++ chunk :: rest)
    (beyond : maxBodyBytes < (before ++ [chunk]).flatten.length) : rest <:+ s.unread := by
  have hrest : rest = chunks.drop (before.length + 1) := by
    rw [hsplit, ← List.drop_drop, List.drop_left]
    rfl
  -- the chunks together overstep the limit, so the reading cannot be complete
  have htotal : maxBodyBytes < chunks.flatten.length := by
    have hflatten : chunks.flatten = (before ++ [chunk]).flatten ++ rest.flatten := by
      rw [hsplit, ← List.flatten_append, List.append_assoc]
      rfl
    rw [hflatten, List.length_append]
    omega
  rw [hrest]
  cases h with
  | @asking _ read coming split room =>
    -- the chunks read fit the limit, so they are no more than those before the chunk
    have hcoming : coming = chunks.drop read.length := by
      rw [split, List.drop_left]
    have hread := length_le_of_room (hsplit.symm.trans split) room beyond
    show _ <:+ coming
    rw [hcoming]
    exact List.drop_suffix_drop_left _ (by omega)
  | @cut _ read left last split room =>
    have hleft : left = chunks.drop (read.length + 1) := by
      rw [split, ← List.drop_drop, List.drop_left]
      rfl
    have hread := length_le_of_room (hsplit.symm.trans split) room beyond
    show _ <:+ left
    rw [hleft]
    exact List.drop_suffix_drop_left _ (by omega)
  | complete room => omega
  | broken room => omega

/-- How a reading goes: it is over once every chunk was asked for, with what is gathered; the
buffer holds one octet beyond the limit at most, and none when a chunk is asked for, so that there
is room; and what comes after the chunk that oversteps the limit is never asked for. -/
structure Bounded (chunks : List Octets) (ending : BodyEnd) : Prop where
  ends : ∃ left, (asking [] chunks).after ending (chunks.length + 1)
    = ended (gather [] chunks ending) left
  held_le : ∀ n, ((asking [] chunks).after ending n).held.length ≤ maxBodyBytes + 1
  room : ∀ n buffer coming, (asking [] chunks).after ending n = asking buffer coming →
    buffer.length ≤ maxBodyBytes
  stops : ∀ before chunk rest, chunks = before ++ chunk :: rest →
    maxBodyBytes < (before ++ [chunk]).flatten.length →
    ∀ n, rest <:+ ((asking [] chunks).after ending n).unread

/-- All that is claimed of a reading, for all chunks and both ends. -/
theorem bounded (chunks : List Octets) (ending : BodyEnd) : Bounded chunks ending where
  ends := after_eq_ended ending [] chunks
  held_le n := ((sound_start chunks ending).after n).length_held_le
  room n buffer coming hasks := by
    have hsound := (sound_start chunks ending).after n
    rw [hasks] at hsound
    cases hsound with
    | asking _ room => exact room
  stops before chunk rest hsplit beyond n :=
    ((sound_start chunks ending).after n).suffix_unread hsplit beyond

end BodyReading

/-- What is gathered of a body: all of it if it fits and is complete, nothing if it breaks off
within the limit, and otherwise its beginning up to the first octet beyond the limit. -/
theorem gather_cases (chunks : List Octets) (ending : BodyEnd) :
    (maxBodyBytes < chunks.flatten.length
      ∧ gather [] chunks ending = some (chunks.flatten.take (maxBodyBytes + 1)))
    ∨ (chunks.flatten.length ≤ maxBodyBytes
      ∧ gather [] chunks ending = if ending = .broken then none else some chunks.flatten) := by
  obtain ⟨left, hends⟩ := BodyReading.after_eq_ended ending [] chunks
  have hsound := (BodyReading.sound_start chunks ending).after (chunks.length + 1)
  rw [hends] at hsound
  -- a reading that has ended is cut, complete or broken
  generalize gather [] chunks ending = gathered at hsound
  cases hsound with
  | @cut _ read _ chunk split room beyond =>
    have hflatten : chunks.flatten = (read.flatten ++ chunk) ++ left.flatten := by
      rw [split, List.flatten_append, List.flatten_cons, List.append_assoc]
    refine .inl ⟨?_, ?_⟩
    · rw [hflatten, List.length_append]
      omega
    · have hlength : maxBodyBytes + 1 ≤ (read.flatten ++ chunk).length := beyond
      rw [hflatten, List.take_append_of_le_length hlength]
  | complete room => exact .inr ⟨room, rfl⟩
  | broken room => exact .inr ⟨room, rfl⟩

/-- Of a body beyond the limit one octet beyond it tells as much as all of them. -/
theorem summarizeBody_take {bytes : Octets} (h : maxBodyBytes < bytes.length) :
    summarizeBody (bytes.take (maxBodyBytes + 1)) = summarizeBody bytes := by
  have hlength : (bytes.take (maxBodyBytes + 1)).length = maxBodyBytes + 1 := by
    rw [List.length_take]
    omega
  have hshort : maxSummaryBytes - (utf8 cutMark).length ≤ maxBodyBytes + 1 :=
    Nat.le_trans (Nat.sub_le _ _) (by decide)
  have hempty : ∀ l : Octets, maxBodyBytes < l.length → l.isEmpty = false := by
    intro l hl
    rw [List.isEmpty_eq_false_iff, ← List.length_pos_iff]
    omega
  have hbeyond : maxBodyBytes < (bytes.take (maxBodyBytes + 1)).length := by omega
  rw [summarizeBody, summarizeBody, hempty bytes h, hempty _ hbeyond, if_pos hbeyond, if_pos h,
    List.take_take, Nat.min_eq_left hshort]

/-- What is recorded of a body depends on its octets and its end alone, however it was cut: that it
could not be read, exactly if it breaks off within the limit, and else the record of the whole body.
The reading holds and asks for no more than the limit needs. -/
theorem readBody_of_chunks (chunks : List Octets) (ending : BodyEnd) :
    readBody chunks ending
      = (if ending = .broken ∧ chunks.flatten.length ≤ maxBodyBytes then some unreadableBody
          else summarizeBody chunks.flatten)
    ∧ (gather [] chunks ending = none
        ↔ ending = .broken ∧ chunks.flatten.length ≤ maxBodyBytes)
    ∧ BodyReading.Bounded chunks ending := by
  rcases gather_cases chunks ending with ⟨hbeyond, hgather⟩ | ⟨hfits, hgather⟩
  · refine ⟨?_, ?_, BodyReading.bounded chunks ending⟩
    · rw [readBody, hgather, if_neg (by omega)]
      exact summarizeBody_take hbeyond
    · rw [hgather]
      simp only [reduceCtorEq, false_iff]
      omega
  · refine ⟨?_, ?_, BodyReading.bounded chunks ending⟩
    · rw [readBody, hgather]
      cases ending with
      | complete => rfl
      | broken => rw [if_pos rfl, if_pos ⟨rfl, hfits⟩]
    · rw [hgather]
      cases ending with
      | complete => simp
      | broken => exact ⟨fun _ => ⟨rfl, hfits⟩, fun _ => rfl⟩

example : readBody [[104], [], [105]] .complete = some "hi" := by decide

end WebhookDelivery
