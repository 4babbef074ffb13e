import WebhookDelivery.Pipeline.Worker
import WebhookDelivery.Proofs.AddressText
import WebhookDelivery.Proofs.Identifiers
import WebhookDelivery.Proofs.PercentText
import WebhookDelivery.Proofs.Separators

/-!
# The spellings of an identifier

An identifier is written in one way and read in several: with its digits in groups, in a row, in
braces or as a name, in either case, and with blanks around all of it. What is read is told by the
digits alone, so that whatever spelling stands in the queue, a worker deals with it as with the
canonical one.

The start of a name is read in either case as well, as URNs have it: `urn:uuid:` is not the only one.

* `Uuid.ofDigits?_eq_some_iff` — thirty-two digits, and the digits of the identifier that they spell.
* `Uuid.read?_eq_some_iff` — the texts that are read.
* `MessageId.spellings` — identifiers and their spellings, and what a worker makes of these.
* `MessageId.shouted_accepted` — a name that does not start as it is usually written.
-/

namespace WebhookDelivery

-- ---------------------------------------------------------------------------
-- Blanks around a text
-- ---------------------------------------------------------------------------

/-- What trimming takes away is blank. -/
theorem exists_padding (cs : List Char) :
    ∃ before after, cs = before ++ trimBlanks cs ++ after
      ∧ before.all isBlank = true ∧ after.all isBlank = true := by
  have hends : ∀ l : List Char,
      l = (l.reverse.dropWhile isBlank).reverse ++ (l.reverse.takeWhile isBlank).reverse := by
    intro l
    rw [← List.reverse_append, List.takeWhile_append_dropWhile, List.reverse_reverse]
  refine ⟨cs.takeWhile isBlank, ((cs.dropWhile isBlank).reverse.takeWhile isBlank).reverse,
    ?_, List.all_takeWhile, ?_⟩
  · rw [trimBlanks, List.append_assoc, ← hends, List.takeWhile_append_dropWhile]
  · rw [List.all_reverse]
    exact List.all_takeWhile

/-- What is left of a text is what has no blanks in it. -/
theorem trimBlanks_padded {before core after : List Char} (hbefore : before.all isBlank = true)
    (hafter : after.all isBlank = true) (hne : core ≠ [])
    (hcore : ∀ c ∈ core, isBlank c = false) : trimBlanks (before ++ core ++ after) = core := by
  have hstart : ∀ c ∈ (core ++ after).head?, isBlank c = false := by
    obtain ⟨d, rest, rfl⟩ := List.exists_cons_of_ne_nil hne
    intro c hc
    obtain rfl : d = c := Option.some.inj hc
    exact hcore d List.mem_cons_self
  have hend : ∀ c ∈ core.reverse.head?, isBlank c = false := fun c hc =>
    hcore c (List.mem_reverse.mp (List.mem_of_head? hc))
  rw [trimBlanks, List.append_assoc, dropWhile_until (List.all_eq_true.mp hbefore) hstart,
    List.reverse_append,
    dropWhile_until (fun c hc => List.all_eq_true.mp hafter c (List.mem_reverse.mp hc)) hend,
    List.reverse_reverse]

-- ---------------------------------------------------------------------------
-- Digits
-- ---------------------------------------------------------------------------

namespace Hex

/-- Hexadecimal digits are ASCII. -/
theorem lt_of_value? {c : Char} {d : Nat} (h : value? c = some d) : c.toNat < 0x80 := by
  have hupper : ∀ {top : Char}, c ≤ top → c.toNat ≤ top.toNat := fun hle => hle
  rw [value?] at h
  split at h
  · rename_i hc
    exact Nat.lt_of_le_of_lt (hupper hc.2) (by decide)
  · split at h
    · rename_i hc
      exact Nat.lt_of_le_of_lt (hupper hc.2) (by decide)
    · split at h
      · rename_i hc
        exact Nat.lt_of_le_of_lt (hupper hc.2) (by decide)
      · cases h

/-- A digit that is read is written in lower case. -/
theorem digit_of_value? {c : Char} {d : Nat} (h : value? c = some d) : digit d = c.toLower := by
  have hall : ∀ k : Fin 128, (value? (Char.ofNat k)).all
      (fun d => digit d == (Char.ofNat k).toLower) = true := by
    decide +kernel
  have hc := forall_ascii (P := fun c => (value? c).all (fun d => digit d == c.toLower) = true)
    hall (lt_of_value? h)
  simpa [h] using hc

/-- Hexadecimal digits are not blank. -/
theorem isBlank_of_value? {c : Char} {d : Nat} (h : value? c = some d) : isBlank c = false := by
  have hall : ∀ k : Fin 128,
      (value? (Char.ofNat k)).all (fun _ => !isBlank (Char.ofNat k)) = true := by
    decide +kernel
  have hc := forall_ascii (P := fun c => (value? c).all (fun _ => !isBlank c) = true)
    hall (lt_of_value? h)
  simpa [h] using hc

/-- Writing one more digit writes the others before it. -/
theorem lowDigits_succ {d : Nat} (hd : d < 16) (count n : Nat) :
    lowDigits (count + 1) (n * 16 + d) = lowDigits count n ++ [digit d] := by
  have hrest : (n * 16 + d) / 16 = n := by omega
  have hlast : (n * 16 + d) % 16 = d := by omega
  rw [lowDigits, hrest, hlast]

/-- The number that digits spell after others has them as its last digits. -/
theorem lowDigits_of_foldlM {cs : List Char} {start n : Nat} (count : Nat)
    (h : cs.foldlM (fun n c => (value? c).map (n * 16 + ·)) start = some n) :
    lowDigits (count + cs.length) n = lowDigits count start ++ cs.map Char.toLower := by
  induction cs generalizing start count with
  | nil =>
    obtain rfl := Option.some.inj h
    simp
  | cons c cs ih =>
    rw [List.foldlM_cons, Option.bind_eq_bind, Option.bind_eq_some_iff] at h
    obtain ⟨next, hnext, h⟩ := h
    obtain ⟨d, hd, rfl⟩ := Option.map_eq_some_iff.mp hnext
    have hrest := ih (count + 1) h
    rw [lowDigits_succ (value?_lt hd), digit_of_value? hd] at hrest
    rw [List.length_cons, List.map_cons, ← Nat.succ_add_eq_add_succ]
    simpa using hrest

/-- What digits spell is written with the same digits in lower case. -/
theorem lowDigits_of_read? {cs : List Char} {n : Nat} (h : read? cs = some n) :
    lowDigits cs.length n = cs.map Char.toLower := by
  have hdigits := lowDigits_of_foldlM 0 h
  simpa [lowDigits] using hdigits

/-- A number is read off a text exactly if it consists of digits. -/
theorem isSome_read?_iff {cs : List Char} :
    (read? cs).isSome = true ↔ ∀ c ∈ cs, (value? c).isSome = true := by
  have hfold : ∀ start : Nat,
      (cs.foldlM (fun n c => (value? c).map (n * 16 + ·)) start).isSome = true
        ↔ ∀ c ∈ cs, (value? c).isSome = true := by
    induction cs with
    | nil => simp
    | cons c cs ih =>
      intro start
      rw [List.foldlM_cons, List.forall_mem_cons]
      cases hc : value? c with
      | none => simp
      | some d => simpa using ih (start * 16 + d)
  exact hfold 0

end Hex

-- ---------------------------------------------------------------------------
-- Spellings
-- ---------------------------------------------------------------------------

namespace Uuid

/-- Thirty-two hexadecimal digits, in either case. -/
structure IsDigits (ds : List Char) : Prop where
  length : ds.length = 32
  digit : ∀ c ∈ ds, (Hex.value? c).isSome = true

/-- The forms in which digits spell an identifier: in a row, in groups, and the groups in braces or
after one of the starts of a name. -/
inductive Spelling (IsStart : List Char → Prop) (ds : List Char) : List Char → Prop where
  | plain : Spelling IsStart ds ds
  | grouped : Spelling IsStart ds (group ds)
  | braced : Spelling IsStart ds ('\x7b' :: group ds ++ ['\x7d'])
  | named {start : List Char} (hstart : IsStart start) : Spelling IsStart ds (start ++ group ds)

/-- The start of a name, in either case. -/
def IsNameStart (start : List Char) : Prop :=
  start.map Char.toLower = nameStart

section Spelling

variable {IsStart : List Char → Prop} {ds cs : List Char} {u : Uuid}

theorem digits_injective {u v : Uuid} (h : u.digits = v.digits) : u = v := by
  have hread := u.read?_chars
  rw [chars, h] at hread
  exact Option.some.inj (hread.symm.trans v.read?_chars)

/-- Thirty-two digits that are read make an identifier, which has them in lower case. -/
theorem ofDigits?_of_read? {n : Nat} (hlength : ds.length = 32) (hn : Hex.read? ds = some n) :
    ∃ v : Uuid, ofDigits? ds = some v ∧ v.digits = ds.map Char.toLower := by
  have hlt : n < 340282366920938463463374607431768211456 := by
    have hpow := Hex.read?_lt hn
    rw [hlength] at hpow
    exact Nat.lt_of_lt_of_eq hpow (by decide)
  refine ⟨⟨n, hlt⟩, ?_, ?_⟩
  · rw [ofDigits?, if_pos hlength, hn, Option.bind_some, dif_pos hlt]
  · rw [digits, ← hlength]
    exact Hex.lowDigits_of_read? hn

/-- Any thirty-two digits spell an identifier. -/
theorem exists_of_isDigits (hds : IsDigits ds) :
    ∃ v : Uuid, ofDigits? ds = some v ∧ v.digits = ds.map Char.toLower := by
  obtain ⟨n, hn⟩ := Option.isSome_iff_exists.mp (Hex.isSome_read?_iff.mpr hds.digit)
  exact ofDigits?_of_read? hds.length hn

/-- Digits spell the identifier that has them. -/
theorem ofDigits?_eq_some_iff :
    ofDigits? ds = some u ↔ IsDigits ds ∧ u.digits = ds.map Char.toLower := by
  constructor
  · intro h
    have hlength : ds.length = 32 := by
      rw [ofDigits?] at h
      split at h
      · assumption
      · cases h
    obtain ⟨n, hn⟩ : ∃ n, Hex.read? ds = some n := by
      rw [ofDigits?, if_pos hlength, Option.bind_eq_some_iff] at h
      obtain ⟨n, hn, -⟩ := h
      exact ⟨n, hn⟩
    obtain ⟨v, hv, hdigits⟩ := ofDigits?_of_read? hlength hn
    obtain rfl : v = u := Option.some.inj (hv.symm.trans h)
    exact ⟨⟨hlength, Hex.isSome_read?_iff.mp (by rw [hn]; rfl)⟩, hdigits⟩
  · rintro ⟨hds, hdigits⟩
    obtain ⟨v, hv, hdigits'⟩ := exists_of_isDigits hds
    rw [hv, digits_injective (hdigits'.trans hdigits.symm)]

/-- A character cuts a text in two. -/
theorem cut_of_getElem? {i : Nat} {c : Char} (h : cs[i]? = some c) :
    cs = cs.take i ++ c :: cs.drop (i + 1) := by
  obtain ⟨hi, hc⟩ := List.getElem?_eq_some_iff.mp h
  rw [← hc, ← List.drop_eq_getElem_cons hi, List.take_append_drop]

/-- What is read as groups is the groups of the digits that are read. -/
theorem ofGroups?_eq_some_iff :
    ofGroups? cs = some u ↔ ∃ ds, cs = group ds ∧ ofDigits? ds = some u := by
  constructor
  · intro h
    rw [ofGroups?] at h
    split at h
    · rename_i hshape
      obtain ⟨hlength, h8, h13, h18, h23⟩ := hshape
      refine ⟨_, ?_, h⟩
      -- the text is cut at its four hyphens, one after the other
      have hb : (cs.drop 9)[4]? = some '-' := by rw [List.getElem?_drop]; exact h13
      have hc : (cs.drop 14)[4]? = some '-' := by rw [List.getElem?_drop]; exact h18
      have hd : (cs.drop 19)[4]? = some '-' := by rw [List.getElem?_drop]; exact h23
      have hcut := cut_of_getElem? h8
      rw [cut_of_getElem? hb, List.drop_drop, cut_of_getElem? hc, List.drop_drop,
        cut_of_getElem? hd, List.drop_drop] at hcut
      refine hcut.trans ?_
      have ha' : (cs.take 8).length = 8 := by simp [hlength]
      have hb' : ((cs.drop 9).take 4).length = 4 := by simp [hlength]
      have hc' : ((cs.drop 14).take 4).length = 4 := by simp [hlength]
      have hd' : ((cs.drop 19).take 4).length = 4 := by simp [hlength]
      generalize cs.take 8 = a at ha' ⊢
      generalize (cs.drop 9).take 4 = b at hb' ⊢
      generalize (cs.drop 14).take 4 = c at hc' ⊢
      generalize (cs.drop 19).take 4 = d at hd' ⊢
      simp (disch := omega) [group, List.drop_append, List.drop_of_length_le, ha', hb', hc']
    · cases h
  · rintro ⟨ds, rfl, h⟩
    rw [ofGroups?_group (ofDigits?_eq_some_iff.mp h).1.length, h]

theorem length_group (hds : IsDigits ds) : (group ds).length = 36 := by
  simp [group, hds.length]

theorem IsNameStart.length {start : List Char} (h : IsNameStart start) : start.length = 9 := by
  have hlength := congrArg List.length h
  rwa [List.length_map] at hlength

/-- A spelling is read as what its digits spell. -/
theorem read?_of_spelling (hds : IsDigits ds) (h : Spelling IsNameStart ds cs) :
    read? cs = ofDigits? ds := by
  have hgroup := length_group hds
  have hread := ofGroups?_group hds.length
  -- the forms have different lengths, by which the reader tells them apart
  cases h with
  | plain =>
    rw [read?, hds.length]
    rfl
  | grouped =>
    rw [read?, hgroup]
    exact hread
  | braced =>
    have hlength : ('\x7b' :: group ds ++ ['\x7d']).length = 38 := by simp [hgroup]
    have hlast : ('\x7b' :: group ds ++ ['\x7d']).getLast? = some '\x7d' :=
      List.getLast?_concat
    have hinner : (('\x7b' :: group ds ++ ['\x7d']).drop 1).dropLast = group ds :=
      List.dropLast_concat
    calc read? ('\x7b' :: group ds ++ ['\x7d'])
        = ofGroups? (('\x7b' :: group ds ++ ['\x7d']).drop 1).dropLast := by
          rw [read?, hlength]
          exact if_pos ⟨rfl, hlast⟩
      _ = ofDigits? ds := by rw [hinner, hread]
  | @named start hstart =>
    have hlength : (start ++ group ds).length = 45 := by simp [hgroup, hstart.length]
    have htake : (start ++ group ds).take 9 = start := List.take_left' hstart.length
    have hdrop : (start ++ group ds).drop 9 = group ds := List.drop_left' hstart.length
    have hlower : ((start ++ group ds).take 9).map Char.toLower = nameStart := by
      rw [htake]
      exact hstart
    calc read? (start ++ group ds)
        = ofGroups? ((start ++ group ds).drop 9) := by
          rw [read?, hlength]
          exact if_pos hlower
      _ = ofDigits? ds := by rw [hdrop, hread]

/-- What is read is a spelling of digits. -/
theorem exists_spelling_of_read? (h : read? cs = some u) :
    ∃ ds, Spelling IsNameStart ds cs ∧ ofDigits? ds = some u := by
  rw [read?] at h
  split at h
  · exact ⟨cs, .plain, h⟩
  · obtain ⟨ds, rfl, hds⟩ := ofGroups?_eq_some_iff.mp h
    exact ⟨ds, .grouped, hds⟩
  · split at h
    · rename_i hlength hbraces
      obtain ⟨ds, hgroup, hds⟩ := ofGroups?_eq_some_iff.mp h
      refine ⟨ds, ?_, hds⟩
      -- braces at both ends, and no character shared by the two
      have hends : cs = '\x7b' :: (cs.drop 1).dropLast ++ ['\x7d'] := by
        obtain ⟨rest, rfl⟩ := List.head?_eq_some_iff.mp hbraces.1
        obtain ⟨mid, hmid⟩ := List.getLast?_eq_some_iff.mp hbraces.2
        cases mid with
        | nil => simp at hmid
        | cons c mid =>
          obtain ⟨rfl, rfl⟩ := List.cons.inj hmid
          simp
      rw [hends, hgroup]
      exact .braced
    · cases h
  · split at h
    · rename_i hlength hstart
      obtain ⟨ds, hgroup, hds⟩ := ofGroups?_eq_some_iff.mp h
      refine ⟨ds, ?_, hds⟩
      rw [← List.take_append_drop 9 cs, hgroup]
      exact .named hstart
    · cases h
  · cases h

/-- The texts that are read as an identifier are the spellings of its digits. -/
theorem read?_eq_some_iff :
    read? cs = some u
      ↔ ∃ ds, IsDigits ds ∧ Spelling IsNameStart ds cs ∧ u.digits = ds.map Char.toLower := by
  constructor
  · intro h
    obtain ⟨ds, hspelling, hds⟩ := exists_spelling_of_read? h
    obtain ⟨hdigits, hlower⟩ := ofDigits?_eq_some_iff.mp hds
    exact ⟨ds, hdigits, hspelling, hlower⟩
  · rintro ⟨ds, hdigits, hspelling, hlower⟩
    rw [read?_of_spelling hdigits hspelling, ofDigits?_eq_some_iff]
    exact ⟨hdigits, hlower⟩

/-- No spelling is empty. -/
theorem Spelling.ne_nil (hds : IsDigits ds) (h : Spelling IsStart ds cs) : cs ≠ [] := by
  have hgroup := length_group hds
  rintro rfl
  generalize hnil : ([] : List Char) = cs at h
  have hlength := congrArg List.length hnil
  cases h with
  | plain => simp [hds.length] at hlength
  | grouped | braced | named hstart => simp [hgroup] at hlength

/-- No letter is blank, in whatever case. -/
theorem toLower_of_isBlank {c : Char} (h : isBlank c = true) : c.toLower = c := by
  have hall : ∀ k : Fin 128, isBlank (Char.ofNat k) = true →
      (Char.ofNat k).toLower = Char.ofNat k := by
    decide +kernel
  by_cases hascii : c.toNat < 0x80
  · exact forall_ascii (P := fun c => isBlank c = true → c.toLower = c) hall hascii h
  · refine dif_neg fun hupper => hascii ?_
    exact Nat.lt_of_le_of_lt (show c.toNat ≤ 'Z'.toNat from hupper.2) (by decide)

/-- No character in the start of a name is blank. -/
theorem IsNameStart.not_isBlank {start : List Char} (h : IsNameStart start) :
    ∀ c ∈ start, isBlank c = false := by
  intro c hc
  cases hblank : isBlank c with
  | false => rfl
  | true =>
    have hmem : c.toLower ∈ start.map Char.toLower := List.mem_map_of_mem hc
    rw [toLower_of_isBlank hblank, h] at hmem
    have hnone : nameStart.any isBlank = false := by decide
    exact absurd hblank (List.any_eq_false.mp hnone c hmem)

/-- A spelling has no blanks. -/
theorem Spelling.not_isBlank (hds : IsDigits ds) (h : Spelling IsNameStart ds cs) :
    ∀ c ∈ cs, isBlank c = false := by
  have hdigit : ∀ c ∈ ds, isBlank c = false := by
    intro c hc
    obtain ⟨d, hd⟩ := Option.isSome_iff_exists.mp (hds.digit c hc)
    exact Hex.isBlank_of_value? hd
  -- between the digits there are hyphens only
  have hgroup : ∀ c ∈ group ds, isBlank c = false := by
    intro c hc
    rcases mem_group hc with hc | rfl
    · exact hdigit c hc
    · decide
  intro c hc
  cases h with
  | plain => exact hdigit c hc
  | grouped => exact hgroup c hc
  | braced =>
    rw [List.mem_append, List.mem_cons, List.mem_singleton] at hc
    rcases hc with (rfl | hc) | rfl
    · decide
    · exact hgroup c hc
    · decide
  | named hstart =>
    rcases List.mem_append.mp hc with hc | hc
    · exact hstart.not_isBlank c hc
    · exact hgroup c hc

/-- A text spells an identifier by these digits, blanks around them aside. -/
def Spells (IsStart : List Char → Prop) (ds : List Char) (s : String) : Prop :=
  IsDigits ds ∧ ∃ before core after, s.toList = before ++ core ++ after
    ∧ before.all isBlank = true ∧ after.all isBlank = true ∧ Spelling IsStart ds core

end Spelling

end Uuid

-- ---------------------------------------------------------------------------
-- Message identifiers
-- ---------------------------------------------------------------------------

namespace MessageId

/-- A text that spells an identifier by some digits is read as the identifier whose canonical text
has these digits in lower case. -/
theorem ofText?_of_spells {s : String} {ds : List Char} (h : Uuid.Spells Uuid.IsNameStart ds s) :
    ∃ id : MessageId, ofText? s = some id
      ∧ id.text = String.ofList (Uuid.group (ds.map Char.toLower)) := by
  obtain ⟨hds, before, core, after, htext, hbefore, hafter, hspelling⟩ := h
  obtain ⟨u, hu, hlower⟩ := Uuid.exists_of_isDigits hds
  refine ⟨⟨u⟩, ?_, ?_⟩
  · rw [ofText?, htext, trimBlanks_padded hbefore hafter (hspelling.ne_nil hds)
      (hspelling.not_isBlank hds), Uuid.read?_of_spelling hds hspelling, hu]
    rfl
  · rw [text, Uuid.text, Uuid.chars, hlower]

/-- What is read is such a text. -/
theorem exists_spells_of_ofText? {s : String} {id : MessageId} (h : ofText? s = some id) :
    ∃ ds, Uuid.Spells Uuid.IsNameStart ds s := by
  obtain ⟨u, hread, -⟩ := Option.map_eq_some_iff.mp h
  obtain ⟨ds, hds, hspelling, -⟩ := Uuid.read?_eq_some_iff.mp hread
  obtain ⟨before, after, htext, hbefore, hafter⟩ := exists_padding s.toList
  exact ⟨ds, hds, before, _, after, htext, hbefore, hafter, hspelling⟩

/-- An identifier is read off its canonical text, which no other has. A text is read if and only if
it spells an identifier in one of the forms, blanks around it aside, and then as the one whose
canonical text has the same digits in lower case. What a worker makes of it, and what it does, are
what they are for the canonical text. -/
theorem spellings :
    (∀ id : MessageId, ofText? id.text = some id)
      ∧ (∀ a b : MessageId, a.text = b.text ↔ a = b)
      ∧ (∀ s : String, (ofText? s).isSome = true ↔ ∃ ds, Uuid.Spells Uuid.IsNameStart ds s)
      ∧ (∀ s ds, Uuid.Spells Uuid.IsNameStart ds s → ∀ id : MessageId,
        ofText? s = some id ↔ id.text = String.ofList (Uuid.group (ds.map Char.toLower)))
      ∧ ∀ (s : String) (id : MessageId), ofText? s = some id → ∀ (w : Worker) (world : World),
        (w.process s).run world = (w.process id.text).run world := by
  refine ⟨ofText?_text, fun a b => ⟨text_injective, fun h => h ▸ rfl⟩, fun s => ?_,
    fun s ds hspells id => ?_, fun s id h w world => ?_⟩
  · rw [Option.isSome_iff_exists]
    constructor
    · rintro ⟨id, h⟩
      exact exists_spells_of_ofText? h
    · rintro ⟨ds, hspells⟩
      obtain ⟨id, h, -⟩ := ofText?_of_spells hspells
      exact ⟨id, h⟩
  · obtain ⟨read, hread, htext⟩ := ofText?_of_spells hspells
    rw [hread, Option.some_inj, ← htext]
    exact ⟨fun h => h ▸ rfl, fun h => (text_injective h).symm⟩
  · rw [Worker.process, Worker.process, h, ofText?_text]

/-- An identifier in upper case and in braces, between blanks. -/
def braced : String :=
  " \x7b2F0C1A8E-6A3C-4C3E-9D7A-0B1E5F7C9D11\x7d\u3000"

/-- The braced text spells these digits. -/
theorem spells_braced :
    Uuid.Spells Uuid.IsNameStart "2F0C1A8E6A3C4C3E9D7A0B1E5F7C9D11".toList braced := by
  refine ⟨⟨by decide, List.all_eq_true.mp (by decide)⟩, [' '], _, ['\u3000'], ?_, by decide,
    by decide, .braced⟩
  decide

/-- It is read as the identifier that is written as this text, and dealt with like it. -/
theorem spellings_braced :
    ∃ id : MessageId, ofText? braced = some id ∧ id.text = "2f0c1a8e-6a3c-4c3e-9d7a-0b1e5f7c9d11"
      ∧ ∀ (w : Worker) (world : World),
        (w.process braced).run world = (w.process id.text).run world := by
  obtain ⟨-, -, hiff, hspelled, hprocess⟩ := spellings
  obtain ⟨id, hid⟩ := Option.isSome_iff_exists.mp ((hiff braced).mpr ⟨_, spells_braced⟩)
  have htext := (hspelled braced _ spells_braced id).mp hid
  exact ⟨id, hid, htext.trans (by decide), hprocess braced id hid⟩

/-- An identifier as a name whose start is in upper case. -/
def shouted : String :=
  "URN:UUID:2f0c1a8e-6a3c-4c3e-9d7a-0b1e5f7c9d11"

/-- It is read, though it has none of the forms if names are to start with `urn:uuid:`. -/
theorem shouted_accepted :
    (ofText? shouted).isSome = true
      ∧ ¬ ∃ ds, Uuid.Spells (fun start => start = Uuid.nameStart) ds shouted := by
  refine ⟨by decide +kernel, ?_⟩
  rintro ⟨ds, hds, before, core, after, htext, hbefore, -, hspelling⟩
  obtain ⟨d, digits, rfl⟩ : ∃ d digits, ds = d :: digits :=
    List.exists_cons_of_ne_nil (by rintro rfl; cases hds.length)
  have hd : d ≠ 'U' := by
    rintro rfl
    exact absurd (hds.digit 'U' List.mem_cons_self) (by decide)
  have hfirst : shouted.toList.head? = some 'U' := by decide
  rw [htext] at hfirst
  -- Whichever form it were, it would begin with another character.
  cases before with
  | cons c before =>
    obtain rfl : c = 'U' := Option.some.inj hfirst
    exact absurd (List.all_eq_true.mp hbefore 'U' List.mem_cons_self) (by decide)
  | nil =>
    cases hspelling with
    | plain => exact hd (Option.some.inj hfirst)
    | grouped => exact hd (Option.some.inj hfirst)
    | braced => exact absurd (Option.some.inj hfirst) (by decide)
    | named hstart =>
      subst hstart
      exact absurd (Option.some.inj hfirst) (by decide)

end MessageId

end WebhookDelivery
