import WebhookDelivery.Proofs.IdentifierSpellings
import WebhookDelivery.Proofs.Separators
import WebhookDelivery.Settings.Environment

/-!
# Quoted texts in the environment

The value of a variable may hold texts between quotes. What can stand there is told without the
reader, by characters and escapes, and the reader is shown to take these texts and no others.

One condition is not about the form. Of what stands before the first escape the reader keeps as many
octets as there are characters. Beyond ASCII that is less than all of it, and the cut may be inside
a character. Then there is no result of any kind, which is told apart here from a text that is
faulty.

* `cutsBetween_iff` — where the cut is between two characters.
* `readQuoted_sound`, `readQuoted_complete` — what is read between quotes.
* `readQuoted_cuts_iff` — where a character is to be cut.
-/

namespace WebhookDelivery.Environment

-- ---------------------------------------------------------------------------
-- What stands between quotes
-- ---------------------------------------------------------------------------

/-- A character that stands for itself between quotes. -/
def isLiteral (c : Char) : Bool :=
  Toml.isPlain c && c ≠ '"' && c ≠ '\\'

/-- What follows the backslash of an escape. -/
inductive IsEscape : List Char → Prop where
  | letter {c r : Char} (hread : Toml.escaped? c = some r) : IsEscape [c]
  | short {a b c d r : Char} (hread : Toml.charOfHex? [a, b, c, d] = some r) :
    IsEscape ['u', a, b, c, d]
  | long {a b c d e f g h r : Char} (hread : Toml.charOfHex? [a, b, c, d, e, f, g, h] = some r) :
    IsEscape ['U', a, b, c, d, e, f, g, h]

/-- Characters and escapes. -/
inductive IsText : List Char → Prop where
  | nil : IsText []
  | literal {c : Char} {cs : List Char} (hc : isLiteral c = true) (htext : IsText cs) :
    IsText (c :: cs)
  | escape {e cs : List Char} (he : IsEscape e) (htext : IsText cs) : IsText ('\\' :: (e ++ cs))

variable {c : Char} {cs body rest read : List Char} {s : String}

/-- What is read between quotes is characters and escapes, and no longer than they are. -/
theorem readBasic_sound (h : Toml.readBasic read cs = some (s, rest)) :
    ∃ body, cs = body ++ '"' :: rest ∧ IsText body ∧ s.length ≤ read.length + body.length := by
  -- on the reader: the end, the three escapes, a literal, and two failures
  fun_induction Toml.readBasic read cs with
  | case1 read after =>
    obtain ⟨rfl, rfl⟩ := Prod.mk.inj (Option.some.inj h)
    exact ⟨[], rfl, .nil, by simp [Toml.ofReversed]⟩
  | case2 read a b c d after ih =>
    obtain ⟨r, hread, hrest⟩ := Option.bind_eq_some_iff.mp h
    obtain ⟨body, rfl, htext, hlen⟩ := ih r hrest
    refine ⟨'\\' :: (['u', a, b, c, d] ++ body), rfl, .escape (.short hread) htext, ?_⟩
    simp only [List.length_cons, List.length_append] at hlen ⊢
    omega
  | case3 read a b c d e f g h' after ih =>
    obtain ⟨r, hread, hrest⟩ := Option.bind_eq_some_iff.mp h
    obtain ⟨body, rfl, htext, hlen⟩ := ih r hrest
    refine ⟨'\\' :: (['U', a, b, c, d, e, f, g, h'] ++ body), rfl, .escape (.long hread) htext, ?_⟩
    simp only [List.length_cons, List.length_append] at hlen ⊢
    omega
  | case4 read c after _ _ ih =>
    obtain ⟨r, hread, hrest⟩ := Option.bind_eq_some_iff.mp h
    obtain ⟨body, rfl, htext, hlen⟩ := ih r hrest
    refine ⟨'\\' :: ([c] ++ body), rfl, .escape (.letter hread) htext, ?_⟩
    simp only [List.length_cons, List.length_append] at hlen ⊢
    omega
  | case5 read c after hquote hshort hlong hbackslash hplain ih =>
    obtain ⟨body, rfl, htext, hlen⟩ := ih h
    -- a backslash would have been read as an escape
    have hc : isLiteral c = true := by
      have hne : c ≠ '\\' := by
        cases body with
        | nil => exact fun heq => hbackslash '"' rest heq rfl
        | cons b body => exact fun heq => hbackslash b (body ++ '"' :: rest) heq rfl
      simp [isLiteral, hplain, hne, show c ≠ '"' from hquote]
    refine ⟨c :: body, rfl, .literal hc htext, ?_⟩
    simp only [List.length_cons] at hlen ⊢
    omega
  | case6 => cases h
  | case7 => cases h

/-- A literal is read as itself. -/
theorem readBasic_literal (hc : isLiteral c = true) :
    Toml.readBasic read (c :: cs) = Toml.readBasic (c :: read) cs := by
  simp only [isLiteral, Bool.and_eq_true, decide_eq_true_eq] at hc
  obtain ⟨⟨hplain, hquote⟩, hbackslash⟩ := hc
  rw [Toml.readBasic.eq_def]
  split <;> simp_all

/-- An escape of one letter is read as what it stands for. -/
theorem readBasic_letter {r : Char} (hread : Toml.escaped? c = some r) :
    Toml.readBasic read ('\\' :: c :: cs) = Toml.readBasic (r :: read) cs := by
  have hshort : c ≠ 'u' := by rintro rfl; cases hread
  have hlong : c ≠ 'U' := by rintro rfl; cases hread
  rw [Toml.readBasic, hread]
  · rfl
  · rintro _ _ _ _ _ rfl
    exact absurd rfl hshort
  · rintro _ _ _ _ _ _ _ _ _ rfl
    exact absurd rfl hlong

/-- Characters and escapes can be read between quotes. -/
theorem readBasic_complete (h : IsText body) (read rest : List Char) :
    ∃ s, Toml.readBasic read (body ++ '"' :: rest) = some (s, rest) := by
  -- on the text, while the reader gathers what it has read in reverse
  induction h generalizing read with
  | nil => exact ⟨_, rfl⟩
  | @literal c cs hc htext ih =>
    obtain ⟨s, hs⟩ := ih (c :: read)
    exact ⟨s, (readBasic_literal hc).trans hs⟩
  | @escape e cs he htext ih =>
    cases he with
    | @letter c r hread =>
      obtain ⟨s, hs⟩ := ih (r :: read)
      exact ⟨s, (readBasic_letter hread).trans hs⟩
    | @short a b c d r hread =>
      obtain ⟨s, hs⟩ := ih (r :: read)
      refine ⟨s, ?_⟩
      simp only [List.cons_append, List.nil_append]
      rw [Toml.readBasic, hread]
      exact hs
    | @long a b c d e f g h r hread =>
      obtain ⟨s, hs⟩ := ih (r :: read)
      refine ⟨s, ?_⟩
      simp only [List.cons_append, List.nil_append]
      rw [Toml.readBasic, hread]
      exact hs

-- ---------------------------------------------------------------------------
-- The cut before the first escape
-- ---------------------------------------------------------------------------

/-- How many octets a text takes up. -/
def octets (cs : List Char) : Nat :=
  (utf8 (String.ofList cs)).length

theorem octets_cons (c : Char) (cs : List Char) : octets (c :: cs) = c.utf8Size + octets cs := by
  simp [octets, utf8]

/-- A text has no more characters than octets. -/
theorem length_le_octets (cs : List Char) : cs.length ≤ octets cs := by
  induction cs with
  | nil => exact Nat.zero_le _
  | cons c cs ih =>
    have hpos := c.utf8Size_pos
    rw [octets_cons, List.length_cons]
    omega

/-- Whether a text that is cut to as many octets as it has characters is cut between two of them. -/
def CutsBetween (cs : List Char) : Prop :=
  ∃ kept lost, cs = kept ++ lost ∧ octets kept = cs.length

/-- A text that is cut after the octets of its first part keeps that part. -/
theorem cutAt_octets (kept lost : List Char) : cutAt (octets kept) (kept ++ lost) = some kept := by
  induction kept with
  | nil => exact cutAt.eq_1 lost
  | cons c kept ih =>
    have hpos := c.utf8Size_pos
    rw [octets_cons, List.cons_append]
    obtain ⟨n, hn⟩ : ∃ n, c.utf8Size + octets kept = n + 1 :=
      ⟨c.utf8Size + octets kept - 1, by omega⟩
    rw [hn, cutAt, if_pos (by omega), ← hn, Nat.add_sub_cancel_left, ih]
    rfl

/-- A cut splits a text after so many octets. -/
theorem exists_of_cutAt {n : Nat} {kept : List Char} (h : cutAt n cs = some kept)
    (hn : n ≤ octets cs) : ∃ lost, cs = kept ++ lost ∧ octets kept = n := by
  -- on the characters, which take their octets off the cut
  induction cs generalizing n kept with
  | nil =>
    obtain rfl : n = 0 := Nat.le_zero.mp hn
    cases h
    exact ⟨[], rfl, rfl⟩
  | cons c cs ih =>
    cases n with
    | zero =>
      cases h
      exact ⟨c :: cs, rfl, rfl⟩
    | succ n =>
      rw [cutAt] at h
      split at h
      · rename_i hfits
        obtain ⟨kept, hkept, rfl⟩ := Option.map_eq_some_iff.mp h
        rw [octets_cons] at hn
        obtain ⟨lost, rfl, hoctets⟩ := ih hkept (by omega)
        exact ⟨lost, rfl, by rw [octets_cons, hoctets]; omega⟩
      · cases h

/-- A cut lies between two characters exactly if it can be made. -/
theorem cutsBetween_iff : CutsBetween cs ↔ (cutAt cs.length cs).isSome = true := by
  constructor
  · rintro ⟨kept, lost, rfl, hoctets⟩
    rw [← hoctets, cutAt_octets]
    rfl
  · intro h
    obtain ⟨kept, hkept⟩ := Option.isSome_iff_exists.mp h
    obtain ⟨lost, heq, hoctets⟩ := exists_of_cutAt hkept (length_le_octets cs)
    exact ⟨kept, lost, heq, hoctets⟩

instance (cs : List Char) : Decidable (CutsBetween cs) :=
  decidable_of_iff _ cutsBetween_iff.symm

-- ---------------------------------------------------------------------------
-- Quoted texts
-- ---------------------------------------------------------------------------

/-- What stands between the quotes of a text that can be read: characters and escapes, and if there
is an escape, what stands before the first one is cut between two characters. -/
structure IsQuoted (body : List Char) : Prop where
  text : IsText body
  cuts : '\\' ∈ body → CutsBetween (body.takeWhile isLiteral)

/-- What follows a quote where the reader is to cut a character: the text comes to its end, has an
escape, and what stands before the first one is cut inside a character. -/
def CutsCharacter (cs : List Char) : Prop :=
  closes cs = true ∧ (cs.dropWhile isLiteral).head? = some '\\'
    ∧ ¬ CutsBetween (cs.takeWhile isLiteral)

/-- A literal does not close a text. -/
theorem closes_literal (hc : isLiteral c = true) : closes (c :: cs) = closes cs := by
  simp only [isLiteral, Bool.and_eq_true, decide_eq_true_eq] at hc
  obtain ⟨⟨-, hquote⟩, hbackslash⟩ := hc
  rw [closes.eq_def]
  split <;> simp_all

theorem closes_literals {run : List Char} (h : ∀ c ∈ run, isLiteral c = true) :
    closes (run ++ cs) = closes cs := by
  induction run with
  | nil => rfl
  | cons c run ih =>
    obtain ⟨hc, hrun⟩ := List.forall_mem_cons.mp h
    exact (closes_literal hc).trans (ih hrun)

/-- Hexadecimal digits are literals. -/
theorem isLiteral_of_value? {d : Nat} (h : Hex.value? c = some d) : isLiteral c = true := by
  have hall : ∀ k : Fin 128,
      (Hex.value? (Char.ofNat k)).all (fun _ => isLiteral (Char.ofNat k)) = true := by
    decide +kernel
  have hc := forall_ascii (P := fun c => (Hex.value? c).all (fun _ => isLiteral c) = true)
    hall (Hex.lt_of_value? h)
  simpa [h] using hc

/-- The digits of an escape are such that they could stand for themselves. -/
theorem isLiteral_of_charOfHex? {r : Char} (h : Toml.charOfHex? cs = some r) :
    ∀ c ∈ cs, isLiteral c = true := by
  obtain ⟨n, hn, -⟩ := Option.bind_eq_some_iff.mp h
  intro c hc
  obtain ⟨d, hd⟩ := Option.isSome_iff_exists.mp
    (Hex.isSome_read?_iff.mp (Option.isSome_of_eq_some hn) c hc)
  exact isLiteral_of_value? hd

/-- A text between quotes comes to its end. -/
theorem closes_of_text (h : IsText body) (rest : List Char) :
    closes (body ++ '"' :: rest) = true := by
  induction h with
  | nil => rfl
  | literal hc htext ih => exact (closes_literal hc).trans ih
  | escape he htext ih =>
    cases he with
    | letter hread => exact ih
    | @short a b c d r hread =>
      exact (closes_literals (isLiteral_of_charOfHex? hread)).trans ih
    | @long a b c d e f g h r hread =>
      exact (closes_literals (isLiteral_of_charOfHex? hread)).trans ih

theorem readBasic_literals {run : List Char} (h : ∀ c ∈ run, isLiteral c = true) :
    Toml.readBasic read (run ++ cs) = Toml.readBasic (run.reverse ++ read) cs := by
  induction run generalizing read with
  | nil => rfl
  | cons c run ih =>
    obtain ⟨hc, hrun⟩ := List.forall_mem_cons.mp h
    rw [List.cons_append, readBasic_literal hc, ih hrun]
    simp

section Reader

variable {run after escapes : List Char}

/-- Literals are neither quotes nor backslashes. -/
theorem passes_run (hrun : ∀ c ∈ run, isLiteral c = true) :
    ∀ c ∈ run, (c ≠ '"' && c ≠ '\\' : Bool) = true := by
  intro c hc
  have hliteral := hrun c hc
  simp only [isLiteral, Bool.and_eq_true, decide_eq_true_eq] at hliteral
  simp [hliteral]

/-- The characters up to the first quote or backslash, as the reader takes them. -/
theorem takeWhile_run (after : List Char) (hrun : ∀ c ∈ run, isLiteral c = true)
    (hafter : ∀ c ∈ after.head?, c = '"' ∨ c = '\\') :
    (run ++ after).takeWhile (fun c => c ≠ '"' && c ≠ '\\') = run := by
  refine takeWhile_until (passes_run hrun) fun c hc => ?_
  obtain rfl | rfl := hafter c hc <;> rfl

/-- With an escape in it, a text is cut and read on from there, or it is none. -/
theorem readQuoted_escape (hrun : ∀ c ∈ run, isLiteral c = true) :
    readQuoted (run ++ '\\' :: escapes) =
      if closes (run ++ '\\' :: escapes) = true then
        (cutAt run.length run).elim (.error .cutCharacter) fun kept =>
          orMalformed (Toml.readBasic kept.reverse ('\\' :: escapes))
      else .error .malformed := by
  have htake := takeWhile_run ('\\' :: escapes) hrun (by simp)
  have hplain : run.all Toml.isPlain = true := List.all_eq_true.mpr fun c hc => by
    have hliteral := hrun c hc
    simp only [isLiteral, Bool.and_eq_true] at hliteral
    exact hliteral.1.1
  rw [readQuoted, htake, List.drop_left]
  simp only [hplain, Bool.and_true]
  split
  · cases cutAt run.length run <;> rfl
  · rfl

/-- A faulty character is in the way of the reader. -/
theorem readBasic_of_faulty (hrun : ∀ c ∈ run, isLiteral c = true) (hc : Toml.isPlain c = false)
    (hquote : c ≠ '"') (hbackslash : c ≠ '\\') : Toml.readBasic read (run ++ c :: cs) = none := by
  rw [readBasic_literals hrun, Toml.readBasic.eq_def]
  split <;> simp_all

/-- Without an escape, a text is read as it is. -/
theorem readQuoted_plain (hrun : ∀ c ∈ run, isLiteral c = true)
    (hliteral : ∀ c ∈ after.head?, isLiteral c = false) (hafter : after.head? ≠ some '\\') :
    readQuoted (run ++ after) = orMalformed (Toml.readBasic [] (run ++ after)) := by
  cases after with
  | nil =>
    have htake := takeWhile_run [] hrun (by simp)
    rw [readQuoted, htake, List.drop_left]
  | cons c after =>
    by_cases hquote : c = '"'
    · subst hquote
      have htake := takeWhile_run ('"' :: after) hrun (by simp)
      rw [readQuoted, htake, List.drop_left]
      rfl
    · have hbackslash : c ≠ '\\' := fun heq => hafter (congrArg some heq)
      have hplain : Toml.isPlain c = false := by
        have hc := hliteral c rfl
        simpa [isLiteral, hquote, hbackslash] using hc
      rw [readBasic_of_faulty hrun hplain hquote hbackslash, readQuoted]
      -- the faulty character is among those up to the quote, so both readers refuse it
      have hfaulty : ((run ++ c :: after).takeWhile fun c => c ≠ '"' && c ≠ '\\').all Toml.isPlain
          = false := by
        rw [List.takeWhile_append_of_pos (passes_run hrun),
          List.takeWhile_cons_of_pos (by simp [hquote, hbackslash])]
        simp [hplain]
      split
      · simp only [hfaulty, Bool.and_false]
        rfl
      · rw [readBasic_of_faulty hrun hplain hquote hbackslash]

/-- A literal in front keeps a text a text, and an ill-formed one ill-formed. -/
theorem isText_cons (hc : isLiteral c = true) : IsText (c :: cs) ↔ IsText cs := by
  constructor
  · intro h
    generalize hwhole : c :: cs = whole at h
    cases h with
    | nil => cases hwhole
    | literal _ htext =>
      obtain ⟨rfl, rfl⟩ := List.cons.inj hwhole
      exact htext
    | escape =>
      obtain ⟨rfl, -⟩ := List.cons.inj hwhole
      cases hc
  · exact .literal hc

theorem isText_append (hrun : ∀ c ∈ run, isLiteral c = true) :
    IsText (run ++ cs) ↔ IsText cs := by
  induction run with
  | nil => exact Iff.rfl
  | cons c run ih =>
    obtain ⟨hc, hrest⟩ := List.forall_mem_cons.mp hrun
    rw [List.cons_append, isText_cons hc, ih hrest]

/-- A text between quotes without an escape consists of characters that stand for themselves. -/
theorem IsText.backslash_not_mem (h : IsText body)
    (hafter : (body.dropWhile isLiteral).head? ≠ some '\\') :
    '\\' ∉ body := by
  induction h with
  | nil => exact List.not_mem_nil
  | @literal c cs hc htext ih =>
    rw [List.dropWhile_cons_of_pos hc] at hafter
    rintro (_ | ⟨_, hin⟩)
    · cases hc
    · exact ih hafter hin
  | escape => exact absurd rfl hafter

theorem orMalformed_eq_ok {α : Type} {a : α} {r : Option α} :
    orMalformed r = .ok a ↔ r = some a := by
  cases r <;> simp [orMalformed]

/-- A quoted text that is read has the form of one. -/
theorem readQuoted_sound (h : readQuoted cs = .ok (s, rest)) :
    ∃ body, cs = body ++ '"' :: rest ∧ IsQuoted body ∧ s.length ≤ body.length := by
  obtain ⟨run, after, rfl, hrun, hafter⟩ := exists_until isLiteral cs
  -- literals are passed; then comes an escape, or not
  by_cases hescape : after.head? = some '\\'
  · obtain ⟨escapes, rfl⟩ := List.head?_eq_some_iff.mp hescape
    rw [readQuoted_escape hrun] at h
    split at h
    · cases hcut : cutAt run.length run with
      | none =>
        rw [hcut] at h
        cases h
      | some kept =>
        rw [hcut] at h
        -- the reader goes on with what the cut has kept
        obtain ⟨lost, hlost, -⟩ := exists_of_cutAt hcut (length_le_octets run)
        obtain ⟨body, hbody, htext, hlen⟩ := readBasic_sound (orMalformed_eq_ok.mp h)
        have hstart : ∀ c ∈ body.head?, isLiteral c = false := by
          cases body with
          | nil => simp
          | cons b body =>
            obtain ⟨rfl, -⟩ := List.cons.inj hbody
            simp [isLiteral]
        refine ⟨run ++ body, by rw [hbody, List.append_assoc], ⟨?_, fun _ => ?_⟩, ?_⟩
        · exact (isText_append hrun).mpr htext
        · rw [takeWhile_until hrun hstart, cutsBetween_iff, hcut]
          rfl
        · have hkept := congrArg List.length hlost
          simp only [List.length_append, List.length_reverse] at hkept hlen ⊢
          omega
    · cases h
  · rw [readQuoted_plain hrun hafter hescape] at h
    obtain ⟨body, hbody, htext, hlen⟩ := readBasic_sound (orMalformed_eq_ok.mp h)
    have hplain : (body.dropWhile isLiteral).head? ≠ some '\\' := fun hhead => hescape <| by
      obtain ⟨escapes, hdrop⟩ := List.head?_eq_some_iff.mp hhead
      rw [← dropWhile_until hrun hafter, hbody, List.dropWhile_append, hdrop]
      rfl
    refine ⟨body, hbody, ⟨htext, fun hmem => absurd hmem (htext.backslash_not_mem hplain)⟩, ?_⟩
    simpa using hlen

/-- What has the form of a quoted text is read. -/
theorem readQuoted_complete (h : IsQuoted body) (rest : List Char) :
    ∃ s, readQuoted (body ++ '"' :: rest) = .ok (s, rest) := by
  obtain ⟨run, after, rfl, hrun, hafter⟩ := exists_until isLiteral body
  obtain ⟨htext, hcuts⟩ := h
  cases after with
  | nil =>
    obtain ⟨s, hs⟩ := readBasic_complete htext [] rest
    rw [List.append_nil] at hs ⊢
    exact ⟨s, by rw [readQuoted_plain hrun (by simp [isLiteral]) (by simp), hs]; rfl⟩
  | cons c after =>
    have htail := (isText_append hrun).mp htext
    -- after the literals only an escape can follow
    obtain rfl : c = '\\' := by
      generalize hwhole : c :: after = whole at htail
      cases htail with
      | nil => cases hwhole
      | literal hc =>
        obtain ⟨rfl, -⟩ := List.cons.inj hwhole
        exact absurd hc (by simp [hafter c rfl])
      | escape => exact (List.cons.inj hwhole).1
    rw [takeWhile_until hrun hafter, cutsBetween_iff] at hcuts
    obtain ⟨kept, hkept⟩ := Option.isSome_iff_exists.mp (hcuts (by simp))
    obtain ⟨s, hs⟩ := readBasic_complete htail kept.reverse rest
    have hcloses := closes_of_text htext rest
    rw [List.append_assoc, List.cons_append] at hcloses ⊢
    rw [List.cons_append] at hs
    rw [readQuoted_escape hrun, if_pos hcloses, hkept, Option.elim_some, hs]
    exact ⟨s, rfl⟩

/-- What is malformed has cut no character. -/
theorem orMalformed_ne_cutCharacter {α : Type} (r : Option α) :
    orMalformed r ≠ .error .cutCharacter := by
  cases r <;> simp [orMalformed]

/-- The reader is to cut a character exactly where the text has an escape after such a start. -/
theorem readQuoted_cuts_iff : readQuoted cs = .error .cutCharacter ↔ CutsCharacter cs := by
  obtain ⟨run, after, rfl, hrun, hafter⟩ := exists_until isLiteral cs
  rw [CutsCharacter, takeWhile_until hrun hafter, dropWhile_until hrun hafter, cutsBetween_iff]
  by_cases hescape : after.head? = some '\\'
  · obtain ⟨escapes, rfl⟩ := List.head?_eq_some_iff.mp hescape
    rw [readQuoted_escape hrun]
    cases closes (run ++ '\\' :: escapes) with
    | false => simp
    | true =>
      cases cutAt run.length run with
      | none => simp
      | some kept => simp [orMalformed_ne_cutCharacter]
  · rw [readQuoted_plain hrun hafter hescape]
    simp [hescape, orMalformed_ne_cutCharacter]

end Reader

end WebhookDelivery.Environment
