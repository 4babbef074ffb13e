import WebhookDelivery.Proofs.QuotedValues

/-!
# The values of environment variables

Truth values, quoted texts and characters, lists and records, and words: how they are written is the
relation `Spells`, with one case for each form, and where the reader comes upon a character that it
is to cut is the relation `Breaks`. The reader goes by depth and breadth with an allowance for both.
What it reads is spelled (`sound`) and where it gives up there is such a character (`faults`), by
induction on the allowance; what is spelled it reads (`complete`) and at such a character it gives
up (`broken`), by induction on the relations.

Words are what is left, and not all of them are texts: what a word means is not told here.

* `sound`, `faults` — what comes of reading.
* `complete`, `broken` — what reading comes to.
-/

namespace WebhookDelivery.Environment

-- ---------------------------------------------------------------------------
-- Blanks
-- ---------------------------------------------------------------------------

/-- A blank that may stand around a value. -/
def isGap (c : Char) : Bool :=
  c = ' ' || c = '\t' || c = '\n' || c = '\x0c' || c = '\r'

/-- A text of such blanks. -/
def AreGaps (cs : List Char) : Prop :=
  ∀ c ∈ cs, isGap c = true

/-- A text that does not begin with one. -/
def NoGap (cs : List Char) : Prop :=
  ∀ c ∈ cs.head?, isGap c = false

variable {cs text gaps rest : List Char}

theorem skipBlanks_append (h : AreGaps gaps) : skipBlanks (gaps ++ cs) = skipBlanks cs :=
  List.dropWhile_append_of_pos h

theorem skipBlanks_noGap (h : NoGap cs) : skipBlanks cs = cs :=
  dropWhile_none h

/-- Every text is some blanks and what follows them. -/
theorem exists_gaps (cs : List Char) :
    ∃ gaps, cs = gaps ++ skipBlanks cs ∧ AreGaps gaps ∧ NoGap (skipBlanks cs) := by
  obtain ⟨gaps, after, rfl, hgaps, hafter⟩ := exists_until isGap cs
  rw [skipBlanks_append hgaps, skipBlanks_noGap hafter]
  exact ⟨gaps, rfl, hgaps, hafter⟩

-- ---------------------------------------------------------------------------
-- The forms of values
-- ---------------------------------------------------------------------------

/-- A name in a record: between quotes, or a row of characters that need none. -/
inductive IsName : List Char → Prop where
  | quoted {body : List Char} (hbody : IsQuoted body) : IsName ('"' :: (body ++ ['"']))
  | bare {name : List Char} (hne : name ≠ []) (hname : ∀ c ∈ name, isNameChar c = true) :
    IsName name

/-- How values begin that are no words. -/
def marks : List (List Char) :=
  [['t', 'r', 'u', 'e'], ['f', 'a', 'l', 's', 'e'], ['\x7b'], ['['], ['"'], ['\'']]

/-- Whether a text begins like a value that is no word. -/
def isMarked (cs : List Char) : Bool :=
  marks.any (·.isPrefixOf cs)

/-- A part of the text of a value. -/
inductive Part where
  /-- A value that its beginning marks as such. -/
  | marked
  /-- A value with blanks around it. -/
  | item
  /-- What stands between the brackets of a list. -/
  | items
  /-- A name and a value. -/
  | member
  /-- What stands between the braces of a record. -/
  | members

/-- How values are written. Of a list and of a record, the last comma may be followed by nothing. -/
inductive Spells : Part → List Char → Prop where
  | yes : Spells .marked ['t', 'r', 'u', 'e']
  | no : Spells .marked ['f', 'a', 'l', 's', 'e']
  | quoted {body : List Char} (hbody : IsQuoted body) : Spells .marked ('"' :: (body ++ ['"']))
  | character (c : Char) : Spells .marked ['\'', c, '\'']
  | list {cs : List Char} (hitems : Spells .items cs) : Spells .marked ('[' :: (cs ++ [']']))
  | record {cs : List Char} (hmembers : Spells .members cs) :
    Spells .marked ('\x7b' :: (cs ++ ['\x7d']))
  | word {cs : List Char} (hword : ∀ c ∈ cs, isWordChar c = true)
    (hplain : isMarked (skipBlanks cs) = false) : Spells .item cs
  | value {before cs after : List Char} (hbefore : AreGaps before) (hmarked : Spells .marked cs)
    (hafter : AreGaps after) : Spells .item (before ++ (cs ++ after))
  | lastItem {cs : List Char} (hitem : Spells .item cs) : Spells .items cs
  | moreItems {cs rest : List Char} (hitem : Spells .item cs) (hitems : Spells .items rest) :
    Spells .items (cs ++ ',' :: rest)
  | pair {before name after cs : List Char} (hbefore : AreGaps before) (hname : IsName name)
    (hafter : AreGaps after) (hitem : Spells .item cs) :
    Spells .member (before ++ (name ++ (after ++ '=' :: cs)))
  | noMember : Spells .members []
  | lastMember {cs : List Char} (hmember : Spells .member cs) : Spells .members cs
  | moreMembers {cs rest : List Char} (hmember : Spells .member cs)
    (hmembers : Spells .members rest) : Spells .members (cs ++ ',' :: rest)

/-- Texts in which the reader comes upon a quoted text where it is to cut a character, whatever
follows. -/
inductive Breaks : Part → List Char → Prop where
  | quoted {gaps cs : List Char} (hgaps : AreGaps gaps) (hcut : CutsCharacter cs) :
    Breaks .item (gaps ++ '"' :: cs)
  | list {gaps cs : List Char} (hgaps : AreGaps gaps) (hitems : Breaks .items cs) :
    Breaks .item (gaps ++ '[' :: cs)
  | record {gaps cs : List Char} (hgaps : AreGaps gaps) (hmembers : Breaks .members cs) :
    Breaks .item (gaps ++ '\x7b' :: cs)
  | firstItem {cs : List Char} (hitem : Breaks .item cs) : Breaks .items cs
  | laterItem {cs rest : List Char} (hitem : Spells .item cs) (hitems : Breaks .items rest) :
    Breaks .items (cs ++ ',' :: rest)
  | name {gaps cs : List Char} (hgaps : AreGaps gaps) (hcut : CutsCharacter cs) :
    Breaks .members (gaps ++ '"' :: cs)
  | firstMember {before name after cs : List Char} (hbefore : AreGaps before) (hname : IsName name)
    (hafter : AreGaps after) (hitem : Breaks .item cs) :
    Breaks .members (before ++ (name ++ (after ++ '=' :: cs)))
  | laterMember {cs rest : List Char} (hmember : Spells .member cs)
    (hmembers : Breaks .members rest) : Breaks .members (cs ++ ',' :: rest)

-- ---------------------------------------------------------------------------
-- What is read has one of the forms
-- ---------------------------------------------------------------------------

variable {fuel : Nat} {read : List Json} {v : Json} {name : String}

/-- What is read as a name has the form of one. -/
theorem readName_sound (h : readName cs = .ok (name, rest)) :
    ∃ text, cs = text ++ rest ∧ IsName text := by
  rw [readName.eq_def] at h
  split at h
  · rename_i cs
    obtain ⟨body, rfl, hbody, -⟩ := readQuoted_sound h
    exact ⟨'"' :: (body ++ ['"']), by simp, .quoted hbody⟩
  · obtain ⟨run, after, hcs, hrun, hafter⟩ := exists_until isNameChar cs
    rw [hcs, takeWhile_until hrun hafter, dropWhile_until hrun hafter] at h
    dsimp only at h
    split at h
    · cases h
    · rename_i hne
      obtain ⟨-, rfl⟩ := Prod.mk.inj (Except.ok.inj h)
      exact ⟨run, hcs, .bare (by simpa using hne) hrun⟩

/-- Reading a name is to cut a character only where a quoted text is. -/
theorem readName_cuts_iff :
    readName cs = .error .cutCharacter ↔ ∃ rest, cs = '"' :: rest ∧ CutsCharacter rest := by
  rw [readName.eq_def]
  split
  · rename_i cs
    simp [readQuoted_cuts_iff]
  · rename_i hquote
    constructor
    · intro h
      dsimp only at h
      split at h <;> cases h
    · rintro ⟨rest, rfl, -⟩
      exact absurd rfl (hquote rest)

/-- Reading of a value, a list or a record, with so much fuel, takes only what has the form of
one. -/
structure Sound (fuel : Nat) : Prop where
  value : ∀ {cs rest v}, readValue fuel cs = .ok (v, rest) →
    ∃ text, cs = text ++ rest ∧ Spells .item text ∧ NoGap rest
  items : ∀ {read cs rest v}, readItems fuel read cs = .ok (v, rest) →
    ∃ text gaps, cs = text ++ ']' :: (gaps ++ rest) ∧ Spells .items text ∧ AreGaps gaps ∧ NoGap rest
  members : ∀ {read cs rest v}, readMembers fuel read cs = .ok (v, rest) →
    ∃ text gaps, cs = text ++ '\x7d' :: (gaps ++ rest) ∧ Spells .members text ∧ AreGaps gaps
      ∧ NoGap rest

/-- A marked value between blanks. -/
theorem exists_item {tail : List Char} (hcs : skipBlanks cs = text ++ tail)
    (htext : Spells .marked text) :
    ∃ whole, cs = whole ++ skipBlanks tail ∧ Spells .item whole ∧ NoGap (skipBlanks tail) := by
  obtain ⟨before, hbefore, hgaps, -⟩ := exists_gaps cs
  obtain ⟨after, hafter, hgaps', hno⟩ := exists_gaps tail
  refine ⟨before ++ (text ++ after), ?_, .value hgaps htext hgaps', hno⟩
  rw [List.append_assoc, List.append_assoc, ← hafter, ← hcs, ← hbefore]

theorem isWordChar_of_isGap {c : Char} (h : isGap c = true) : isWordChar c = true := by
  simp only [isGap, Bool.or_eq_true, decide_eq_true_eq] at h
  obtain (((rfl | rfl) | rfl) | rfl) | rfl := h <;> rfl

/-- What ends a word is not blank. -/
theorem noGap_of_not_word (h : ∀ c ∈ rest.head?, isWordChar c = false) : NoGap rest := by
  intro c hc
  cases hgap : isGap c with
  | false => rfl
  | true => rw [← h c hc, isWordChar_of_isGap hgap]

theorem isMarked_iff : isMarked cs = true ↔ ∃ mark ∈ marks, mark <+: cs := by
  simp only [isMarked, List.any_eq_true, List.isPrefixOf_iff_prefix]

theorem isMarked_append (h : isMarked cs = true) : isMarked (cs ++ rest) = true := by
  obtain ⟨mark, hmark, hbegins⟩ := isMarked_iff.mp h
  exact isMarked_iff.mpr ⟨mark, hmark, hbegins.trans (List.prefix_append cs rest)⟩

/-- A word and the blanks before it. -/
theorem exists_word (hplain : isMarked (skipBlanks cs) = false) :
    ∃ text, cs = text ++ (skipBlanks cs).dropWhile isWordChar ∧ Spells .item text
      ∧ NoGap ((skipBlanks cs).dropWhile isWordChar) := by
  obtain ⟨gaps, hgaps, hare, hno⟩ := exists_gaps cs
  obtain ⟨word, after, hword, hchars, hafter⟩ := exists_until isWordChar (skipBlanks cs)
  rw [hword] at hplain hno hgaps ⊢
  rw [dropWhile_until hchars hafter]
  refine ⟨gaps ++ word, by rw [List.append_assoc, ← hgaps], .word ?_ ?_, noGap_of_not_word hafter⟩
  · intro c hc
    exact (List.mem_append.mp hc).elim (fun hc => isWordChar_of_isGap (hare c hc)) (hchars c)
  · -- the word itself does not begin with a blank, as those were passed
    have hstart : NoGap word := fun c hc => hno c (by
      rw [List.head?_append, Option.mem_def.mp hc]
      rfl)
    rw [skipBlanks_append hare, skipBlanks_noGap hstart]
    cases hmarked : isMarked word with
    | false => rfl
    | true => rw [← hplain, isMarked_append hmarked]

/-- A result that was changed comes of a result. -/
theorem exists_of_map {ε α β : Type} {f : α → β} {r : Except ε α} {b : β}
    (h : r.map f = .ok b) : ∃ a, r = .ok a ∧ f a = b := by
  cases r with
  | error e => cases h
  | ok a => exact ⟨a, rfl, Except.ok.inj h⟩

/-- Reading of values is sound with more fuel. -/
theorem Sound.step_value (ih : Sound fuel) (h : readValue (fuel + 1) cs = .ok (v, rest)) :
    ∃ text, cs = text ++ rest ∧ Spells .item text ∧ NoGap rest := by
  rw [readValue] at h
  split at h
  · rename_i after hcs
    obtain ⟨-, rfl⟩ := Prod.mk.inj (Except.ok.inj h)
    exact exists_item hcs .yes
  · rename_i after hcs
    obtain ⟨-, rfl⟩ := Prod.mk.inj (Except.ok.inj h)
    exact exists_item hcs .no
  · rename_i after hcs
    obtain ⟨text, gaps, rfl, htext, hgaps, hno⟩ := ih.members h
    have hmarked : skipBlanks cs = '\x7b' :: (text ++ ['\x7d']) ++ (gaps ++ rest) := by simp [hcs]
    have hitem := exists_item hmarked (.record htext)
    rwa [skipBlanks_append hgaps, skipBlanks_noGap hno] at hitem
  · rename_i after hcs
    obtain ⟨text, gaps, rfl, htext, hgaps, hno⟩ := ih.items h
    have hmarked : skipBlanks cs = '[' :: (text ++ [']']) ++ (gaps ++ rest) := by simp [hcs]
    have hitem := exists_item hmarked (.list htext)
    rwa [skipBlanks_append hgaps, skipBlanks_noGap hno] at hitem
  · rename_i after hcs
    obtain ⟨⟨s, tail⟩, hread, h⟩ := exists_of_map h
    obtain ⟨-, rfl⟩ := Prod.mk.inj h
    obtain ⟨body, rfl, hbody, -⟩ := readQuoted_sound hread
    have hmarked : skipBlanks cs = '"' :: (body ++ ['"']) ++ tail := by simp [hcs]
    exact exists_item hmarked (.quoted hbody)
  · rename_i c after hcs
    obtain ⟨-, rfl⟩ := Prod.mk.inj (Except.ok.inj h)
    exact exists_item hcs (.character c)
  · cases h
  · rename_i htrue hfalse hrecord hlist hquote hchar hapostrophe
    obtain ⟨-, rfl⟩ := Prod.mk.inj (Except.ok.inj h)
    -- none of the marks was there, or another branch would have been taken
    have hplain : isMarked (skipBlanks cs) = false := by
      cases hmarked : isMarked (skipBlanks cs) with
      | false => rfl
      | true =>
        obtain ⟨mark, hmark, after, hcs⟩ := isMarked_iff.mp hmarked
        simp only [marks, List.mem_cons, List.not_mem_nil, or_false] at hmark
        obtain rfl | rfl | rfl | rfl | rfl | rfl := hmark
        · exact absurd hcs.symm (htrue after)
        · exact absurd hcs.symm (hfalse after)
        · exact absurd hcs.symm (hrecord after)
        · exact absurd hcs.symm (hlist after)
        · exact absurd hcs.symm (hquote after)
        · exact absurd hcs.symm (hapostrophe after)
    exact exists_word hplain

/-- A result of two steps comes of a result of the first. -/
theorem exists_of_bind {ε α β : Type} {f : α → Except ε β} {r : Except ε α} {b : β}
    (h : r >>= f = .ok b) : ∃ a, r = .ok a ∧ f a = .ok b := by
  cases r with
  | error e => cases h
  | ok a => exact ⟨a, rfl, h⟩

/-- Reading of lists is sound with more fuel. -/
theorem Sound.step_items (ih : Sound fuel) (h : readItems (fuel + 1) read cs = .ok (v, rest)) :
    ∃ text gaps, cs = text ++ ']' :: (gaps ++ rest) ∧ Spells .items text ∧ AreGaps gaps
      ∧ NoGap rest := by
  rw [readItems.eq_def] at h
  dsimp only at h
  split at h
  · rename_i after
    obtain ⟨-, rfl⟩ := Prod.mk.inj (Except.ok.inj h)
    obtain ⟨gaps, hgaps, hare, hno⟩ := exists_gaps after
    exact ⟨[], gaps, by rw [← hgaps]; rfl, .lastItem (.word (by simp) rfl), hare, hno⟩
  · -- an item, and then a comma or the closing bracket
    obtain ⟨⟨item, after⟩, hitem, hgo⟩ := exists_of_bind h
    obtain ⟨text, rfl, htext, -⟩ := ih.value hitem
    dsimp only at hgo
    split at hgo
    · rename_i after
      obtain ⟨more, gaps, rfl, hmore, hare, hno⟩ := ih.items hgo
      exact ⟨text ++ ',' :: more, gaps, by simp, .moreItems htext hmore, hare, hno⟩
    · rename_i after _
      obtain ⟨-, rfl⟩ := Prod.mk.inj (Except.ok.inj hgo)
      obtain ⟨gaps, hgaps, hare, hno⟩ := exists_gaps after
      exact ⟨text, gaps, by rw [← hgaps], .lastItem htext, hare, hno⟩
    · cases hgo

/-- Reading of records is sound with more fuel. -/
theorem Sound.step_members (ih : Sound fuel)
    {read : List (String × Json)} (h : readMembers (fuel + 1) read cs = .ok (v, rest)) :
    ∃ text gaps, cs = text ++ '\x7d' :: (gaps ++ rest) ∧ Spells .members text ∧ AreGaps gaps
      ∧ NoGap rest := by
  rw [readMembers.eq_def] at h
  dsimp only at h
  split at h
  · rename_i after
    obtain ⟨-, rfl⟩ := Prod.mk.inj (Except.ok.inj h)
    obtain ⟨gaps, hgaps, hare, hno⟩ := exists_gaps after
    exact ⟨[], gaps, by rw [← hgaps]; rfl, .noMember, hare, hno⟩
  · obtain ⟨⟨name, tail⟩, hname, hvalue⟩ := exists_of_bind h
    obtain ⟨word, hcs, hword⟩ := readName_sound hname
    dsimp only at hvalue
    split at hvalue
    · rename_i value htail
      obtain ⟨⟨item, after⟩, hitem, hgo⟩ := exists_of_bind hvalue
      obtain ⟨text, rfl, htext, hno⟩ := ih.value hitem
      -- the name, the equals sign and the value, with their blanks
      have hmember : ∃ member, cs = member ++ after ∧ Spells .member member := by
        obtain ⟨before, hbefore, hare, -⟩ := exists_gaps cs
        obtain ⟨between, hbetween, hare', -⟩ := exists_gaps tail
        refine ⟨_, ?_, .pair hare hword hare' htext⟩
        rw [hbefore, hcs, hbetween, htail]
        simp
      obtain ⟨member, rfl, hmember⟩ := hmember
      dsimp only at hgo
      rw [skipBlanks_noGap hno] at hgo
      split at hgo
      · rename_i after
        obtain ⟨more, gaps, rfl, hmore, hare, hno⟩ := ih.members hgo
        exact ⟨member ++ ',' :: more, gaps, by simp, .moreMembers hmember hmore, hare, hno⟩
      · rename_i after _
        obtain ⟨-, rfl⟩ := Prod.mk.inj (Except.ok.inj hgo)
        obtain ⟨gaps, hgaps, hare, hno⟩ := exists_gaps after
        exact ⟨member, gaps, by rw [← hgaps], .lastMember hmember, hare, hno⟩
      · cases hgo
    · cases hvalue

/-- Whatever is read has the form of a value, a list or a record. -/
theorem sound (fuel : Nat) : Sound fuel := by
  induction fuel with
  | zero =>
    constructor
    · intro cs rest v h
      rw [readValue] at h
      cases h
    · intro read cs rest v h
      rw [readItems] at h
      cases h
    · intro read cs rest v h
      rw [readMembers] at h
      cases h
  | succ fuel ih => exact ⟨ih.step_value, ih.step_items, ih.step_members⟩

/-- Where reading is to cut a character, with so much fuel, the text is such that it has to. -/
structure Faults (fuel : Nat) : Prop where
  value : ∀ {cs}, readValue fuel cs = .error .cutCharacter → Breaks .item cs
  items : ∀ {read cs}, readItems fuel read cs = .error .cutCharacter → Breaks .items cs
  members : ∀ {read cs}, readMembers fuel read cs = .error .cutCharacter → Breaks .members cs

/-- Changing a result does not change an error. -/
theorem error_of_map {ε α β : Type} {f : α → β} {r : Except ε α} {e : ε}
    (h : r.map f = .error e) : r = .error e := by
  cases r with
  | error e' => exact congrArg _ (Except.error.inj h)
  | ok a => cases h

/-- An error of two steps is one of the first or of the second. -/
theorem error_of_bind {ε α β : Type} {f : α → Except ε β} {r : Except ε α} {e : ε}
    (h : r >>= f = .error e) : r = .error e ∨ ∃ a, r = .ok a ∧ f a = .error e := by
  cases r with
  | error e' => exact .inl (congrArg _ (Except.error.inj h))
  | ok a => exact .inr ⟨a, rfl, h⟩

/-- With more fuel reading of values cuts a character only where it has to. -/
theorem Faults.step_value (ih : Faults fuel) (h : readValue (fuel + 1) cs = .error .cutCharacter) :
    Breaks .item cs := by
  obtain ⟨gaps, hgaps, hare, -⟩ := exists_gaps cs
  rw [readValue] at h
  split at h
  · cases h
  · cases h
  · rename_i after hcs
    rw [hgaps, hcs]
    exact .record hare (ih.members h)
  · rename_i after hcs
    rw [hgaps, hcs]
    exact .list hare (ih.items h)
  · rename_i after hcs
    rw [hgaps, hcs]
    exact .quoted hare (readQuoted_cuts_iff.mp (error_of_map h))
  · cases h
  · cases h
  · cases h

/-- With more fuel reading of lists cuts a character only where it has to. -/
theorem Faults.step_items (ih : Faults fuel)
    (h : readItems (fuel + 1) read cs = .error .cutCharacter) : Breaks .items cs := by
  rw [readItems.eq_def] at h
  dsimp only at h
  split at h
  · cases h
  · obtain hitem | ⟨⟨item, after⟩, hitem, hgo⟩ := error_of_bind h
    · exact .firstItem (ih.value hitem)
    · obtain ⟨text, rfl, htext, -⟩ := (sound fuel).value hitem
      dsimp only at hgo
      split at hgo
      · exact .laterItem htext (ih.items hgo)
      · cases hgo
      · cases hgo

/-- With more fuel reading of records cuts a character only where it has to. -/
theorem Faults.step_members (ih : Faults fuel) {read : List (String × Json)}
    (h : readMembers (fuel + 1) read cs = .error .cutCharacter) : Breaks .members cs := by
  rw [readMembers.eq_def] at h
  dsimp only at h
  split at h
  · cases h
  · obtain ⟨before, hbefore, hare, -⟩ := exists_gaps cs
    -- the name is to be cut, the value, or a later member
    obtain hname | ⟨⟨name, tail⟩, hname, hvalue⟩ := error_of_bind h
    · obtain ⟨after, hcs, hcut⟩ := readName_cuts_iff.mp hname
      rw [hbefore, hcs]
      exact .name hare hcut
    · obtain ⟨word, hcs, hword⟩ := readName_sound hname
      obtain ⟨between, hbetween, hare', -⟩ := exists_gaps tail
      dsimp only at hvalue
      split at hvalue
      · rename_i value htail
        have htext : cs = before ++ (word ++ (between ++ '=' :: value)) := by
          rw [hbefore, hcs, hbetween, htail]
        obtain hitem | ⟨⟨item, after⟩, hitem, hgo⟩ := error_of_bind hvalue
        · rw [htext]
          exact .firstMember hare hword hare' (ih.value hitem)
        · obtain ⟨text, rfl, hspells, hno⟩ := (sound fuel).value hitem
          have hmember : cs = before ++ (word ++ (between ++ '=' :: text)) ++ after := by
            rw [htext]
            simp
          rw [hmember]
          dsimp only at hgo
          rw [skipBlanks_noGap hno] at hgo
          split at hgo
          · exact .laterMember (.pair hare hword hare' hspells) (ih.members hgo)
          · cases hgo
          · cases hgo
      · cases hvalue

/-- Reading cuts a character only where it has to. -/
theorem faults (fuel : Nat) : Faults fuel := by
  induction fuel with
  | zero =>
    constructor
    · intro cs h
      rw [readValue] at h
      cases h
    · intro read cs h
      rw [readItems] at h
      cases h
    · intro read cs h
      rw [readMembers] at h
      cases h
  | succ fuel ih => exact ⟨ih.step_value, ih.step_items, ih.step_members⟩

-- ---------------------------------------------------------------------------
-- What has one of the forms is read
-- ---------------------------------------------------------------------------

/-- What may follow a value inside a list or a record. -/
def isStop (c : Char) : Bool :=
  c = ',' || c = ']' || c = '\x7d'

/-- Such a character follows, or nothing. -/
def Stops (rest : List Char) : Prop :=
  ∀ c ∈ rest.head?, isStop c = true

theorem not_isWordChar_of_isStop {c : Char} (h : isStop c = true) : isWordChar c = false := by
  simp only [isStop, Bool.or_eq_true, decide_eq_true_eq] at h
  obtain (rfl | rfl) | rfl := h <;> rfl

theorem Stops.not_word (h : Stops rest) : ∀ c ∈ rest.head?, isWordChar c = false :=
  fun c hc => not_isWordChar_of_isStop (h c hc)

theorem Stops.noGap (h : Stops rest) : NoGap rest :=
  noGap_of_not_word h.not_word

/-- What stops a value does not make its beginning another one. -/
theorem isMarked_of_append (hrest : Stops rest) (h : isMarked (cs ++ rest) = true) :
    isMarked cs = true := by
  obtain ⟨mark, hmark, after, heq⟩ := isMarked_iff.mp h
  refine isMarked_iff.mpr ⟨mark, hmark, ?_⟩
  obtain ⟨more, hcs, -⟩ | ⟨more, hcut, hmore⟩ := List.append_eq_append_iff.mp heq
  · exact ⟨more, hcs.symm⟩
  · cases more with
    | nil => exact ⟨[], by rw [hcut]; simp⟩
    | cons c more =>
      have hstop : isStop c = true := hrest c (by rw [hmore]; rfl)
      have hmem : c ∈ mark := by rw [hcut]; simp
      have hmarks : ∀ mark ∈ marks, mark.all (!isStop ·) = true := by decide
      have hgo := List.all_eq_true.mp (hmarks mark hmark) c hmem
      rw [hstop] at hgo
      cases hgo

theorem readValue_gaps (h : AreGaps gaps) : readValue fuel (gaps ++ cs) = readValue fuel cs := by
  cases fuel with
  | zero => rw [readValue, readValue]
  | succ fuel => rw [readValue, readValue, skipBlanks_append h]

/-- A text without a mark is read as a word. -/
theorem readValue_word (h : isMarked (skipBlanks cs) = false) :
    readValue (fuel + 1) cs = .ok (ofWord (trimBlanks ((skipBlanks cs).takeWhile isWordChar)),
      (skipBlanks cs).dropWhile isWordChar) := by
  rw [readValue]
  split
  case h_8 => rfl
  all_goals
    rename_i hcs
    rw [hcs] at h
    cases h

theorem isMarked_of_spells (h : Spells .marked cs) : isMarked cs = true := by
  cases h <;> rfl

/-- A text that begins like a value that is no word does not begin with a blank. -/
theorem noGap_of_isMarked (h : isMarked cs = true) : NoGap cs := by
  obtain ⟨mark, hmark, after, rfl⟩ := isMarked_iff.mp h
  simp only [marks, List.mem_cons, List.not_mem_nil, or_false] at hmark
  obtain rfl | rfl | rfl | rfl | rfl | rfl := hmark <;> rintro c ⟨⟩ <;> rfl

/-- A name is read if no character of a name follows. -/
theorem readName_complete {name : List Char} (h : IsName name)
    (hrest : ∀ c ∈ rest.head?, isNameChar c = false) :
    ∃ s, readName (name ++ rest) = .ok (s, rest) := by
  cases h with
  | @quoted body hbody =>
    obtain ⟨s, hs⟩ := readQuoted_complete hbody rest
    exact ⟨s, by simpa [readName] using hs⟩
  | bare hne hname =>
    cases name with
    | nil => exact absurd rfl hne
    | cons c name =>
      -- a name that needs no quotes does not begin with one
      have hquote : ∀ tail, c :: name ++ rest ≠ '"' :: tail := by
        intro tail heq
        obtain ⟨rfl, -⟩ := List.cons.inj heq
        exact absurd (hname _ List.mem_cons_self) (by decide)
      rw [readName]
      · rw [takeWhile_until hname hrest, dropWhile_until hname hrest]
        exact ⟨_, rfl⟩
      · exact hquote

/-- Reading takes what has a form, whatever follows, and leaves what follows. What is marked is
never read as a text that is as long as it. -/
def IsRead : Part → List Char → Prop
  | .marked, cs => ∀ fuel rest, 2 * cs.length ≤ fuel →
      ∃ v, readValue (fuel + 1) (cs ++ rest) = .ok (v, skipBlanks rest)
        ∧ ∀ s, v = .str s → s.length < cs.length
  | .item, cs => ∀ fuel rest, Stops rest → 2 * cs.length ≤ fuel →
      ∃ v, readValue (fuel + 1) (cs ++ rest) = .ok (v, rest)
  | .items, cs => ∀ fuel read rest, 2 * cs.length + 1 ≤ fuel →
      ∃ vs, readItems (fuel + 1) read (cs ++ ']' :: rest) = .ok (.arr vs, skipBlanks rest)
  | .member, cs => ∀ fuel rest, Stops rest → 2 * cs.length ≤ fuel →
      ∃ name tail value v, readName (skipBlanks (cs ++ rest)) = .ok (name, tail)
        ∧ skipBlanks tail = '=' :: value ∧ readValue (fuel + 1) value = .ok (v, rest)
  | .members, cs => ∀ fuel read rest, 2 * cs.length + 1 ≤ fuel →
      ∃ ms, readMembers (fuel + 1) read (cs ++ '\x7d' :: rest) = .ok (.obj ms, skipBlanks rest)

/-- A truth value is read. -/
theorem IsRead.yes : IsRead .marked ['t', 'r', 'u', 'e'] := by
  intro fuel rest _
  refine ⟨.bool true, ?_, by simp⟩
  rw [readValue, skipBlanks_noGap (noGap_of_isMarked rfl)]
  rfl

/-- The other one is read as well. -/
theorem IsRead.no : IsRead .marked ['f', 'a', 'l', 's', 'e'] := by
  intro fuel rest _
  refine ⟨.bool false, ?_, by simp⟩
  rw [readValue, skipBlanks_noGap (noGap_of_isMarked rfl)]
  rfl

/-- A character between single quotes is read. -/
theorem IsRead.character (c : Char) : IsRead .marked ['\'', c, '\''] := by
  intro fuel rest _
  refine ⟨.str (.singleton c), ?_, by simp⟩
  rw [readValue, skipBlanks_noGap (noGap_of_isMarked rfl)]
  rfl

/-- A quoted text is read. -/
theorem IsRead.quoted {body : List Char} (hbody : IsQuoted body) :
    IsRead .marked ('"' :: (body ++ ['"'])) := by
  intro fuel rest _
  obtain ⟨s, hs⟩ := readQuoted_complete hbody rest
  refine ⟨.str s, ?_, fun s' heq => ?_⟩
  · rw [readValue, skipBlanks_noGap (noGap_of_isMarked rfl)]
    simp only [List.cons_append, List.append_assoc, List.nil_append]
    rw [hs]
    rfl
  · obtain rfl := Json.str.inj heq
    obtain ⟨body', heq, -, hlen⟩ := readQuoted_sound hs
    have hbodies := congrArg List.length heq
    simp only [List.length_append, List.length_cons] at hbodies
    simp only [List.length_cons, List.length_append, List.length_nil]
    omega

/-- A list is read if its items are. -/
theorem IsRead.list (ih : IsRead .items cs) : IsRead .marked ('[' :: (cs ++ [']'])) := by
  intro fuel rest hfuel
  simp only [List.length_cons, List.length_append, List.length_nil] at hfuel
  obtain ⟨fuel, rfl⟩ : ∃ n, fuel = n + 1 := ⟨fuel - 1, by omega⟩
  obtain ⟨vs, hvs⟩ := ih fuel [] rest (by omega)
  refine ⟨.arr vs, ?_, by simp⟩
  rw [readValue, skipBlanks_noGap (noGap_of_isMarked rfl)]
  simpa using hvs

/-- A record is read if its members are. -/
theorem IsRead.record (ih : IsRead .members cs) :
    IsRead .marked ('\x7b' :: (cs ++ ['\x7d'])) := by
  intro fuel rest hfuel
  simp only [List.length_cons, List.length_append, List.length_nil] at hfuel
  obtain ⟨fuel, rfl⟩ : ∃ n, fuel = n + 1 := ⟨fuel - 1, by omega⟩
  obtain ⟨ms, hms⟩ := ih fuel [] rest (by omega)
  refine ⟨.obj ms, ?_, by simp⟩
  rw [readValue, skipBlanks_noGap (noGap_of_isMarked rfl)]
  simpa using hms

/-- Skipping blanks stops at the latest where none follow. -/
theorem skipBlanks_append_noGap (cs : List Char) (h : NoGap rest) :
    skipBlanks (cs ++ rest) = skipBlanks cs ++ rest := by
  change (cs ++ rest).dropWhile isGap = cs.dropWhile isGap ++ rest
  rw [List.dropWhile_append]
  split
  · rename_i hempty
    rw [List.isEmpty_iff.mp hempty, dropWhile_none h, List.nil_append]
  · rfl

/-- A word is read. -/
theorem IsRead.word (hword : ∀ c ∈ cs, isWordChar c = true)
    (hplain : isMarked (skipBlanks cs) = false) : IsRead .item cs := by
  intro fuel rest hrest _
  have hskip := skipBlanks_append_noGap cs hrest.noGap
  have hplain' : isMarked (skipBlanks (cs ++ rest)) = false := by
    rw [hskip]
    cases hmarked : isMarked (skipBlanks cs ++ rest) with
    | false => rfl
    | true => rw [← hplain, isMarked_of_append hrest hmarked]
  have hchars : ∀ c ∈ skipBlanks cs, isWordChar c = true := fun c hc =>
    hword c (List.dropWhile_suffix _ |>.subset hc)
  exact ⟨_, by rw [readValue_word hplain', hskip, dropWhile_until hchars hrest.not_word]⟩

/-- A marked value is read with the blanks around it. -/
theorem IsRead.value {before after : List Char} (hbefore : AreGaps before)
    (ih : IsRead .marked cs) (hafter : AreGaps after) :
    IsRead .item (before ++ (cs ++ after)) := by
  intro fuel rest hrest hfuel
  simp only [List.length_append] at hfuel
  obtain ⟨v, hv, -⟩ := ih fuel (after ++ rest) (by omega)
  rw [skipBlanks_append hafter, skipBlanks_noGap hrest.noGap] at hv
  refine ⟨v, ?_⟩
  rw [List.append_assoc, List.append_assoc, readValue_gaps hbefore, hv]

/-- Blanks in front do not bring a character to the start that is none. -/
theorem head_ne_of_gaps {c : Char} (hgaps : AreGaps gaps) (hc : isGap c = false)
    (hcs : cs.head? ≠ some c) : (gaps ++ cs).head? ≠ some c := by
  cases gaps with
  | nil => exact hcs
  | cons b gaps =>
    rintro ⟨⟩
    rw [hgaps c List.mem_cons_self] at hc
    cases hc

/-- A value does not begin like the end of a list. -/
theorem bracket_ne_head (h : Spells .item cs) : cs.head? ≠ some ']' := by
  cases h with
  | word hword => exact fun hhead => absurd (hword ']' (List.mem_of_head? hhead)) (by decide)
  | value hbefore hmarked =>
    exact head_ne_of_gaps hbefore rfl (by cases hmarked <;> simp)

theorem bracket_ne_head_of_breaks (h : Breaks .item cs) : cs.head? ≠ some ']' := by
  cases h with
  | quoted hgaps | list hgaps | record hgaps => exact head_ne_of_gaps hgaps rfl (by simp)

/-- A name does not close the record. -/
theorem IsName.head_ne_brace {name : List Char} (h : IsName name) :
    (name ++ rest).head? ≠ some '\x7d' := by
  cases h with
  | quoted => simp
  | bare hne hname =>
    obtain ⟨c, name, rfl⟩ := List.exists_cons_of_ne_nil hne
    rintro ⟨⟩
    exact absurd (hname _ List.mem_cons_self) (by decide)

/-- A member does not begin like the end of a record. -/
theorem brace_ne_head (h : Spells .member cs) : (cs ++ rest).head? ≠ some '\x7d' := by
  cases h with
  | pair hbefore hname =>
    rw [List.append_assoc, List.append_assoc]
    exact head_ne_of_gaps hbefore rfl hname.head_ne_brace

/-- A text that does not begin with a character is not cut after it. -/
theorem ne_cons_of_head {c : Char} (h : cs.head? ≠ some c) (tail : List Char) : cs ≠ c :: tail := by
  rintro rfl
  exact h rfl

/-- A text that does not begin with a character does not do so when another one follows. -/
theorem head_append_ne {b c : Char} (h : cs.head? ≠ some c) (hb : b ≠ c) :
    (cs ++ b :: rest).head? ≠ some c := by
  cases cs with
  | nil => exact fun heq => hb (Option.some.inj heq)
  | cons => exact h

/-- The last item is read as a list of one. -/
theorem IsRead.lastItem (hitem : Spells .item cs) (ih : IsRead .item cs) : IsRead .items cs := by
  intro fuel read rest hfuel
  cases cs with
  | nil => exact ⟨read.reverse, by rw [List.nil_append, readItems]⟩
  | cons c cs =>
    obtain ⟨fuel, rfl⟩ : ∃ n, fuel = n + 1 := ⟨fuel - 1, by omega⟩
    obtain ⟨v, hv⟩ := ih fuel (']' :: rest) (by rintro c ⟨⟩; rfl) (by omega)
    refine ⟨(v :: read).reverse, ?_⟩
    rw [readItems, hv]
    · rfl
    · exact fun tail heq => bracket_ne_head hitem (congrArg some (List.cons.inj heq).1)

/-- An item and more items are read one after the other. -/
theorem IsRead.moreItems {more : List Char} (hitem : Spells .item cs) (ih : IsRead .item cs)
    (ihmore : IsRead .items more) : IsRead .items (cs ++ ',' :: more) := by
  intro fuel read rest hfuel
  simp only [List.length_append, List.length_cons] at hfuel
  obtain ⟨fuel, rfl⟩ : ∃ n, fuel = n + 1 := ⟨fuel - 1, by omega⟩
  obtain ⟨v, hv⟩ := ih fuel (',' :: (more ++ ']' :: rest)) (by rintro c ⟨⟩; rfl) (by omega)
  obtain ⟨vs, hvs⟩ := ihmore fuel (v :: read) rest (by omega)
  refine ⟨vs, ?_⟩
  rw [List.append_assoc, List.cons_append, readItems, hv]
  · exact hvs
  · exact ne_cons_of_head (head_append_ne (bracket_ne_head hitem) (by decide))

theorem not_isNameChar_of_isGap {c : Char} (h : isGap c = true) : isNameChar c = false := by
  simp only [isGap, Bool.or_eq_true, decide_eq_true_eq] at h
  obtain (((rfl | rfl) | rfl) | rfl) | rfl := h <;> rfl

/-- A name does not begin with a blank. -/
theorem IsName.noGap {name : List Char} (h : IsName name) : NoGap (name ++ rest) := by
  cases h with
  | quoted => rintro c ⟨⟩; rfl
  | bare hne hname =>
    obtain ⟨b, name, rfl⟩ := List.exists_cons_of_ne_nil hne
    rintro c ⟨⟩
    cases hgap : isGap b with
    | false => rfl
    | true => rw [← hname b List.mem_cons_self, not_isNameChar_of_isGap hgap]

/-- Reading takes the name of a member up to the equals sign. -/
theorem exists_readName {before name after : List Char} (cs : List Char) (hbefore : AreGaps before)
    (hname : IsName name) (hafter : AreGaps after) :
    ∃ s tail, readName (skipBlanks (before ++ (name ++ (after ++ '=' :: cs)))) = .ok (s, tail)
      ∧ skipBlanks tail = '=' :: cs := by
  have hend : ∀ c ∈ (after ++ '=' :: cs).head?, isNameChar c = false := by
    cases after with
    | nil => rintro c ⟨⟩; rfl
    | cons b after =>
      rintro c ⟨⟩
      exact not_isNameChar_of_isGap (hafter b List.mem_cons_self)
  obtain ⟨s, hs⟩ := readName_complete hname hend
  refine ⟨s, after ++ '=' :: cs, ?_, ?_⟩
  · rw [skipBlanks_append hbefore, skipBlanks_noGap hname.noGap, hs]
  · rw [skipBlanks_append hafter, skipBlanks_noGap (by rintro c ⟨⟩; rfl)]

/-- A member is read with the blanks around its name. -/
theorem IsRead.pair {before name after : List Char} (hbefore : AreGaps before)
    (hname : IsName name) (hafter : AreGaps after) (ih : IsRead .item cs) :
    IsRead .member (before ++ (name ++ (after ++ '=' :: cs))) := by
  intro fuel rest hrest hfuel
  simp only [List.length_append, List.length_cons] at hfuel
  obtain ⟨v, hv⟩ := ih fuel rest hrest (by omega)
  obtain ⟨s, tail, hs, htail⟩ := exists_readName (cs ++ rest) hbefore hname hafter
  refine ⟨s, tail, cs ++ rest, v, ?_, htail, hv⟩
  rw [← hs]
  simp only [List.append_assoc, List.cons_append]

/-- The last member is read as a record of one. -/
theorem IsRead.lastMember (hmember : Spells .member cs) (ih : IsRead .member cs) :
    IsRead .members cs := by
  intro fuel read rest hfuel
  obtain ⟨fuel, rfl⟩ : ∃ n, fuel = n + 1 := ⟨fuel - 1, by omega⟩
  obtain ⟨name, tail, value, v, hname, htail, hv⟩ :=
    ih fuel ('\x7d' :: rest) (by rintro c ⟨⟩; rfl) (by omega)
  refine ⟨((name, v) :: read.filter (·.1 ≠ name)).reverse, ?_⟩
  rw [readMembers, hname]
  · simp only [bind, Except.bind, htail, hv]
    rfl
  · exact ne_cons_of_head (brace_ne_head hmember)

/-- A member and more members are read one after the other. -/
theorem IsRead.moreMembers {more : List Char} (hmember : Spells .member cs)
    (ih : IsRead .member cs) (ihmore : IsRead .members more) :
    IsRead .members (cs ++ ',' :: more) := by
  intro fuel read rest hfuel
  simp only [List.length_append, List.length_cons] at hfuel
  obtain ⟨fuel, rfl⟩ : ∃ n, fuel = n + 1 := ⟨fuel - 1, by omega⟩
  obtain ⟨name, tail, value, v, hname, htail, hv⟩ :=
    ih fuel (',' :: (more ++ '\x7d' :: rest)) (by rintro c ⟨⟩; rfl) (by omega)
  obtain ⟨w, hw⟩ := ihmore fuel ((name, v) :: read.filter (·.1 ≠ name)) rest (by omega)
  refine ⟨w, ?_⟩
  rw [List.append_assoc, List.cons_append, readMembers, hname]
  · simp only [bind, Except.bind, htail, hv]
    exact hw
  · exact ne_cons_of_head (brace_ne_head hmember)

/-- Whatever has a form is read. -/
theorem complete {part : Part} (h : Spells part cs) : IsRead part cs := by
  -- on how the text is made up, one lemma for each form
  induction h with
  | yes => exact .yes
  | no => exact .no
  | quoted hbody => exact .quoted hbody
  | character c => exact .character c
  | list _ ih => exact ih.list
  | record _ ih => exact ih.record
  | word hword hplain => exact .word hword hplain
  | value hbefore _ hafter ih => exact .value hbefore ih hafter
  | lastItem hitem ih => exact .lastItem hitem ih
  | moreItems hitem _ ih ihmore => exact .moreItems hitem ih ihmore
  | pair hbefore hname hafter _ ih => exact .pair hbefore hname hafter ih
  | noMember =>
    intro fuel read rest _
    exact ⟨read.reverse, by rw [List.nil_append, readMembers]⟩
  | lastMember hmember ih => exact .lastMember hmember ih
  | moreMembers hmember _ ih ihmore => exact .moreMembers hmember ih ihmore

-- ---------------------------------------------------------------------------
-- Where a character is to be cut, nothing is read
-- ---------------------------------------------------------------------------

/-- Reading comes to where it is to cut a character. -/
def IsBroken : Part → List Char → Prop
  | .item, cs => ∀ fuel, 2 * cs.length ≤ fuel →
      readValue (fuel + 1) cs = .error .cutCharacter
  | .items, cs => ∀ fuel read, 2 * cs.length + 1 ≤ fuel →
      readItems (fuel + 1) read cs = .error .cutCharacter
  | .members, cs => ∀ fuel read, 2 * cs.length + 1 ≤ fuel →
      readMembers (fuel + 1) read cs = .error .cutCharacter
  | .marked, _ | .member, _ => True

/-- Reading breaks in a quoted text. -/
theorem IsBroken.quoted (hgaps : AreGaps gaps) (hcut : CutsCharacter cs) :
    IsBroken .item (gaps ++ '"' :: cs) := by
  intro fuel _
  rw [readValue_gaps hgaps, readValue, skipBlanks_noGap (noGap_of_isMarked rfl)]
  simp only [readQuoted_cuts_iff.mpr hcut]
  rfl

/-- Reading breaks in a list if it breaks in its items. -/
theorem IsBroken.list (hgaps : AreGaps gaps) (ih : IsBroken .items cs) :
    IsBroken .item (gaps ++ '[' :: cs) := by
  intro fuel hfuel
  simp only [List.length_append, List.length_cons] at hfuel
  obtain ⟨fuel, rfl⟩ : ∃ n, fuel = n + 1 := ⟨fuel - 1, by omega⟩
  rw [readValue_gaps hgaps, readValue, skipBlanks_noGap (noGap_of_isMarked rfl)]
  exact ih fuel [] (by omega)

/-- Reading breaks in a record if it breaks in its members. -/
theorem IsBroken.record (hgaps : AreGaps gaps) (ih : IsBroken .members cs) :
    IsBroken .item (gaps ++ '\x7b' :: cs) := by
  intro fuel hfuel
  simp only [List.length_append, List.length_cons] at hfuel
  obtain ⟨fuel, rfl⟩ : ∃ n, fuel = n + 1 := ⟨fuel - 1, by omega⟩
  rw [readValue_gaps hgaps, readValue, skipBlanks_noGap (noGap_of_isMarked rfl)]
  exact ih fuel [] (by omega)

/-- Reading breaks in items if it breaks in the first. -/
theorem IsBroken.firstItem (hitem : Breaks .item cs) (ih : IsBroken .item cs) :
    IsBroken .items cs := by
  intro fuel read hfuel
  obtain ⟨fuel, rfl⟩ : ∃ n, fuel = n + 1 := ⟨fuel - 1, by omega⟩
  rw [readItems, ih fuel (by omega)]
  · rfl
  · exact ne_cons_of_head (bracket_ne_head_of_breaks hitem)

/-- Reading breaks in items if it breaks in a later one. -/
theorem IsBroken.laterItem (hitem : Spells .item cs) (ih : IsBroken .items rest) :
    IsBroken .items (cs ++ ',' :: rest) := by
  intro fuel read hfuel
  simp only [List.length_append, List.length_cons] at hfuel
  obtain ⟨fuel, rfl⟩ : ∃ n, fuel = n + 1 := ⟨fuel - 1, by omega⟩
  obtain ⟨v, hv⟩ := complete hitem fuel (',' :: rest) (by rintro c ⟨⟩; rfl) (by omega)
  rw [readItems, hv]
  · exact ih fuel (v :: read) (by omega)
  · exact ne_cons_of_head (head_append_ne (bracket_ne_head hitem) (by decide))

/-- Reading breaks in a quoted name. -/
theorem IsBroken.quotedName (hgaps : AreGaps gaps) (hcut : CutsCharacter cs) :
    IsBroken .members (gaps ++ '"' :: cs) := by
  intro fuel read _
  have hname : readName (skipBlanks (gaps ++ '"' :: cs)) = .error .cutCharacter := by
    rw [skipBlanks_append hgaps, skipBlanks_noGap (noGap_of_isMarked rfl)]
    exact readName_cuts_iff.mpr ⟨cs, rfl, hcut⟩
  rw [readMembers, hname]
  · rfl
  · exact ne_cons_of_head (head_ne_of_gaps hgaps rfl (by simp))

/-- Reading breaks in members if it breaks in the first. -/
theorem IsBroken.firstMember {before name after : List Char} (hbefore : AreGaps before)
    (hname : IsName name) (hafter : AreGaps after) (ih : IsBroken .item cs) :
    IsBroken .members (before ++ (name ++ (after ++ '=' :: cs))) := by
  intro fuel read hfuel
  simp only [List.length_append, List.length_cons] at hfuel
  obtain ⟨fuel, rfl⟩ : ∃ n, fuel = n + 1 := ⟨fuel - 1, by omega⟩
  obtain ⟨s, tail, hs, htail⟩ := exists_readName cs hbefore hname hafter
  rw [readMembers, hs]
  · simp only [bind, Except.bind, htail, ih fuel (by omega)]
  · exact ne_cons_of_head (head_ne_of_gaps hbefore rfl hname.head_ne_brace)

/-- Reading breaks in members if it breaks in a later one. -/
theorem IsBroken.laterMember (hmember : Spells .member cs) (ih : IsBroken .members rest) :
    IsBroken .members (cs ++ ',' :: rest) := by
  intro fuel read hfuel
  simp only [List.length_append, List.length_cons] at hfuel
  obtain ⟨fuel, rfl⟩ : ∃ n, fuel = n + 1 := ⟨fuel - 1, by omega⟩
  obtain ⟨name, tail, value, v, hname, htail, hv⟩ :=
    complete hmember fuel (',' :: rest) (by rintro c ⟨⟩; rfl) (by omega)
  rw [readMembers, hname]
  · simp only [bind, Except.bind, htail, hv]
    exact ih fuel _ (by omega)
  · exact ne_cons_of_head (brace_ne_head hmember)

/-- Reading breaks wherever it has to. -/
theorem broken {part : Part} (h : Breaks part cs) : IsBroken part cs := by
  -- on where the text breaks, one lemma for each form
  induction h with
  | quoted hgaps hcut => exact .quoted hgaps hcut
  | list hgaps _ ih => exact .list hgaps ih
  | record hgaps _ ih => exact .record hgaps ih
  | firstItem hitem ih => exact .firstItem hitem ih
  | laterItem hitem _ ih => exact .laterItem hitem ih
  | name hgaps hcut => exact .quotedName hgaps hcut
  | firstMember hbefore hname hafter _ ih => exact .firstMember hbefore hname hafter ih
  | laterMember hmember _ ih => exact .laterMember hmember ih

end WebhookDelivery.Environment
