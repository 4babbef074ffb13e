import WebhookDelivery.Proofs.VariableValues

/-!
# Values of variables that are kept as they are

A variable is a text like any other to whoever sets it, but its value is read. It stays the text
that it is only where it has none of the other forms: it must be no truth value, quoted text or
character, list or record, and of the words it must not be a number.

* `ofWord_of_isNumber`, `ofWord_of_not_isNumber` — the words that are numbers.
* `value?_eq_none_iff` — values in which a character is to be cut.
* `value?_eq_self_iff` — values that are kept.
* `isPlain_of_unmarked` — a condition for it that is quickly checked.
-/

namespace WebhookDelivery.Environment

-- ---------------------------------------------------------------------------
-- Numbers
-- ---------------------------------------------------------------------------

/-- A row of digits, one at least. -/
structure AreDigits (ds : List Char) : Prop where
  nonempty : ds ≠ []
  digit : ∀ c ∈ ds, Decimal.isDigit c = true

/-- A sign, or none. -/
inductive IsSign : List Char → Prop where
  | none : IsSign []
  | plus : IsSign ['+']
  | minus : IsSign ['-']

/-- An exponent, or none. -/
inductive IsExponent : List Char → Prop where
  | none : IsExponent []
  | some {mark : Char} {sign ds : List Char} (hmark : isExponentMark mark = true)
    (hsign : IsSign sign) (hds : AreDigits ds) : IsExponent (mark :: (sign ++ ds))

/-- A whole number of 64 bits. -/
inductive IsWhole : List Char → Prop where
  | unsigned {sign ds : List Char} (hsign : IsSign sign) (hplus : sign ≠ ['-']) (hds : AreDigits ds)
    (hfits : Decimal.read ds < 18446744073709551616) : IsWhole (sign ++ ds)
  | negative {ds : List Char} (hds : AreDigits ds)
    (hfits : Decimal.read ds ≤ 9223372036854775808) : IsWhole ('-' :: ds)

/-- A number with a point, and a digit on one side of it at least. -/
inductive IsPointed : List Char → Prop where
  | point {sign whole fraction exponent : List Char} (hsign : IsSign sign)
    (hds : AreDigits (whole ++ fraction)) (hexponent : IsExponent exponent) :
    IsPointed (sign ++ (whole ++ '.' :: (fraction ++ exponent)))

/-- A word that is a number. -/
def IsNumber (cs : List Char) : Prop :=
  IsWhole cs ∨ IsPointed cs

variable {cs ds sign : List Char}

/-- Every text is a sign, or none, and what follows. -/
theorem exists_sign (cs : List Char) : ∃ sign, IsSign sign ∧ cs = sign ++ (splitSign cs).2
    ∧ ((splitSign cs).1 = true ↔ sign = ['-']) := by
  rw [splitSign.eq_def]
  split
  · exact ⟨['-'], .minus, rfl, by simp⟩
  · exact ⟨['+'], .plus, rfl, by simp⟩
  · exact ⟨[], .none, rfl, by simp⟩

/-- What follows a sign does not begin with another one. -/
def NoSign (cs : List Char) : Prop :=
  ∀ c ∈ cs.head?, c ≠ '-' ∧ c ≠ '+'

/-- The sign is split off, if no other sign follows it. -/
theorem splitSign_append (hsign : IsSign sign) (hcs : NoSign cs) :
    splitSign (sign ++ cs) = (decide (sign = ['-']), cs) := by
  cases hsign with
  | none =>
    rw [List.nil_append, splitSign.eq_def]
    split
    · exact absurd rfl (hcs '-' rfl).1
    · exact absurd rfl (hcs '+' rfl).2
    · rfl
  | plus => rfl
  | minus => rfl

/-- Digits are read from a row of digits, and from nothing else. -/
theorem digits?_eq_some_iff {found : List Char} :
    digits? cs = some found ↔ found = cs ∧ AreDigits cs := by
  rw [digits?]
  split
  · rename_i h
    rw [Bool.and_eq_true, List.all_eq_true] at h
    constructor
    · intro heq
      exact ⟨(Option.some.inj heq).symm, by simpa using h.1, h.2⟩
    · rintro ⟨rfl, -⟩
      rfl
  · rename_i h
    constructor
    · intro heq
      cases heq
    · rintro ⟨-, hne, hall⟩
      refine absurd ?_ h
      rw [Bool.and_eq_true, List.all_eq_true]
      exact ⟨by simpa using hne, hall⟩

theorem not_sign_of_isDigit {c : Char} (h : Decimal.isDigit c = true) : c ≠ '-' ∧ c ≠ '+' := by
  constructor <;> rintro rfl <;> cases h

theorem AreDigits.noSign (h : AreDigits ds) : NoSign ds :=
  fun c hc => not_sign_of_isDigit (h.digit c (List.mem_of_head? hc))

/-- A whole number of 64 bits is read as an integer. -/
theorem integer?_of_isWhole (h : IsWhole cs) : ∃ n, integer? cs = some (.int n) := by
  cases h with
  | @unsigned sign ds hsign hplus hds hfits =>
    refine ⟨Decimal.read ds, ?_⟩
    rw [integer?, splitSign_append hsign hds.noSign]
    simp [digits?_eq_some_iff.mpr ⟨rfl, hds⟩, hplus, hfits]
  | @negative ds hds hfits =>
    refine ⟨-(Decimal.read ds), ?_⟩
    have hsplit := splitSign_append .minus hds.noSign
    rw [List.singleton_append] at hsplit
    rw [integer?, hsplit]
    simp [digits?_eq_some_iff.mpr ⟨rfl, hds⟩, hfits]

/-- Only a whole number of 64 bits is read as an integer. -/
theorem isWhole_of_integer? {v : Json} (h : integer? cs = some v) : IsWhole cs := by
  obtain ⟨sign, hsign, hcs, hnegative⟩ := exists_sign cs
  rw [integer?] at h
  dsimp only at h
  obtain ⟨ds, hread, h⟩ := Option.bind_eq_some_iff.mp h
  obtain ⟨rfl, hds⟩ := digits?_eq_some_iff.mp hread
  rw [hcs]
  -- a negative number is bounded below, any other above
  split at h
  · rename_i hminus
    rw [hnegative.mp hminus]
    split at h
    · rename_i hfits
      exact .negative hds hfits
    · cases h
  · rename_i hplus
    split at h
    · rename_i hfits
      exact .unsigned hsign (fun heq => hplus (hnegative.mpr heq)) hds hfits
    · cases h

/-- A digit is no mark of an exponent. -/
theorem not_mark_of_isDigit {c : Char} (h : Decimal.isDigit c = true) :
    isExponentMark c = false := by
  cases hmark : isExponentMark c with
  | false => rfl
  | true =>
    simp only [isExponentMark, Bool.or_eq_true, decide_eq_true_eq] at hmark
    obtain rfl | rfl := hmark <;> cases h

/-- The parts of a numeral, as the reader takes them. -/
theorem split_eq {negative : Bool} {whole after exponent : List Char}
    (hsign : splitSign cs = (negative, whole ++ after ++ exponent))
    (hmantissa : ∀ c ∈ whole ++ after, (!isExponentMark c) = true)
    (hexponent : ∀ c ∈ exponent.head?, (!isExponentMark c) = false)
    (hwhole : ∀ c ∈ whole, decide (c ≠ '.') = true)
    (hafter : ∀ c ∈ after.head?, decide (c ≠ '.') = false) :
    Numeral.split cs = ⟨negative, whole, after.tail?, exponent.tail?.map splitSign⟩ := by
  rw [Numeral.split, hsign]
  dsimp only
  rw [takeWhile_until hmantissa hexponent, dropWhile_until hmantissa hexponent,
    takeWhile_until hwhole hafter, dropWhile_until hwhole hafter]
  cases after <;> cases exponent <;> rfl

/-- A number with a point is cut at its sign, its point and its exponent. -/
theorem split_pointed {whole fraction exponent : List Char} (hsign : IsSign sign)
    (hds : AreDigits (whole ++ fraction)) (hexponent : IsExponent exponent) :
    Numeral.split (sign ++ (whole ++ '.' :: (fraction ++ exponent)))
      = ⟨decide (sign = ['-']), whole, some fraction, exponent.tail?.map splitSign⟩ := by
  -- no digit is a mark of an exponent or the point
  have hdigit : ∀ c ∈ whole ++ fraction, (!isExponentMark c) = true ∧ c ≠ '.' := by
    intro c hc
    refine ⟨by rw [not_mark_of_isDigit (hds.digit c hc), Bool.not_false], ?_⟩
    rintro rfl
    exact absurd (hds.digit _ hc) (by decide)
  have hstart : NoSign (whole ++ '.' :: (fraction ++ exponent)) := by
    intro c hc
    cases whole with
    | nil =>
      obtain rfl := Option.some.inj hc
      decide
    | cons b whole =>
      obtain rfl := Option.some.inj hc
      exact not_sign_of_isDigit (hds.digit b (by simp))
  have hsplit : splitSign (sign ++ (whole ++ '.' :: (fraction ++ exponent)))
      = (decide (sign = ['-']), whole ++ '.' :: fraction ++ exponent) := by
    rw [splitSign_append hsign hstart, List.append_assoc, List.cons_append]
  have hmantissa : ∀ c ∈ whole ++ '.' :: fraction, (!isExponentMark c) = true := by
    intro c hc
    rw [List.mem_append, List.mem_cons] at hc
    obtain hc | rfl | hc := hc
    · exact (hdigit c (List.mem_append_left _ hc)).1
    · rfl
    · exact (hdigit c (List.mem_append_right _ hc)).1
  -- the exponent, if there is one, begins with its mark
  have hmarks : ∀ c ∈ exponent.head?, (!isExponentMark c) = false := by
    cases hexponent with
    | none => simp
    | some hmark =>
      rintro c ⟨⟩
      rw [hmark, Bool.not_true]
  exact split_eq hsplit hmantissa hmarks
    (fun c hc => decide_eq_true (hdigit c (List.mem_append_left _ hc)).2) (by simp)

/-- A number with a point is read as a float. -/
theorem pointed?_of_isPointed (h : IsPointed cs) : ∃ x, pointed? cs = some (.float x) := by
  cases h with
  | @point sign whole fraction exponent hsign hds hexponent =>
    rw [pointed?, split_pointed hsign hds hexponent]
    refine ⟨_, if_pos ?_⟩
    simp only [Option.isSome_some, Option.getD_some, Bool.true_and, Bool.and_eq_true]
    refine ⟨⟨List.all_eq_true.mpr hds.digit, by simpa using hds.nonempty⟩, ?_⟩
    cases hexponent with
    | none => rfl
    | some _ hsign hds =>
      simp [splitSign_append hsign hds.noSign, digits?_eq_some_iff.mpr ⟨rfl, hds⟩]

/-- Only a number with a point is read as a float. -/
theorem isPointed_of_pointed? {v : Json} (h : pointed? cs = some v) : IsPointed cs := by
  obtain ⟨sign, hsign, hcs, -⟩ := exists_sign cs
  -- up to the mark of the exponent, and in that up to the point
  obtain ⟨mantissa, exponent, hparts, hmantissa, hmarks⟩ :=
    exists_until (!isExponentMark ·) (splitSign cs).2
  obtain ⟨whole, after, rfl, hwhole, hafter⟩ := exists_until (fun c => decide (c ≠ '.')) mantissa
  have hsplit := split_eq (Prod.ext rfl hparts) hmantissa hmarks hwhole hafter
  rw [pointed?, hsplit] at h
  dsimp only at h
  split at h
  · rename_i hform
    simp only [Bool.and_eq_true] at hform
    obtain ⟨⟨⟨hsome, hdigits⟩, hne⟩, hexp⟩ := hform
    cases after with
    | nil => cases hsome
    | cons point fraction =>
      obtain rfl : point = '.' := by simpa using hafter point rfl
      -- what follows the mark is a sign, or none, and digits
      have hexponent : IsExponent exponent := by
        cases exponent with
        | nil => exact .none
        | cons mark exponent =>
          obtain ⟨sign, hsign, heq, -⟩ := exists_sign exponent
          obtain ⟨ds, hread⟩ := Option.isSome_iff_exists.mp
            (show (digits? (splitSign exponent).2).isSome = true by simpa using hexp)
          obtain ⟨rfl, hds⟩ := digits?_eq_some_iff.mp hread
          rw [heq]
          exact .some (by simpa using hmarks mark rfl) hsign hds
      rw [hcs, hparts, List.append_assoc, List.cons_append]
      exact .point hsign ⟨by simpa using hne, List.all_eq_true.mp hdigits⟩ hexponent
  · cases h

/-- A word that is no number is kept. -/
theorem ofWord_of_not_isNumber (h : ¬ IsNumber cs) : ofWord cs = .str (String.ofList cs) := by
  have hpointed : pointed? cs = none := by
    cases hread : pointed? cs with
    | none => rfl
    | some v => exact absurd (.inr (isPointed_of_pointed? hread)) h
  have hwhole : integer? cs = none := by
    cases hread : integer? cs with
    | none => rfl
    | some v => exact absurd (.inl (isWhole_of_integer? hread)) h
  rw [ofWord, hpointed, hwhole]
  rfl

/-- A word that is a number is no text. -/
theorem ofWord_of_isNumber (h : IsNumber cs) : ∀ s, ofWord cs ≠ .str s := by
  intro s
  rw [ofWord]
  -- a word is tried as a number with a point first
  cases hpointed : pointed? cs with
  | some v =>
    obtain ⟨x, hx⟩ := pointed?_of_isPointed (isPointed_of_pointed? hpointed)
    obtain rfl := Option.some.inj (hpointed.symm.trans hx)
    simp
  | none =>
    obtain hwhole | hpoint := h
    · obtain ⟨n, hn⟩ := integer?_of_isWhole hwhole
      rw [hn]
      simp
    · obtain ⟨x, hx⟩ := pointed?_of_isPointed hpoint
      rw [hpointed] at hx
      cases hx

-- ---------------------------------------------------------------------------
-- Whole values
-- ---------------------------------------------------------------------------

theorem isBlank_of_isGap {c : Char} (h : isGap c = true) : isBlank c = true := by
  simp only [isGap, Bool.or_eq_true, decide_eq_true_eq] at h
  obtain (((rfl | rfl) | rfl) | rfl) | rfl := h <;> rfl

/-- Where dropping stops, the test fails. -/
theorem head_of_dropWhile (p : Char → Bool) (cs : List Char) :
    ∀ c ∈ (cs.dropWhile p).head?, p c = false := by
  intro c hc
  have hnot := List.head?_dropWhile_not p cs
  rw [Option.mem_def.mp hc] at hnot
  exact hnot

/-- A trimmed text does not begin with a blank. -/
theorem head_of_trimmed (h : trimBlanks cs = cs) : ∀ c ∈ cs.head?, isBlank c = false := by
  intro c hc
  have hbegins : trimBlanks cs <+: cs.dropWhile isBlank := by
    rw [← List.reverse_reverse (cs.dropWhile isBlank), trimBlanks, List.reverse_prefix]
    exact List.dropWhile_suffix _
  obtain ⟨more, hmore⟩ := hbegins
  refine head_of_dropWhile _ cs c ?_
  rw [← hmore, h, List.head?_append, Option.mem_def.mp hc]
  rfl

theorem last_of_trimmed (h : trimBlanks cs = cs) : ∀ c ∈ cs.getLast?, isBlank c = false := by
  intro c hc
  rw [← h, trimBlanks, List.getLast?_reverse] at hc
  exact head_of_dropWhile _ _ c hc

/-- A trimmed text has no gap at its start. -/
theorem noGap_of_trimmed (h : trimBlanks cs = cs) : NoGap cs := by
  intro c hc
  cases hgap : isGap c with
  | false => rfl
  | true => rw [← head_of_trimmed h c hc, isBlank_of_isGap hgap]

/-- A value in a text without blanks around it is a word, or a marked value and nothing else. -/
theorem cases_of_trimmed (h : trimBlanks cs = cs) (hitem : Spells .item cs) :
    Spells .marked cs ∨ ((∀ c ∈ cs, isWordChar c = true) ∧ isMarked cs = false) := by
  have hno := noGap_of_trimmed h
  cases hitem with
  | word hword hplain =>
    rw [skipBlanks_noGap hno] at hplain
    exact .inr ⟨hword, hplain⟩
  | @value before marked after hbefore hmarked hafter =>
    -- blanks around the value would be blanks around the text
    obtain rfl : before = [] := by
      cases before with
      | nil => rfl
      | cons b before =>
        have hb := hno b rfl
        rw [hbefore b List.mem_cons_self] at hb
        cases hb
    obtain rfl : after = [] := by
      cases hlast : after.getLast? with
      | none => exact List.getLast?_eq_none_iff.mp hlast
      | some a =>
        have hblank := last_of_trimmed h a (by simp [List.getLast?_append, hlast])
        rw [isBlank_of_isGap (hafter a (List.mem_of_getLast? hlast))] at hblank
        cases hblank
    rw [List.append_nil]
    exact .inl hmarked

/-- A variable has no value exactly if the reader is to cut a character in it. -/
theorem value?_eq_none_iff {s : String} : value? s = none ↔ Breaks .item s.toList := by
  rw [value?]
  constructor
  · intro h
    split at h
    · cases h
    · rename_i hread
      exact (faults _).value hread
    · cases h
  · intro h
    rw [broken h (2 * s.toList.length + 1) (by omega)]

/-- A character of a number. -/
def isNumeral (c : Char) : Bool :=
  Decimal.isDigit c || ['+', '-', '.', 'e', 'E'].contains c

/-- Signs are characters of numbers. -/
theorem IsSign.isNumeral (h : IsSign sign) : ∀ c ∈ sign, isNumeral c = true := by
  intro c hc
  cases h with
  | none => cases hc
  | plus | minus =>
    obtain rfl := List.mem_singleton.mp hc
    rfl

theorem AreDigits.isNumeral (h : AreDigits ds) : ∀ c ∈ ds, isNumeral c = true := by
  intro c hc
  rw [Environment.isNumeral, h.digit c hc, Bool.true_or]

/-- Exponents are written in characters of numbers. -/
theorem IsExponent.isNumeral (h : IsExponent cs) : ∀ c ∈ cs, isNumeral c = true := by
  cases h with
  | none => simp
  | some hmark hsign hds =>
    refine List.forall_mem_cons.mpr ⟨?_, fun c hc => ?_⟩
    · simp only [isExponentMark, Bool.or_eq_true, decide_eq_true_eq] at hmark
      obtain rfl | rfl := hmark <;> rfl
    · exact (List.mem_append.mp hc).elim (hsign.isNumeral c) (hds.isNumeral c)

/-- Numbers are written in characters of numbers. -/
theorem IsNumber.isNumeral (h : IsNumber cs) : ∀ c ∈ cs, isNumeral c = true := by
  intro c hc
  obtain hwhole | hpointed := h
  · cases hwhole with
    | unsigned hsign _ hds =>
      exact (List.mem_append.mp hc).elim (hsign.isNumeral c) (hds.isNumeral c)
    | negative hds =>
      obtain rfl | hc := List.mem_cons.mp hc
      · rfl
      · exact hds.isNumeral c hc
  · cases hpointed with
    | point hsign hds hexponent =>
      simp only [List.mem_append, List.mem_cons] at hc
      obtain hc | hc | rfl | hc | hc := hc
      · exact hsign.isNumeral c hc
      · exact hds.isNumeral c (List.mem_append_left _ hc)
      · rfl
      · exact hds.isNumeral c (List.mem_append_right _ hc)
      · exact hexponent.isNumeral c hc

/-- A number does not end a word. -/
theorem isWordChar_of_isNumeral {c : Char} (h : isNumeral c = true) : isWordChar c = true := by
  cases hword : isWordChar c with
  | true => rfl
  | false =>
    simp only [isWordChar, Bool.and_eq_false_iff, decide_eq_false_iff_not, ne_eq,
      Decidable.not_not] at hword
    obtain (((rfl | rfl) | rfl) | rfl) | rfl := hword <;> cases h

/-- A number does not begin like text, a list or a record. -/
theorem not_isMarked_of_isNumeral (h : ∀ c ∈ cs, isNumeral c = true) : isMarked cs = false := by
  cases hmarked : isMarked cs with
  | false => rfl
  | true =>
    obtain ⟨mark, hmark, hbegins⟩ := isMarked_iff.mp hmarked
    have hmarks : ∀ mark ∈ marks, mark.any (!Environment.isNumeral ·) = true := by decide
    obtain ⟨c, hc, hnot⟩ := List.any_eq_true.mp (hmarks mark hmark)
    rw [h c (hbegins.subset hc)] at hnot
    cases hnot

/-- A text without blanks around it that is kept as it is: no truth value, quoted text or character,
list or record, no number, and nothing in which the reader is to cut a character. -/
structure IsPlain (s : String) : Prop where
  unmarked : ¬ Spells .marked s.toList
  no_number : ¬ IsNumber s.toList
  unbroken : ¬ Breaks .item s.toList

/-- An item that is no word begins with a mark. -/
theorem isMarked_of_breaks (h : Breaks .item cs) : isMarked (skipBlanks cs) = true := by
  cases h with
  | quoted hgaps | list hgaps | record hgaps =>
    rw [skipBlanks_append hgaps, skipBlanks_noGap (noGap_of_isMarked rfl)]
    rfl

/-- A text that begins like no other value is plain if it has a character that no number has. -/
theorem isPlain_of_unmarked {s : String} {c : Char}
    (hunmarked : isMarked (skipBlanks s.toList) = false) (hc : c ∈ s.toList)
    (hnumeral : isNumeral c = false) : IsPlain s where
  unmarked h := by
    have hmarked := isMarked_of_spells h
    rw [skipBlanks_noGap (noGap_of_isMarked hmarked), hmarked] at hunmarked
    cases hunmarked
  no_number h := by
    rw [h.isNumeral c hc] at hnumeral
    cases hnumeral
  unbroken h := by
    rw [isMarked_of_breaks h] at hunmarked
    cases hunmarked

/-- A word is read to its end. -/
theorem readValue_trimmed (h : trimBlanks cs = cs) (hword : ∀ c ∈ cs, isWordChar c = true)
    (hplain : isMarked cs = false) (fuel : Nat) :
    readValue (fuel + 1) cs = .ok (ofWord cs, []) := by
  have hskip := skipBlanks_noGap (noGap_of_trimmed h)
  rw [readValue_word (by rw [hskip, hplain]), hskip, takeWhile_all hword, dropWhile_all hword, h]

/-- A text that is kept as it is, is plain. -/
theorem isPlain_of_value? {s : String} (htrim : trimBlanks s.toList = s.toList)
    (h : value? s = some (.str s)) : IsPlain s where
  unmarked hmarked := by
    -- a marked value that is a text is shorter than what it is read from
    obtain ⟨v, hv, hlen⟩ := complete hmarked (2 * s.toList.length + 1) [] (by omega)
    rw [List.append_nil] at hv
    rw [value?, hv] at h
    have hlt := hlen s (Option.some.inj h)
    rw [String.length_toList] at hlt
    omega
  no_number hnumber := by
    have hchars := hnumber.isNumeral
    have hread := readValue_trimmed htrim (fun c hc => isWordChar_of_isNumeral (hchars c hc))
      (not_isMarked_of_isNumeral hchars) (2 * s.toList.length + 1)
    rw [value?, hread] at h
    exact ofWord_of_isNumber hnumber s (Option.some.inj h)
  unbroken hbreaks := by
    rw [value?_eq_none_iff.mpr hbreaks] at h
    cases h

/-- A plain text is kept as it is. -/
theorem value?_of_isPlain {s : String} (htrim : trimBlanks s.toList = s.toList) (h : IsPlain s) :
    value? s = some (.str s) := by
  rw [value?]
  split
  · rename_i v hread
    obtain ⟨text, heq, htext, -⟩ := (sound _).value hread
    rw [List.append_nil] at heq
    obtain hmarked | ⟨hword, hplain⟩ := cases_of_trimmed htrim (heq ▸ htext)
    · exact absurd hmarked h.unmarked
    · rw [readValue_trimmed htrim hword hplain] at hread
      obtain ⟨rfl, -⟩ := Prod.mk.inj (Except.ok.inj hread)
      rw [ofWord_of_not_isNumber h.no_number, String.ofList_toList]
  · rename_i hread
    exact absurd ((faults _).value hread) h.unbroken
  · rfl

/-- A variable without blanks around its value keeps it as a text exactly if it is plain. -/
theorem value?_eq_self_iff {s : String} (htrim : trimBlanks s.toList = s.toList) :
    value? s = some (.str s) ↔ IsPlain s :=
  ⟨isPlain_of_value? htrim, value?_of_isPlain htrim⟩

end WebhookDelivery.Environment
