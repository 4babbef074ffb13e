import WebhookDelivery.Signing

/-!
# Verification

A receiver recomputes the authentication code and looks for it in the header. Between the code and
the header lie three layers of text: the Base64 writing of the code, the version tag before it, and
the blanks that part one token from the next. A layer that could be read in two ways would let a
second spelling of the same code through; none can. So the one token that verifies is the one that
signing makes, and it verifies wherever it stands as a word of its own.

* `Base64.decode?_eq_some_iff` — a text is read as octets exactly if it is their writing.
* `mem_wordsOf_iff` — the words of a text are its maximal runs of characters that are not blank.
* `Signature.verify_iff` — a header verifies exactly if the signature is one of its words.
-/

namespace WebhookDelivery

-- ---------------------------------------------------------------------------
-- Base64 is canonical
-- ---------------------------------------------------------------------------

namespace Base64

/-- A character that has a value is the digit for it. -/
theorem digit_of_value? {c : Char} {n : Nat} (h : value? c = some n) : n < 64 ∧ digit n = c := by
  -- the ranges of the digits, as numbers
  have hof : ∀ k, c.toNat = k → Char.ofNat k = c := by
    rintro _ rfl
    exact Char.ofNat_toNat c
  have hA : 'A'.toNat = 65 := rfl
  have ha : 'a'.toNat = 97 := rfl
  have h0 : '0'.toNat = 48 := rfl
  rw [value?] at h
  split at h
  · rename_i hupper
    have hlow : 65 ≤ c.toNat := hupper.1
    have hhigh : c.toNat ≤ 90 := hupper.2
    obtain rfl := Option.some.inj h
    refine ⟨by omega, ?_⟩
    rw [digit, if_pos (by omega)]
    exact hof _ (by omega)
  · split at h
    · rename_i hlower
      have hlow : 97 ≤ c.toNat := hlower.1
      have hhigh : c.toNat ≤ 122 := hlower.2
      obtain rfl := Option.some.inj h
      refine ⟨by omega, ?_⟩
      rw [digit, if_neg (by omega), if_pos (by omega)]
      exact hof _ (by omega)
    · split at h
      · rename_i hdigit
        have hlow : 48 ≤ c.toNat := hdigit.1
        have hhigh : c.toNat ≤ 57 := hdigit.2
        obtain rfl := Option.some.inj h
        refine ⟨by omega, ?_⟩
        rw [digit, if_neg (by omega), if_neg (by omega), if_pos (by omega)]
        exact hof _ (by omega)
      · split at h
        · rename_i hplus
          obtain rfl := Option.some.inj h
          exact ⟨by decide, hplus.symm⟩
        · split at h
          · rename_i hslash
            obtain rfl := Option.some.inj h
            exact ⟨by decide, hslash.symm⟩
          · cases h

/-- Padding is no digit. -/
theorem digit_ne_pad {n : Nat} (h : n < 64) : digit n ≠ '=' := by
  intro heq
  have hvalue := value?_digit h
  rw [heq] at hvalue
  cases hvalue

theorem octet_of_toNat {n : Nat} {b : UInt8} (h : n = b.toNat) : UInt8.ofNat n = b := by
  rw [h, UInt8.ofNat_toNat]

/-- Four digits are read as three octets. -/
theorem group?_eq {p q r s : Char} {w x y z : Nat} (hw : value? p = some w) (hx : value? q = some x)
    (hy : value? r = some y) (hz : value? s = some z) :
    group? p q r s = some [UInt8.ofNat (w * 4 + x / 16), UInt8.ofNat (x % 16 * 16 + y / 4),
      UInt8.ofNat (y % 4 * 64 + z)] := by
  rw [group?, hw, hx, hy, hz]
  rfl

/-- A full group is read as three octets exactly if it is their writing. -/
theorem group?_eq_some_iff {p q r s : Char} {bytes : Octets} :
    group? p q r s = some bytes ↔ ∃ a b c, bytes = [a, b, c] ∧ encode [a, b, c] = [p, q, r, s] := by
  constructor
  · intro h
    obtain ⟨w, hw, h'⟩ := Option.bind_eq_some_iff.mp h
    obtain ⟨x, hx, h'⟩ := Option.bind_eq_some_iff.mp h'
    obtain ⟨y, hy, h'⟩ := Option.bind_eq_some_iff.mp h'
    obtain ⟨z, hz, -⟩ := Option.bind_eq_some_iff.mp h'
    rw [group?_eq hw hx hy hz] at h
    obtain ⟨hw, rfl⟩ := digit_of_value? hw
    obtain ⟨hx, rfl⟩ := digit_of_value? hx
    obtain ⟨hy, rfl⟩ := digit_of_value? hy
    obtain ⟨hz, rfl⟩ := digit_of_value? hz
    refine ⟨_, _, _, (Option.some.inj h).symm, ?_⟩
    -- the bits of the octets are those of the digits again
    have h1 : (w * 4 + x / 16) % 256 / 4 = w := by omega
    have h2 : (w * 4 + x / 16) % 256 % 4 * 16 + (x % 16 * 16 + y / 4) % 256 / 16 = x := by omega
    have h3 : (x % 16 * 16 + y / 4) % 256 % 16 * 4 + (y % 4 * 64 + z) % 256 / 64 = y := by omega
    have h4 : (y % 4 * 64 + z) % 256 % 64 = z := by omega
    simp only [encode, UInt8.toNat_ofNat', h1, h2, h3, h4]
  · rintro ⟨a, b, c, rfl, h⟩
    have ha := a.toNat_lt
    have hb := b.toNat_lt
    have hc := c.toNat_lt
    obtain ⟨rfl, rfl, rfl, rfl⟩ : digit (a.toNat / 4) = p
        ∧ digit (a.toNat % 4 * 16 + b.toNat / 16) = q
        ∧ digit (b.toNat % 16 * 4 + c.toNat / 64) = r ∧ digit (c.toNat % 64) = s := by
      simpa [encode] using h
    rw [group?_eq (value?_digit (by omega)) (value?_digit (by omega)) (value?_digit (by omega))
      (value?_digit (by omega)), octet_of_toNat (b := a) (by omega),
      octet_of_toNat (b := b) (by omega), octet_of_toNat (b := c) (by omega)]

/-- A group with two characters of padding is read as one octet exactly if it is its writing. -/
theorem lastGroup?_one {p q : Char} {bytes : Octets} :
    lastGroup? p q '=' '=' = some bytes ↔ ∃ a, bytes = [a] ∧ encode [a] = [p, q, '=', '='] := by
  constructor
  · intro h
    obtain ⟨w, hw, h'⟩ := Option.bind_eq_some_iff.mp h
    obtain ⟨x, hx, hbytes⟩ := Option.bind_eq_some_iff.mp h'
    obtain ⟨hw, rfl⟩ := digit_of_value? hw
    obtain ⟨hx, rfl⟩ := digit_of_value? hx
    -- bits beyond the octet must be zero
    split at hbytes
    · cases hbytes
    · refine ⟨_, (Option.some.inj hbytes).symm, ?_⟩
      have h1 : (w * 4 + x / 16) % 256 / 4 = w := by omega
      have h2 : (w * 4 + x / 16) % 256 % 4 * 16 = x := by omega
      simp only [encode, UInt8.toNat_ofNat', h1, h2]
  · rintro ⟨a, rfl, h⟩
    have ha := a.toNat_lt
    obtain ⟨rfl, rfl⟩ : digit (a.toNat / 4) = p ∧ digit (a.toNat % 4 * 16) = q := by
      simpa [encode] using h
    have hzero : ¬ a.toNat % 4 * 16 % 16 ≠ 0 := by omega
    rw [lastGroup?, if_neg (by simp), if_neg (by simp), value?_digit (by omega),
      value?_digit (by omega)]
    show (if a.toNat % 4 * 16 % 16 ≠ 0 then none
      else some [UInt8.ofNat (a.toNat / 4 * 4 + a.toNat % 4 * 16 / 16)]) = some [a]
    rw [if_neg hzero, octet_of_toNat (b := a) (by omega)]

/-- A group with one character of padding is read as two octets exactly if it is their writing. -/
theorem lastGroup?_two {p q r : Char} {bytes : Octets} (hr : r ≠ '=') :
    lastGroup? p q r '=' = some bytes
      ↔ ∃ a b, bytes = [a, b] ∧ encode [a, b] = [p, q, r, '='] := by
  constructor
  · intro h
    rw [lastGroup?, if_neg (by simp), if_pos hr] at h
    obtain ⟨w, hw, h'⟩ := Option.bind_eq_some_iff.mp h
    obtain ⟨x, hx, h'⟩ := Option.bind_eq_some_iff.mp h'
    obtain ⟨y, hy, hbytes⟩ := Option.bind_eq_some_iff.mp h'
    obtain ⟨hw, rfl⟩ := digit_of_value? hw
    obtain ⟨hx, rfl⟩ := digit_of_value? hx
    obtain ⟨hy, rfl⟩ := digit_of_value? hy
    split at hbytes
    · cases hbytes
    · refine ⟨_, _, (Option.some.inj hbytes).symm, ?_⟩
      have h1 : (w * 4 + x / 16) % 256 / 4 = w := by omega
      have h2 : (w * 4 + x / 16) % 256 % 4 * 16 + (x % 16 * 16 + y / 4) % 256 / 16 = x := by omega
      have h3 : (x % 16 * 16 + y / 4) % 256 % 16 * 4 = y := by omega
      simp only [encode, UInt8.toNat_ofNat', h1, h2, h3]
  · rintro ⟨a, b, rfl, h⟩
    have ha := a.toNat_lt
    have hb := b.toNat_lt
    obtain ⟨rfl, rfl, rfl⟩ : digit (a.toNat / 4) = p
        ∧ digit (a.toNat % 4 * 16 + b.toNat / 16) = q ∧ digit (b.toNat % 16 * 4) = r := by
      simpa [encode] using h
    have hzero : ¬ b.toNat % 16 * 4 % 4 ≠ 0 := by omega
    rw [lastGroup?, if_neg (by simp), if_pos hr, value?_digit (by omega), value?_digit (by omega),
      value?_digit (by omega)]
    show (if b.toNat % 16 * 4 % 4 ≠ 0 then none
      else some [UInt8.ofNat (a.toNat / 4 * 4 + (a.toNat % 4 * 16 + b.toNat / 16) / 16),
        UInt8.ofNat ((a.toNat % 4 * 16 + b.toNat / 16) % 16 * 16 + b.toNat % 16 * 4 / 4)])
      = some [a, b]
    rw [if_neg hzero, octet_of_toNat (b := a) (by omega), octet_of_toNat (b := b) (by omega)]

/-- Only one, two or three octets are written as a single group, and the padding says how many. -/
theorem cases_of_encode {p q r s : Char} {bytes : Octets} (h : encode bytes = [p, q, r, s]) :
    (∃ a, bytes = [a] ∧ r = '=' ∧ s = '=') ∨ (∃ a b, bytes = [a, b] ∧ r ≠ '=' ∧ s = '=')
      ∨ ∃ a b c, bytes = [a, b, c] ∧ s ≠ '=' := by
  rcases bytes with _ | ⟨a, _ | ⟨b, _ | ⟨c, rest⟩⟩⟩
  · cases h
  · refine .inl ⟨a, rfl, ?_⟩
    simp only [encode, List.cons.injEq] at h
    exact ⟨h.2.2.1.symm, h.2.2.2.1.symm⟩
  · refine .inr (.inl ⟨a, b, rfl, ?_⟩)
    simp only [encode, List.cons.injEq] at h
    exact ⟨h.2.2.1 ▸ digit_ne_pad (by omega), h.2.2.2.1.symm⟩
  · simp only [encode, List.cons.injEq] at h
    obtain ⟨-, -, -, hs, hrest⟩ := h
    -- three octets fill the group, so nothing comes after them
    have hnil : rest = [] := by
      rcases rest with _ | ⟨_, _ | ⟨_, _ | ⟨_, _⟩⟩⟩
      · rfl
      all_goals cases hrest
    refine .inr (.inr ⟨a, b, c, by rw [hnil], ?_⟩)
    exact hs ▸ digit_ne_pad (by omega)

/-- A last group is read as octets exactly if it is their writing. -/
theorem lastGroup?_eq_some_iff {p q r s : Char} {bytes : Octets} :
    lastGroup? p q r s = some bytes ↔ encode bytes = [p, q, r, s] := by
  constructor
  · intro h
    -- two signs of padding, one or none
    by_cases hs : s = '='
    · by_cases hr : r = '='
      · subst hs hr
        obtain ⟨a, rfl, henc⟩ := lastGroup?_one.mp h
        exact henc
      · subst hs
        obtain ⟨a, b, rfl, henc⟩ := (lastGroup?_two hr).mp h
        exact henc
    · rw [lastGroup?, if_pos hs] at h
      obtain ⟨a, b, c, rfl, henc⟩ := group?_eq_some_iff.mp h
      exact henc
  · intro h
    rcases cases_of_encode h with ⟨a, rfl, rfl, rfl⟩ | ⟨a, b, rfl, hr, rfl⟩ | ⟨a, b, c, rfl, hs⟩
    · exact lastGroup?_one.mpr ⟨a, rfl, h⟩
    · exact (lastGroup?_two hr).mpr ⟨a, b, rfl, h⟩
    · rw [lastGroup?, if_pos hs]
      exact group?_eq_some_iff.mpr ⟨a, b, c, rfl, h⟩

theorem encode_eq_nil {bytes : Octets} : encode bytes = [] ↔ bytes = [] := by
  rcases bytes with _ | ⟨_, _ | ⟨_, _ | ⟨_, _⟩⟩⟩ <;> simp [encode]

/-- A text is read as octets exactly if it is their writing. -/
theorem decode?_eq_some_iff {cs : List Char} {bytes : Octets} :
    decode? cs = some bytes ↔ encode bytes = cs := by
  -- on the groups, as `decode?` takes them
  induction cs using decode?.induct generalizing bytes with
  | case1 => rw [encode_eq_nil, decode?, Option.some_inj, eq_comm]
  | case2 p q r s => exact lastGroup?_eq_some_iff
  | case3 p q r s rest hrest ih =>
    obtain ⟨t, rest, rfl⟩ := List.exists_cons_of_ne_nil hrest
    constructor
    · intro h
      obtain ⟨first, hfirst, h'⟩ := Option.bind_eq_some_iff.mp h
      obtain ⟨others, hothers, hbytes⟩ := Option.bind_eq_some_iff.mp h'
      obtain ⟨a, b, c, rfl, henc⟩ := group?_eq_some_iff.mp hfirst
      obtain rfl := Option.some.inj hbytes
      show encode [a, b, c] ++ encode others = [p, q, r, s] ++ t :: rest
      rw [henc, ih.mp hothers]
    · intro h
      -- text that goes on is the writing of more than two octets
      rcases bytes with _ | ⟨a, _ | ⟨b, _ | ⟨c, others⟩⟩⟩
      · cases h
      · simp [encode] at h
      · simp [encode] at h
      · have happ : encode [a, b, c] ++ encode others = [p, q, r, s] ++ t :: rest := h
        obtain ⟨henc, hothers⟩ := List.append_inj happ rfl
        exact Option.bind_eq_some_iff.mpr ⟨_, group?_eq_some_iff.mpr ⟨a, b, c, rfl, henc⟩,
          Option.bind_eq_some_iff.mpr ⟨_, ih.mpr hothers, rfl⟩⟩
  | case4 cs hnil hfour hmore =>
    constructor
    · intro h
      rcases cs with _ | ⟨_, _ | ⟨_, _ | ⟨_, _ | ⟨_, _⟩⟩⟩⟩
      · exact (hnil rfl).elim
      · cases h
      · cases h
      · cases h
      · exact (hmore _ _ _ _ _ rfl).elim
    · rintro rfl
      rcases bytes with _ | ⟨_, _ | ⟨_, _ | ⟨_, _⟩⟩⟩
      · exact (hnil rfl).elim
      · exact (hfour _ _ _ _ rfl).elim
      · exact (hfour _ _ _ _ rfl).elim
      · exact (hmore _ _ _ _ _ rfl).elim

-- The second text differs in bits that stand for no octet.
example : decode? "Zg==".toList = some [0x66] ∧ decode? "Zh==".toList = none := by decide

end Base64

-- ---------------------------------------------------------------------------
-- Words
-- ---------------------------------------------------------------------------

/-- Whether characters are a word of a text: a run without blanks that has a blank, or the end of
the text, on either side. -/
structure IsWord (word text : List Char) : Prop where
  nonempty : word ≠ []
  solid : ∀ c ∈ word, isBlank c = false
  maximal : ∃ before after, text = before ++ (word ++ after)
    ∧ (∀ c, before.getLast? = some c → isBlank c = true)
    ∧ (∀ c, after.head? = some c → isBlank c = true)

namespace IsWord

variable {word u v : List Char} {c : Char}

/-- A text without blanks has one word, unless it is empty. -/
theorem iff_of_solid (h : ∀ c ∈ u, isBlank c = false) : IsWord word u ↔ u ≠ [] ∧ word = u := by
  constructor
  · rintro ⟨hnonempty, -, before, after, rfl, hbefore, hafter⟩
    have hnil : before = [] := by
      rcases List.eq_nil_or_concat before with hnil | ⟨init, c, rfl⟩
      · exact hnil
      · have hblank := hbefore c (by simp)
        rw [h c (by simp)] at hblank
        cases hblank
    have hnil' : after = [] := by
      rcases after with _ | ⟨c, rest⟩
      · rfl
      · have hblank := hafter c rfl
        rw [h c (by simp)] at hblank
        cases hblank
    subst hnil hnil'
    simpa using hnonempty
  · rintro ⟨hnonempty, rfl⟩
    exact ⟨hnonempty, h, [], [], by simp, by simp, by simp⟩

/-- A word stays one when a blank and more text follow. -/
theorem append_left (hc : isBlank c = true) (h : IsWord word u) : IsWord word (u ++ c :: v) := by
  obtain ⟨hnonempty, hsolid, before, after, rfl, hbefore, hafter⟩ := h
  refine ⟨hnonempty, hsolid, before, after ++ c :: v, by simp, hbefore, ?_⟩
  intro d hd
  rcases after with _ | ⟨e, rest⟩
  · obtain rfl := Option.some.inj hd
    exact hc
  · exact hafter d hd

/-- A word stays one when more text and a blank come before. -/
theorem append_right (hc : isBlank c = true) (h : IsWord word v) : IsWord word (u ++ c :: v) := by
  obtain ⟨hnonempty, hsolid, before, after, rfl, hbefore, hafter⟩ := h
  refine ⟨hnonempty, hsolid, u ++ c :: before, after, by simp, ?_, hafter⟩
  intro d hd
  rcases List.eq_nil_or_concat before with rfl | ⟨init, e, rfl⟩
  · obtain rfl : c = d := by simpa using hd
    exact hc
  · refine hbefore d ?_
    rw [List.concat_eq_append, List.getLast?_append, List.getLast?_cons, List.getLast?_concat] at hd
    rw [List.concat_eq_append, List.getLast?_concat]
    exact hd

/-- A blank parts the words before it from those after it. -/
theorem append_iff (hc : isBlank c = true) :
    IsWord word (u ++ c :: v) ↔ IsWord word u ∨ IsWord word v := by
  constructor
  · rintro ⟨hnonempty, hsolid, before, after, htext, hbefore, hafter⟩
    have hout : c ∉ word := fun hmem => by
      rw [hsolid c hmem] at hc
      cases hc
    rw [← List.append_assoc] at htext
    -- The word ends before the blank, or it begins after the blank, which is not in it.
    rcases List.append_eq_append_iff.mp htext with ⟨x, hx, hv⟩ | ⟨x, hx, hv⟩
    · rcases x with _ | ⟨d, x⟩
      · refine .inl ⟨hnonempty, hsolid, before, [], by simpa using hx.symm, hbefore, by simp⟩
      · obtain ⟨rfl, rfl⟩ := List.cons.inj hv
        rcases List.append_eq_append_iff.mp hx with ⟨y, -, hword⟩ | ⟨y, hy, hword⟩
        · exact absurd (hword ▸ List.mem_append_right y List.mem_cons_self) hout
        · rcases y with _ | ⟨e, y⟩
          · exact absurd ((show c :: x = word from hword) ▸ List.mem_cons_self) hout
          · obtain ⟨rfl, rfl⟩ := List.cons.inj hword
            refine .inr ⟨hnonempty, hsolid, y, after, by simp, fun d hd => hbefore d ?_, hafter⟩
            rw [hy, List.getLast?_append, List.getLast?_cons, hd]
            rfl
    · refine .inl
        ⟨hnonempty, hsolid, before, x, by simpa using hx, hbefore, fun d hd => hafter d ?_⟩
      rw [hv, List.head?_append, hd]
      rfl
  · rintro (h | h)
    · exact h.append_left hc
    · exact h.append_right hc

end IsWord

/-- The words that are found are the words of the text. -/
theorem mem_wordsOf_iff {word text : List Char} : word ∈ wordsOf text ↔ IsWord word text := by
  suffices h : ∀ rest begun, (∀ c ∈ begun, isBlank c = false) →
      (word ∈ wordsOf.go rest begun ↔ IsWord word (begun.reverse ++ rest)) from
    h text [] (by simp)
  -- on what is left; `begun` is the word under way, in reverse
  intro rest
  induction rest with
  | nil =>
    intro begun hsolid
    rw [List.append_nil, IsWord.iff_of_solid (by simpa using hsolid), wordsOf.go]
    cases begun <;> simp
  | cons c rest ih =>
    intro begun hsolid
    rw [wordsOf.go]
    split
    · rename_i hblank
      rw [IsWord.append_iff hblank, IsWord.iff_of_solid (by simpa using hsolid)]
      have hrest := ih [] (by simp)
      cases begun with
      | nil => simpa using hrest
      | cons d begun => simpa using or_congr_right hrest
    · rename_i hsolid'
      rw [ih (c :: begun) (by simpa [hsolid'] using hsolid)]
      simp

-- ---------------------------------------------------------------------------
-- Tokens
-- ---------------------------------------------------------------------------

namespace Signature

/-- A token is cut at its first comma. -/
theorem splitToken?_eq_some_iff {token version encoded : List Char} :
    splitToken? token = some (version, encoded)
      ↔ token = version ++ ',' :: encoded ∧ ',' ∉ version := by
  constructor
  · intro h
    have hcut := token.takeWhile_append_dropWhile (p := (· ≠ ','))
    have hcomma := List.head?_dropWhile_not (· ≠ ',') token
    rw [splitToken?] at h
    cases hdrop : token.dropWhile (· ≠ ',') with
    | nil =>
      rw [hdrop] at h
      cases h
    | cons d rest =>
      rw [hdrop] at h hcut hcomma
      obtain ⟨rfl, rfl⟩ := Prod.mk.inj (Option.some.inj h)
      obtain rfl : d = ',' := by simpa using hcomma
      refine ⟨hcut.symm, fun hmem => ?_⟩
      -- what comes before the first comma has none
      have hall := List.all_eq_true.mp (List.all_takeWhile (p := (· ≠ ',')) (l := token)) ',' hmem
      simp at hall
  · rintro ⟨rfl, hversion⟩
    have hpos : ∀ c ∈ version, decide (c ≠ ',') = true := by
      rintro c hc
      simpa using fun heq : c = ',' => hversion (heq ▸ hc)
    rw [splitToken?, List.dropWhile_append_of_pos hpos, List.takeWhile_append_of_pos hpos]
    simp

/-- A token fits a code exactly if it is the version tag, a comma and the code's writing. -/
theorem tokenFits_iff {expected : Octets} {token : List Char} :
    tokenFits expected token = true
      ↔ token = signatureVersion.toList ++ ',' :: Base64.encode expected := by
  rw [tokenFits]
  constructor
  · intro h
    split at h
    · cases h
    · rename_i version encoded hsplit
      simp only [Bool.and_eq_true, decide_eq_true_eq] at h
      rw [← h.1, Base64.decode?_eq_some_iff.mp h.2]
      exact (splitToken?_eq_some_iff.mp hsplit).1
  · intro h
    rw [splitToken?_eq_some_iff.mpr ⟨h, by decide⟩]
    simp [Base64.decode?_eq_some_iff]

/-- A token is the version, a comma and the code in Base64. -/
theorem toList_token_sign (webhookId secret : String) (payload : Octets) (timestamp : Int) :
    (sign webhookId secret payload timestamp).token.toList = signatureVersion.toList
      ++ ',' :: Base64.encode (code webhookId secret payload timestamp) := by
  simp [sign]

/-- A header verifies exactly if the signature is one of its words. -/
theorem verify_iff (webhookId : String) (timestamp : Int) (payload : Octets)
    (secret header : String) :
    verify webhookId timestamp payload secret header = true
      ↔ IsWord (sign webhookId secret payload timestamp).token.toList header.toList := by
  rw [verify, List.any_eq_true, toList_token_sign, ← mem_wordsOf_iff]
  constructor
  · rintro ⟨token, hmem, hfits⟩
    rwa [← tokenFits_iff.mp hfits]
  · intro hmem
    exact ⟨_, hmem, tokenFits_iff.mpr rfl⟩

end Signature

end WebhookDelivery
