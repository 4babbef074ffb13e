import WebhookDelivery.Instant.Rfc3339
import WebhookDelivery.Proofs.CalendarDays
import WebhookDelivery.Proofs.Digits
import WebhookDelivery.Proofs.Separators

/-!
# Instants written and read back

The text of an instant is read as this instant, to the nanosecond and in every year, unless it lies
in a leap second that is out of place. The reader is lenient and the text leaves it no choice: each
number has the most digits that the reader takes, or is followed by a mark that is no digit.

A leap second is written as the second 60 and read as the second 59 with its fraction beyond one
second. After any other second it is written like the second that follows, and read as that; so the
texts do not tell the two apart. What a text is read as is `Instant.shown` in any case.

* `Rfc3339.number?_append` — digits before a text that begins with none are read as their number.
* `Rfc3339.year?_yearText`, `Rfc3339.fraction?_fractionText` — years and fractions.
* `Rfc3339.assemble?_parts` — the parts of an instant make up what it is shown as.
* `Instant.ofText?_text` — so is its text read.
* `Instant.shown_eq_iff` — which instants are shown as they are.
-/

namespace WebhookDelivery

/-- A reader goes on with what it has read. This is `Option.bind_some` for the notation. In terms of
`Option.bind` long readers are costly, as `simp` goes through what follows anew after each part. -/
theorem some_bind {α β : Type} (a : α) (rest : α → Option β) : (some a >>= rest) = rest a :=
  rfl

namespace Rfc3339

-- ---------------------------------------------------------------------------
-- Numbers
-- ---------------------------------------------------------------------------

section Number

variable {least most : Nat} {digits rest : List Char}

/-- Digits are read as their number, up to where no digit may follow or none does. -/
theorem number?_append (hdigits : ∀ c ∈ digits, Decimal.isDigit c = true)
    (hleast : least ≤ digits.length) (hmost : digits.length ≤ most)
    (hrest : digits.length = most ∨ ∀ c ∈ rest.head?, Decimal.isDigit c = false) :
    number? least most (digits ++ rest) = some (Decimal.read digits, rest) := by
  have htake : ((digits ++ rest).take most).takeWhile Decimal.isDigit = digits := by
    rw [List.take_append, List.take_of_length_le hmost]
    refine takeWhile_until hdigits ?_
    rcases hrest with hfull | hmark
    · simp [hfull]
    · intro c hc
      rw [List.head?_take] at hc
      split at hc
      · cases hc
      · exact hmark c hc
  rw [number?, htake, if_neg (Nat.not_lt.mpr hleast), List.drop_left]

/-- A digit is not blank. -/
theorem isBlank_of_isDigit {c : Char} (h : Decimal.isDigit c = true) : isBlank c = false := by
  have hbounds : '0'.toNat ≤ c.toNat ∧ c.toNat ≤ '9'.toNat := by
    simpa [Decimal.isDigit, Char.le_def, UInt32.le_iff_toNat_le] using h
  have hzero : '0'.toNat = 48 := rfl
  have hnine : '9'.toNat = 57 := rfl
  simp [isBlank]
  omega

theorem skipBlanks_cons {c : Char} (h : isBlank c = false) : skipBlanks (c :: rest) = c :: rest :=
  List.dropWhile_cons_of_neg (by simp [h])

/-- Nothing is skipped before a digit. -/
theorem skipBlanks_append (hne : digits ≠ [])
    (hdigits : ∀ c ∈ digits, Decimal.isDigit c = true) :
    skipBlanks (digits ++ rest) = digits ++ rest := by
  obtain ⟨c, more, rfl⟩ := List.exists_cons_of_ne_nil hne
  exact skipBlanks_cons (isBlank_of_isDigit (hdigits c List.mem_cons_self))

/-- A mark is found where it stands. -/
theorem mark?_skipBlanks {c : Char} (h : isBlank c = false) :
    mark? c (skipBlanks (c :: rest)) = some rest := by
  rw [skipBlanks_cons h, mark?, if_pos rfl]

/-- Two digits are read as their number whatever follows. -/
theorem field?_lowDigits {n : Nat} (h : n < 100) (rest : List Char) :
    field? 1 2 (Decimal.lowDigits 2 n ++ rest) = some (n, rest) := by
  have hlength := Decimal.length_lowDigits 2 n
  have hread : Decimal.read (Decimal.lowDigits 2 n) = n :=
    (Decimal.read_lowDigits 2 n).trans (Nat.mod_eq_of_lt h)
  have hne : Decimal.lowDigits 2 n ≠ [] := List.ne_nil_of_length_eq_add_one hlength
  rw [field?, skipBlanks_append hne fun _ => Decimal.isDigit_of_mem_lowDigits,
    number?_append (fun _ => Decimal.isDigit_of_mem_lowDigits) (by omega) (by omega)
      (.inl hlength), hread]

end Number

-- ---------------------------------------------------------------------------
-- Years
-- ---------------------------------------------------------------------------

theorem year?_minus (cs : List Char) :
    year? ('-' :: cs) = (number? 1 cs.length cs).map fun read => (-(read.1 : Int), read.2) :=
  rfl

theorem year?_plus (cs : List Char) :
    year? ('+' :: cs) = (number? 1 cs.length cs).map fun read => ((read.1 : Int), read.2) :=
  rfl

/-- A year without a sign has four digits. -/
theorem year?_of_isDigit {c : Char} {cs : List Char} (h : Decimal.isDigit c = true) :
    year? (c :: cs) = (number? 1 4 (c :: cs)).map fun read => ((read.1 : Int), read.2) := by
  rw [year?, skipBlanks_cons (isBlank_of_isDigit h)]
  split
  · rename_i heq
    obtain ⟨rfl, -⟩ := List.cons.inj heq
    cases h
  · rename_i heq
    obtain ⟨rfl, -⟩ := List.cons.inj heq
    cases h
  · rfl

/-- The digits of a year are read up to the hyphen. -/
theorem number?_padded {n most : Nat} (rest : List Char)
    (hmost : (Decimal.padded 4 n).length ≤ most) :
    number? 1 most (Decimal.padded 4 n ++ '-' :: rest) = some (n, '-' :: rest) := by
  have hleast : 1 ≤ (Decimal.padded 4 n).length :=
    List.length_pos_iff.mpr (Decimal.padded_ne_nil 4 n)
  have hmark : ∀ c ∈ ('-' :: rest).head?, Decimal.isDigit c = false := by
    intro c hc
    obtain rfl : '-' = c := Option.some.inj hc
    decide
  rw [number?_append (fun _ => Decimal.isDigit_of_mem_padded) hleast hmost (.inr hmark),
    Decimal.read_padded]

/-- A year is read back from its text. -/
theorem year?_yearText (year : Int) (rest : List Char) :
    year? (yearText year ++ '-' :: rest) = some (year, '-' :: rest) := by
  unfold yearText
  split
  · rename_i hyear
    -- four digits and no sign, or a sign and as many digits as it takes
    have hlength : (Decimal.padded 4 year.toNat).length = 4 :=
      Decimal.length_padded (by decide) (show year.toNat < 10000 by omega)
    have hnumber := number?_padded rest (Nat.le_of_eq hlength)
    obtain ⟨c, cs, hcs⟩ := List.exists_cons_of_ne_nil (Decimal.padded_ne_nil 4 year.toNat)
    have hdigit : Decimal.isDigit c = true :=
      Decimal.isDigit_of_mem_padded (hcs ▸ List.mem_cons_self)
    rw [hcs, List.cons_append] at hnumber ⊢
    rw [year?_of_isDigit hdigit, hnumber, Option.map_some, Int.toNat_of_nonneg hyear.1]
  · have hnumber : number? 1 (Decimal.padded 4 year.natAbs ++ '-' :: rest).length
        (Decimal.padded 4 year.natAbs ++ '-' :: rest) = some (year.natAbs, '-' :: rest) :=
      number?_padded rest (by simp)
    split
    · rename_i hneg
      rw [List.cons_append, year?_minus, hnumber, Option.map_some,
        show -(year.natAbs : Int) = year by omega]
    · rename_i hpos
      rw [List.cons_append, year?_plus, hnumber, Option.map_some,
        show (year.natAbs : Int) = year by omega]

-- ---------------------------------------------------------------------------
-- Fractions
-- ---------------------------------------------------------------------------

/-- A fraction with so many digits is read as what it is in nanoseconds. -/
theorem fraction?_lowDigits {count n : Nat} (h0 : 0 < count) (h9 : count ≤ 9)
    (h : n < Nat.pow 10 count) :
    fraction? ('.' :: Decimal.lowDigits count n ++ ['Z'])
      = some (n * Nat.pow 10 (9 - count), ['Z']) := by
  have hlength := Decimal.length_lowDigits count n
  have hnumber : number? 1 9 (Decimal.lowDigits count n ++ ['Z']) = some (n, ['Z']) := by
    rw [number?_append (fun _ => Decimal.isDigit_of_mem_lowDigits) (by omega) (by omega)
      (.inr fun c hc => by cases hc; decide), Decimal.read_lowDigits, Nat.mod_eq_of_lt h]
  have hused : (Decimal.lowDigits count n ++ ['Z']).length - ['Z'].length = count := by
    simp [hlength]
  rw [List.cons_append, fraction?, hnumber, Option.map_some]
  dsimp only
  rw [hused]
  rfl

/-- Nanoseconds are read back from the fraction that they are written as. -/
theorem fraction?_fractionText {n : Nat} (h : n < 1000000000) :
    fraction? (fractionText n ++ ['Z']) = some (n, ['Z']) := by
  unfold fractionText
  -- none, three, six or nine digits
  split
  · rename_i hzero
    rw [hzero]
    rfl
  · split
    · rw [fraction?_lowDigits (by decide) (by decide) (show n / 1000000 < 1000 by omega)]
      rw [show n / 1000000 * Nat.pow 10 (9 - 3) = n by
        show n / 1000000 * 1000000 = n
        omega]
    · split
      · rw [fraction?_lowDigits (by decide) (by decide) (show n / 1000 < 1000000 by omega)]
        rw [show n / 1000 * Nat.pow 10 (9 - 6) = n by
          show n / 1000 * 1000 = n
          omega]
      · rw [fraction?_lowDigits (by decide) (by decide) (show n < 1000000000 from h)]
        rw [show n * Nat.pow 10 (9 - 9) = n from Nat.mul_one n]

-- ---------------------------------------------------------------------------
-- Dates and times
-- ---------------------------------------------------------------------------

end Rfc3339

namespace Instant

/-- Whether a leap second comes after the second 59 of its minute, if the instant is in one. -/
def IsRegular (t : Instant) : Prop :=
  1000000000 ≤ t.nanos → t.seconds % 60 = 59

instance (t : Instant) : Decidable t.IsRegular :=
  inferInstanceAs (Decidable (_ → _))

/-- The instant that the text of an instant shows: a leap second that is out of place looks like the
second that follows it. There is one, as the last second of the calendar ends its minute. -/
def shown (t : Instant) : Instant :=
  if h : t.IsRegular then t
  else
    { seconds := t.seconds + 1
      nanos := t.nanos - 1000000000
      seconds_ge := by have := t.seconds_ge; omega
      seconds_le := by
        have := t.seconds_le
        rw [IsRegular, Classical.not_imp] at h
        omega
      nanos_lt := by have := t.nanos_lt; omega }

/-- Out of place, what goes beyond the second is carried into the seconds. -/
theorem seconds_shown (t : Instant) :
    t.shown.seconds = if t.IsRegular then t.seconds else t.seconds + 1 := by
  rw [shown]
  split <;> rfl

/-- A leap second out of place is shown as part of the second that follows. -/
theorem nanos_shown (t : Instant) :
    t.shown.nanos = if t.IsRegular then t.nanos else t.nanos - 1000000000 := by
  rw [shown]
  split <;> rfl

/-- An instant is shown as it is unless it lies in a leap second out of place. -/
theorem shown_eq_iff (t : Instant) : t.shown = t ↔ t.IsRegular := by
  rw [shown]
  split
  · rename_i h
    exact ⟨fun _ => h, fun _ => rfl⟩
  · rename_i h
    refine ⟨fun heq => ?_, fun h' => absurd h' h⟩
    have hseconds : t.seconds + 1 = t.seconds := congrArg Instant.seconds heq
    omega

theorem shown_of_isRegular {t : Instant} (h : t.IsRegular) : t.shown = t :=
  t.shown_eq_iff.mpr h

end Instant

namespace Rfc3339

/-- The parts of an instant make up what it is shown as. -/
theorem assemble?_parts (t : Instant) :
    assemble? (Date.ofDays (t.seconds / 86400)) ((t.seconds % 86400).toNat / 3600)
      ((t.seconds % 86400).toNat / 60 % 60)
      ((t.seconds % 86400).toNat % 60 + t.nanos / 1000000000) (t.nanos % 1000000000) 0
      = some t.shown := by
  have hge := t.seconds_ge
  have hle := t.seconds_le
  have hnanos := t.nanos_lt
  have hexists := Date.exists?_ofDays (t.seconds / 86400)
  have hyear : -262143 ≤ (Date.ofDays (t.seconds / 86400)).year
      ∧ (Date.ofDays (t.seconds / 86400)).year ≤ 262142 :=
    Date.year_ofDays (by omega) (by omega)
  have hday := Date.toDays_ofDays (t.seconds / 86400)
  have hofDay : ((t.seconds % 86400).toNat : Int) = t.seconds % 86400 := by omega
  generalize (t.seconds % 86400).toNat = ofDay at hofDay
  -- each part of the time of day is in its range
  have hhour : ¬ 24 ≤ ofDay / 3600 := by omega
  have hminute : ¬ 60 ≤ ofDay / 60 % 60 := by omega
  have hsecond : ¬ 61 ≤ ofDay % 60 + t.nanos / 1000000000 := by omega
  unfold assemble?
  rw [if_neg (by simp [hexists, hhour, hminute, hsecond]), if_neg (by omega), if_neg (by decide)]
  dsimp only
  -- The second is written as 60 in a leap second that ends its minute, and in no other case.
  by_cases h : 1000000000 ≤ t.nanos ∧ t.seconds % 60 = 59
  · have hlast : ofDay % 60 + t.nanos / 1000000000 = 60 := by omega
    have hseconds : (Date.ofDays (t.seconds / 86400)).toDays * 86400
        + ((ofDay / 3600 : Nat) * 3600 + (ofDay / 60 % 60 : Nat) * 60 + (59 : Nat) : Int) - 0
        = t.seconds := by omega
    have hfraction : t.nanos % 1000000000 + 1000000000 = t.nanos := by omega
    rw [if_pos hlast, if_pos hlast, hseconds, hfraction, Instant.of?_self,
      Instant.shown_of_isRegular fun _ => h.2]
  · have hlast : ¬ ofDay % 60 + t.nanos / 1000000000 = 60 := by omega
    -- A leap second is out of place here, and what goes beyond it is carried into the seconds.
    have hregular : t.IsRegular ↔ t.nanos < 1000000000 := by
      rw [Instant.IsRegular]
      omega
    have hseconds : (Date.ofDays (t.seconds / 86400)).toDays * 86400
        + ((ofDay / 3600 : Nat) * 3600 + (ofDay / 60 % 60 : Nat) * 60
          + (ofDay % 60 + t.nanos / 1000000000 : Nat) : Int) - 0 = t.shown.seconds := by
      simp only [t.seconds_shown, hregular]
      split <;> omega
    have hfraction : t.nanos % 1000000000 = t.shown.nanos := by
      simp only [t.nanos_shown, hregular]
      split <;> omega
    rw [if_neg hlast, if_neg hlast, hseconds, hfraction, Instant.of?_self]

end Rfc3339

namespace Instant

open Rfc3339

/-- Parts that are written one after the other are read as these parts. -/
theorem read?_parts {date : Date} {hour minute second nanos : Nat} (hdate : date.exists? = true)
    (hhour : hour < 100) (hminute : minute < 100) (hsecond : second < 100)
    (hnanos : nanos < 1000000000) :
    read? (yearText date.year ++ '-' :: Decimal.lowDigits 2 date.month.toNat
        ++ '-' :: Decimal.lowDigits 2 date.day.toNat ++ 'T' :: Decimal.lowDigits 2 hour
        ++ ':' :: Decimal.lowDigits 2 minute ++ ':' :: Decimal.lowDigits 2 second
        ++ fractionText nanos ++ ['Z'])
      = assemble? date hour minute second nanos 0 := by
  obtain ⟨hmonth1, hmonth12, hday1, hday31⟩ := Date.bounds_of_exists? hdate
  have hmonth := field?_lowDigits (n := date.month.toNat) (by omega)
  have hday := field?_lowDigits (n := date.day.toNat) (by omega)
  have hmark : isBlank '-' = false ∧ isBlank ':' = false := by decide
  have hoffset : offset? (skipBlanks ['Z']) = some (0, []) := by decide
  have hseparator : ¬ ('T' ≠ 'T' ∧ 'T' ≠ 't' ∧ 'T' ≠ ' ') := fun h => h.1 rfl
  have hend : ¬ skipBlanks [] ≠ [] := fun h => h rfl
  unfold read?
  simp only [List.append_assoc, List.cons_append, some_bind, year?_yearText,
    mark?_skipBlanks hmark.1, mark?_skipBlanks hmark.2, hmonth, hday, field?_lowDigits hhour,
    field?_lowDigits hminute, field?_lowDigits hsecond, fraction?_fractionText hnanos, hoffset]
  rw [if_neg hseparator, if_neg hend, Int.toNat_of_nonneg (by omega),
    Int.toNat_of_nonneg (by omega)]

/-- The characters of an instant are read as what it is shown as. -/
theorem read?_chars (t : Instant) : read? t.chars = some t.shown := by
  have hnanos := t.nanos_lt
  have hofDay : (t.seconds % 86400).toNat < 86400 := by omega
  rw [chars, read?_parts (Date.exists?_ofDays _) (by omega) (by omega) (by omega) (by omega),
    assemble?_parts]

/-- The text of an instant is read as what it is shown as. -/
theorem ofText?_text (t : Instant) : ofText? t.text = some t.shown := by
  rw [ofText?, text, String.toList_ofList, read?_chars]

/-- Half a second into the last leap second that an instant can have. -/
example : text ⟨8210266876799, 1500000000, by decide, by decide, by decide⟩
    = "+262142-12-31T23:59:60.500Z" := by
  decide

end Instant

end WebhookDelivery
