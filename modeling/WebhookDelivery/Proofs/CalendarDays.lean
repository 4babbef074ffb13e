import WebhookDelivery.Instant
import WebhookDelivery.Instant.Calendar

/-!
# Days as dates, and back

The date of a day is found by division: the cycle of four hundred years, the year in it, the month.
Of these only the year needs thought, as years differ in length. The days of a cycle are divided by
365 after the leap days before them have been taken away; what these are is estimated from the
day, by one for every 1460 days but for those of centuries. The estimate is exact where it matters:
the year found is the one whose first day is the last not after that day.

* `Date.bounds_yearOfCycle` — the year in which a day of the cycle lies.
* `Date.toDays_ofDays` — the date of a day is the date of no other.
* `Date.exists?_ofDays` — it is in the calendar.
* `Date.year_ofDays` — the years of the days that instants lie on.
-/

namespace WebhookDelivery

namespace Date

-- ---------------------------------------------------------------------------
-- Years of a cycle
-- ---------------------------------------------------------------------------

/-- Days of a cycle before the year of this number in it. -/
def daysBefore (year : Int) : Int :=
  365 * year + year / 4 - year / 100

/-- The number in its cycle of the year in which a day of the cycle lies. -/
def yearOfCycle (day : Int) : Int :=
  (day - day / 1460 + day / 36524 - day / 146096) / 365

/-- The century is found exactly. The last day of a cycle, which is a leap day, belongs to the
fourth. -/
theorem century_yearOfCycle {day : Int} (h0 : 0 ≤ day) (h1 : day ≤ 146096) :
    yearOfCycle day / 100 = day / 36524 - day / 146096 := by
  have hcentury : day / 36524 = 0 ∨ day / 36524 = 1 ∨ day / 36524 = 2 ∨ day / 36524 = 3
    ∨ day / 36524 = 4 := by omega
  unfold yearOfCycle
  rcases hcentury with h | h | h | h | h
  all_goals rw [h]; omega

/-- A day of the cycle does not lie before the year found for it, nor after it. -/
theorem bounds_yearOfCycle {day : Int} (h0 : 0 ≤ day) (h1 : day ≤ 146096) :
    0 ≤ yearOfCycle day ∧ yearOfCycle day ≤ 399 ∧ daysBefore (yearOfCycle day) ≤ day
      ∧ day < daysBefore (yearOfCycle day + 1) + (yearOfCycle day + 1) / 400 := by
  have hcentury := century_yearOfCycle h0 h1
  have hyear : yearOfCycle day = (day - day / 1460 + day / 36524 - day / 146096) / 365 := rfl
  generalize yearOfCycle day = year at hcentury hyear ⊢
  -- the quotient as two bounds, with the century found before
  have hfloor : 365 * year ≤ day - day / 1460 + year / 100 := by omega
  have hceil : day - day / 1460 + year / 100 ≤ 365 * year + 364 := by omega
  have hyears : 0 ≤ year ∧ year ≤ 399 := by omega
  -- The leap days taken away are those before the year, or those before the next.
  have hleap : year / 4 ≤ day / 1460 := by omega
  have hnext : day / 1460 ≤ (year + 1) / 4 := by omega
  unfold daysBefore
  refine ⟨hyears.1, hyears.2, by omega, ?_⟩
  -- the last year of a century ends without a leap day, but for that of the cycle
  by_cases hend : (year + 1) % 100 = 0
  · have hlast : (year + 1) / 100 = year / 100 + 1 := by omega
    by_cases hday : day = 146096
    · omega
    · have hcycle : day / 146096 = 0 := by omega
      omega
  · have hsame : (year + 1) / 100 = year / 100 := by omega
    omega

/-- Days of a year that begins in March. It ends with the leap day where the next year of the calendar
is a leap year. -/
def lengthOfYear (year : Int) : Int :=
  if isLeapYear (year + 1) then 366 else 365

theorem lengthOfYear_le (year : Int) : lengthOfYear year ≤ 366 := by
  unfold lengthOfYear
  split <;> omega

/-- The length of a year is what lies between its first day and that of the next. -/
theorem lengthOfYear_eq {cycle year : Int} (h0 : 0 ≤ year) (h1 : year ≤ 399) :
    lengthOfYear (cycle * 400 + year)
      = daysBefore (year + 1) + (year + 1) / 400 - daysBefore year := by
  have hleap : isLeapYear (cycle * 400 + year + 1) = true
      ↔ (year + 1) % 4 = 0 ∧ ((year + 1) % 100 ≠ 0 ∨ year = 399) := by
    simp only [isLeapYear, Bool.and_eq_true, Bool.or_eq_true, decide_eq_true_eq]
    omega
  unfold lengthOfYear daysBefore
  split
  · rename_i h
    have hyear := hleap.mp h
    omega
  · rename_i h
    have hyear := mt hleap.mpr h
    omega

-- ---------------------------------------------------------------------------
-- Days of a year
-- ---------------------------------------------------------------------------

/-- The date of a day of a year that begins in March. -/
def ofYear (year dayOfYear : Int) : Date :=
  let month := (5 * dayOfYear + 2) / 153
  ⟨if month < 10 then year else year + 1,
    if month < 10 then month + 3 else month - 9,
    dayOfYear - (153 * month + 2) / 5 + 1⟩

section Year

variable {year day : Int}

/-- The day of a year counts from the start of its cycle of four centuries. -/
theorem toDays_ofYear (h0 : 0 ≤ day) (h1 : day ≤ 365) :
    (ofYear year day).toDays
      = year / 400 * daysPerCycle + (daysBefore (year % 400) + day) - epochOffset := by
  have hmonth : 0 ≤ (5 * day + 2) / 153 ∧ (5 * day + 2) / 153 ≤ 11 := by omega
  unfold ofYear
  generalize (5 * day + 2) / 153 = month at hmonth
  unfold toDays daysBefore
  by_cases h : month < 10
  · have hafter : ¬ month + 3 ≤ 2 := by omega
    simp only [h, hafter, if_true, if_false, Int.add_sub_cancel]
    omega
  · have hbefore : month - 9 ≤ 2 := by omega
    simp only [h, hbefore, if_true, if_false, Int.add_sub_cancel, Int.sub_add_cancel]
    omega

/-- Each day of the year is in the calendar, the leap day in leap years only. -/
theorem exists?_ofYear (h0 : 0 ≤ day) (h1 : day < lengthOfYear year) :
    (ofYear year day).exists? = true := by
  have hle := lengthOfYear_le year
  have hlast : ¬ isLeapYear (year + 1) = true → day ≤ 364 := by
    intro hleap
    rw [lengthOfYear, if_neg hleap] at h1
    omega
  -- which of the twelve months it is, counted from March
  have hmonth : (5 * day + 2) / 153 = 11 ∨ (5 * day + 2) / 153 = 0 ∨ (5 * day + 2) / 153 = 1
      ∨ (5 * day + 2) / 153 = 2 ∨ (5 * day + 2) / 153 = 3 ∨ (5 * day + 2) / 153 = 4
      ∨ (5 * day + 2) / 153 = 5 ∨ (5 * day + 2) / 153 = 6 ∨ (5 * day + 2) / 153 = 7
      ∨ (5 * day + 2) / 153 = 8 ∨ (5 * day + 2) / 153 = 9 ∨ (5 * day + 2) / 153 = 10 := by
    omega
  unfold ofYear
  rcases hmonth with h | h | h | h | h | h | h | h | h | h | h | h
  · -- February, the last month of such a year.
    rw [h]
    simp [exists?, daysInMonth]
    split
    · omega
    · rename_i hleap
      have hday := hlast hleap
      omega
  all_goals
    rw [h]
    simp [exists?, daysInMonth]
    omega

end Year

-- ---------------------------------------------------------------------------
-- Days
-- ---------------------------------------------------------------------------

/-- The year and the day of the year in which a day lies. -/
theorem exists_ofYear (days : Int) : ∃ cycle year day : Int,
    ofDays days = ofYear (cycle * 400 + year) day
      ∧ days + epochOffset = cycle * daysPerCycle + (daysBefore year + day)
      ∧ 0 ≤ year ∧ year ≤ 399 ∧ 0 ≤ day
      ∧ day < lengthOfYear (cycle * 400 + year) := by
  -- the day within its cycle, where the bounds apply
  have hday0 : 0 ≤ (days + epochOffset) % daysPerCycle := Int.emod_nonneg _ (by decide)
  have hday1 : (days + epochOffset) % daysPerCycle < daysPerCycle :=
    Int.emod_lt_of_pos _ (by decide)
  obtain ⟨hyear0, hyear1, hstart, hend⟩ :=
    bounds_yearOfCycle hday0 (Int.le_sub_one_of_lt hday1)
  refine ⟨(days + epochOffset) / daysPerCycle, yearOfCycle ((days + epochOffset) % daysPerCycle),
    (days + epochOffset) % daysPerCycle
      - daysBefore (yearOfCycle ((days + epochOffset) % daysPerCycle)),
    rfl, ?_, hyear0, hyear1, by omega, ?_⟩
  · have hsplit := Int.mul_ediv_add_emod (days + epochOffset) daysPerCycle
    rw [Int.mul_comm] at hsplit
    omega
  · rw [lengthOfYear_eq hyear0 hyear1]
    omega

/-- The date of a day is the date of no other. -/
theorem toDays_ofDays (days : Int) : (ofDays days).toDays = days := by
  obtain ⟨cycle, year, day, hdate, hdays, hyear0, hyear1, hday0, hday1⟩ := exists_ofYear days
  have hlength := lengthOfYear_le (cycle * 400 + year)
  have hcycle : (cycle * 400 + year) / 400 = cycle := by omega
  have hyear : (cycle * 400 + year) % 400 = year := by omega
  rw [hdate, toDays_ofYear hday0 (by omega), hcycle, hyear]
  omega

/-- The date of a day is in the calendar. -/
theorem exists?_ofDays (days : Int) : (ofDays days).exists? = true := by
  obtain ⟨cycle, year, day, hdate, -, -, -, hday0, hday1⟩ := exists_ofYear days
  rw [hdate]
  exact exists?_ofYear hday0 hday1

/-- A date in the calendar is written with two digits for its month and two for its day. -/
theorem bounds_of_exists? {d : Date} (h : d.exists? = true) :
    1 ≤ d.month ∧ d.month ≤ 12 ∧ 1 ≤ d.day ∧ d.day ≤ 31 := by
  simp only [exists?, Bool.and_eq_true, decide_eq_true_eq] at h
  obtain ⟨⟨⟨hmonth1, hmonth12⟩, hday1⟩, hlength⟩ := h
  have hlongest : daysInMonth d.year d.month ≤ 31 := by
    unfold daysInMonth
    split <;> split <;> omega
  exact ⟨hmonth1, hmonth12, hday1, Int.le_trans hlength hlongest⟩

/-- The years between the first day of an instant and the last. -/
theorem year_ofDays {days : Int} (h0 : -96465292 ≤ days) (h1 : days ≤ 95026236) :
    -262143 ≤ (ofDays days).year ∧ (ofDays days).year ≤ 262142 := by
  obtain ⟨cycle, year, day, hdate, hdays, hyear0, hyear1, hday0, hday1⟩ := exists_ofYear days
  have hlength := lengthOfYear_le (cycle * 400 + year)
  have hleap : 0 ≤ year / 4 - year / 100 ∧ year / 4 - year / 100 ≤ 96 := by omega
  unfold epochOffset daysPerCycle daysBefore at hdays
  rw [hdate]
  unfold ofYear
  dsimp only
  split
  · omega
  · -- January and February of the year after the last are beyond the last day.
    have hcycle : cycle ≤ 655 := by omega
    have hlast : cycle = 655 → year ≤ 141 := by omega
    omega

end Date

end WebhookDelivery
