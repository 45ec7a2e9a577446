import Mathlib.Tactic.IntervalCases
import Mathlib.Algebra.Order.BigOperators.Group.List
import StorageReply.Calendar

/-!
# One day after another

The calendar is counted in days, and a day number is taken apart again to find its date. Here both
directions are compared with the rule by which a calendar is read: the next day is the next one of
the month, or else the first of the next month, or else 1 January of the next year (`Date.next`,
and `Date.prev` for the way back).

* `toDayNumber_next`, `toDayNumber_prev`: the count goes up and down by one, over the ends of
  months and years and over leap days.
* `ofDayNumber_toDayNumber`: the date of the day number of a date is that date.
* `inRange_iff_year`: the seconds that a time may have are those of the years 1 to 9999.
-/

namespace StorageReply

namespace Calendar

/-! ## The lengths of months and years -/

/-- The number of days of a year. -/
def yearLength (year : Int) : Nat := if isLeap year then 366 else 365

theorem isLeap_iff {year : Int} :
    isLeap year = true ↔ year % 4 = 0 ∧ (year % 100 ≠ 0 ∨ year % 400 = 0) := by
  simp [isLeap]

theorem yearLength_eq (year : Int) :
    (isLeap year = true ∧ yearLength year = 366) ∨ isLeap year ≠ true ∧ yearLength year = 365 := by
  unfold yearLength
  cases isLeap year <;> simp

theorem daysBeforeYear_succ (year : Int) :
    daysBeforeYear (year + 1) = daysBeforeYear year + yearLength year := by
  have hlength := yearLength_eq year
  simp only [ne_eq, isLeap_iff] at hlength
  simp only [daysBeforeYear]
  omega

theorem monthLength_eq {year : Int} {month : Nat} (h : 1 ≤ month) :
    monthLength year month = (monthLengths year).getD (month - 1) 0 :=
  if_neg (by omega)

theorem monthLength_pos {year : Int} {month : Nat} (hlow : 1 ≤ month) (hhigh : month ≤ 12) :
    1 ≤ monthLength year month := by
  unfold monthLength monthLengths
  interval_cases month <;> cases isLeap year <;> decide

theorem daysBeforeMonth_eq (year : Int) (month : Nat) :
    daysBeforeMonth year month = ((monthLengths year).take (month - 1)).sum := rfl

theorem daysBeforeMonth_succ (year : Int) {month : Nat} (hlow : 1 ≤ month) (hhigh : month ≤ 12) :
    daysBeforeMonth year (month + 1) = daysBeforeMonth year month + monthLength year month := by
  have hindex : month - 1 < (monthLengths year).length := by
    rw [show (monthLengths year).length = 12 from rfl]
    omega
  have hlength : monthLength year month = (monthLengths year)[month - 1] := by
    rw [monthLength_eq hlow, List.getD_eq_getElem?_getD, List.getElem?_eq_getElem hindex,
      Option.getD_some]
  rw [daysBeforeMonth_eq, daysBeforeMonth_eq, hlength, ← List.sum_take_succ _ _ hindex,
    Nat.sub_add_cancel hlow, Nat.add_sub_cancel]

/-- The twelve months together have the days of the year. -/
theorem daysBeforeMonth_thirteen (year : Int) : daysBeforeMonth year 13 = yearLength year := by
  rw [daysBeforeMonth_eq, monthLengths, yearLength]
  split <;> rfl

theorem daysBeforeMonth_add_monthLength_le (year : Int) {month : Nat} (hlow : 1 ≤ month)
    (hhigh : month ≤ 12) :
    daysBeforeMonth year month + monthLength year month ≤ yearLength year := by
  rw [← daysBeforeMonth_succ year hlow hhigh, ← daysBeforeMonth_thirteen, daysBeforeMonth_eq,
    daysBeforeMonth_eq]
  exact (List.take_sublist_take_left (by omega)).sum_le_sum fun _ _ => Nat.zero_le _

/-! ## The next day -/

namespace Date

/-- A date of the calendar, in whatever year. -/
structure OnCalendar (d : Date) : Prop where
  /-- Months are counted from one. -/
  month_pos : 1 ≤ d.month
  /-- There are twelve months. -/
  month_le : d.month ≤ 12
  /-- Days are counted from one. -/
  day_pos : 1 ≤ d.day
  /-- The month has the day. -/
  day_le : d.day ≤ monthLength d.year d.month

theorem isValid_iff {d : Date} :
    d.isValid = true ↔ d.OnCalendar ∧ 1 ≤ d.year ∧ d.year ≤ 9999 := by
  simp only [isValid, Bool.and_eq_true, decide_eq_true_eq]
  constructor
  · rintro ⟨⟨⟨⟨⟨hfirst, hlast⟩, hpos⟩, hle⟩, hday⟩, hlength⟩
    exact ⟨⟨hpos, hle, hday, hlength⟩, hfirst, hlast⟩
  · rintro ⟨⟨hpos, hle, hday, hlength⟩, hfirst, hlast⟩
    exact ⟨⟨⟨⟨⟨hfirst, hlast⟩, hpos⟩, hle⟩, hday⟩, hlength⟩

/-- The day after a date. -/
def next : Date → Date
  | ⟨year, month, day⟩ =>
    if day < monthLength year month then ⟨year, month, day + 1⟩
    else if month < 12 then ⟨year, month + 1, 1⟩
    else ⟨year + 1, 1, 1⟩

/-- The day before a date. -/
def prev : Date → Date
  | ⟨year, month, day⟩ =>
    if 1 < day then ⟨year, month, day - 1⟩
    else if 1 < month then ⟨year, month - 1, monthLength year (month - 1)⟩
    else ⟨year - 1, 12, monthLength (year - 1) 12⟩

variable {d : Date}

theorem onCalendar_mk {year : Int} {month day : Nat} :
    (⟨year, month, day⟩ : Date).OnCalendar ↔
      (1 ≤ month ∧ month ≤ 12) ∧ 1 ≤ day ∧ day ≤ monthLength year month :=
  ⟨fun h => ⟨⟨h.month_pos, h.month_le⟩, h.day_pos, h.day_le⟩,
    fun ⟨⟨hpos, hle⟩, hday, hlength⟩ => ⟨hpos, hle, hday, hlength⟩⟩

/-- The last day of a month. -/
theorem onCalendar_last {year : Int} {month : Nat} (hlow : 1 ≤ month) (hhigh : month ≤ 12) :
    (⟨year, month, monthLength year month⟩ : Date).OnCalendar :=
  ⟨hlow, hhigh, monthLength_pos hlow hhigh, Nat.le_refl _⟩

/-- The first day of a month. -/
theorem onCalendar_first {year : Int} {month : Nat} (hlow : 1 ≤ month) (hhigh : month ≤ 12) :
    (⟨year, month, 1⟩ : Date).OnCalendar :=
  ⟨hlow, hhigh, Nat.le_refl _, monthLength_pos hlow hhigh⟩

theorem OnCalendar.next (h : d.OnCalendar) : d.next.OnCalendar := by
  obtain ⟨year, month, day⟩ := d
  obtain ⟨⟨hpos, hle⟩, hday, hlength⟩ := onCalendar_mk.1 h
  rw [Date.next]
  split
  · exact onCalendar_mk.2 ⟨⟨hpos, hle⟩, by omega, by omega⟩
  split
  · exact onCalendar_first (by omega) (by omega)
  · exact onCalendar_first (by decide) (by decide)

theorem OnCalendar.prev (h : d.OnCalendar) : d.prev.OnCalendar := by
  obtain ⟨year, month, day⟩ := d
  obtain ⟨⟨hpos, hle⟩, hday, hlength⟩ := onCalendar_mk.1 h
  rw [Date.prev]
  split
  · exact onCalendar_mk.2 ⟨⟨hpos, hle⟩, by omega, by omega⟩
  split
  · exact onCalendar_last (by omega) (by omega)
  · exact onCalendar_last (by decide) (by decide)

theorem toDayNumber_mk (year : Int) (month day : Nat) :
    (⟨year, month, day⟩ : Date).toDayNumber =
      daysBeforeYear year + daysBeforeMonth year month + (day - 1 : Int) - epochDay := rfl

/-- The day after the last one of December is 1 January. -/
theorem toDayNumber_newYear (year : Int) :
    (⟨year + 1, 1, 1⟩ : Date).toDayNumber =
      (⟨year, 12, monthLength year 12⟩ : Date).toDayNumber + 1 := by
  have hyear := daysBeforeYear_succ year
  have hmonths := daysBeforeMonth_thirteen year
  have hfirst : daysBeforeMonth (year + 1) 1 = 0 := rfl
  rw [daysBeforeMonth_succ year (by decide) (by decide)] at hmonths
  rw [toDayNumber_mk, toDayNumber_mk]
  omega

/-- The day after the last one of another month is the first of the next. -/
theorem toDayNumber_newMonth (year : Int) {month : Nat} (hlow : 1 ≤ month) (hhigh : month ≤ 12) :
    (⟨year, month + 1, 1⟩ : Date).toDayNumber =
      (⟨year, month, monthLength year month⟩ : Date).toDayNumber + 1 := by
  have hmonth := daysBeforeMonth_succ year hlow hhigh
  rw [toDayNumber_mk, toDayNumber_mk]
  omega

/-- **The next day** has the next number. -/
theorem toDayNumber_next (h : d.OnCalendar) : d.next.toDayNumber = d.toDayNumber + 1 := by
  obtain ⟨year, month, day⟩ := d
  obtain ⟨⟨hpos, hle⟩, hday, hlength⟩ := onCalendar_mk.1 h
  rw [next]
  split
  · rw [toDayNumber_mk, toDayNumber_mk]
    omega
  · obtain rfl : day = monthLength year month := by omega
    split
    · exact toDayNumber_newMonth year hpos hle
    · obtain rfl : month = 12 := by omega
      exact toDayNumber_newYear year

/-- **The day before** has the number before. -/
theorem toDayNumber_prev (h : d.OnCalendar) : d.prev.toDayNumber = d.toDayNumber - 1 := by
  obtain ⟨year, month, day⟩ := d
  obtain ⟨⟨hpos, hle⟩, hday, hlength⟩ := onCalendar_mk.1 h
  rw [prev]
  split
  · rw [toDayNumber_mk, toDayNumber_mk]
    omega
  · obtain rfl : day = 1 := by omega
    split
    · have hnew := toDayNumber_newMonth year (show 1 ≤ month - 1 by omega) (by omega)
      rw [Nat.sub_add_cancel hpos] at hnew
      omega
    · obtain rfl : month = 1 := by omega
      have hnew := toDayNumber_newYear (year - 1)
      rw [Int.sub_add_cancel] at hnew
      omega

/-! ## The date of a day number -/

end Date

theorem monthOfDay_take {lengths : List Nat} {i : Nat} (k : Nat) {t : Nat}
    (ht : t < lengths.getD i 0) :
    monthOfDay k ((lengths.take i).sum + t) lengths = (k + i, t + 1) := by
  induction lengths generalizing k i with
  | nil => simp at ht
  | cons length rest ih =>
    cases i with
    | zero =>
      have hfirst : t < length := by simpa using ht
      simp [monthOfDay, hfirst]
    | succ i =>
      have hrest := ih (i := i) (k + 1) (by simpa using ht)
      have hlater : ¬ length + (rest.take i).sum + t < length := by omega
      rw [List.take_succ_cons, List.sum_cons, monthOfDay, if_neg hlater,
        show length + (rest.take i).sum + t - length = (rest.take i).sum + t by omega, hrest]
      congr 1
      omega

/-- A month and a day are found again from the day of the year. -/
theorem monthOfDay_daysBeforeMonth {d : Date} (h : d.OnCalendar) :
    monthOfDay 1 (daysBeforeMonth d.year d.month + (d.day - 1)) (monthLengths d.year) =
      (d.month, d.day) := by
  obtain ⟨hpos, hle, hday, hlength⟩ := h
  rw [monthLength_eq hpos] at hlength
  rw [daysBeforeMonth_eq, monthOfDay_take 1 (by omega)]
  congr 1 <;> omega

/-- The year of a day number, and the day in it counted from zero. -/
def yearOfDay (n : Int) : Int × Nat :=
  let k := n + epochDay
  let day := (k % 146097).toNat
  let centuries := min (day / 36524) 3
  let day := day - centuries * 36524
  let fours := day / 1461
  let day := day % 1461
  let ones := min (day / 365) 3
  (400 * (k / 146097) + 100 * centuries + 4 * fours + ones + 1, day - ones * 365)

theorem ofDayNumber_eq (n : Int) :
    Date.ofDayNumber n =
      ⟨(yearOfDay n).1, (monthOfDay 1 (yearOfDay n).2 (monthLengths (yearOfDay n).1)).1,
        (monthOfDay 1 (yearOfDay n).2 (monthLengths (yearOfDay n).1)).2⟩ := by
  simp only [Date.ofDayNumber, yearOfDay]

/-- Four hundred years repeat: a day of this cycle belongs to one of four centuries, there to one of
up to twenty-five spans of four years, and there to one of four years. Only the last year of a span
can have a 366th day. -/
theorem parts_of_day (centuries fours ones t : Nat) (hcenturies : centuries < 4)
    (hfours : fours < 25) (hones : ones < 4)
    (ht : t < 365 ∨ t = 365 ∧ ones = 3 ∧ (fours ≠ 24 ∨ centuries = 3)) :
    let day := 36524 * centuries + 1461 * fours + 365 * ones + t
    day < 146097 ∧ min (day / 36524) 3 = centuries ∧ (day - centuries * 36524) / 1461 = fours ∧
      min ((day - centuries * 36524) % 1461 / 365) 3 = ones ∧
      (day - centuries * 36524) % 1461 - ones * 365 = t := by
  intro day
  have hspan : day - centuries * 36524 = 1461 * fours + (365 * ones + t) := by omega
  have hfour : (day - centuries * 36524) / 1461 = fours := by omega
  have hrest : (day - centuries * 36524) % 1461 = 365 * ones + t := by omega
  exact ⟨by omega, by omega, hfour, by omega, by omega⟩

/-- The cycle of a day, and the day in the cycle. -/
theorem parts_of_cycle (cycle : Int) {day : Nat} (h : day < 146097) :
    ((146097 * cycle + (day : Int)) % 146097).toNat = day ∧
      (146097 * cycle + (day : Int)) / 146097 = cycle := by omega

/-- The days before a year, by cycles of four hundred years and the parts of a cycle. -/
theorem daysBeforeYear_eq_cycles {year : Int} {r : Nat} (hr : (year - 1) % 400 = r) :
    daysBeforeYear year = 146097 * ((year - 1) / 400) + 36524 * (r / 100 : Nat) +
      1461 * (r % 100 / 4 : Nat) + 365 * (r % 4 : Nat) := by
  simp only [daysBeforeYear]
  omega

/-- A year is put together again from its cycle and the parts of it. -/
theorem year_of_parts {year : Int} {cycle : Int} {r : Nat} (h : year = 400 * cycle + r + 1) :
    400 * cycle + 100 * (r / 100 : Nat) + 4 * (r % 100 / 4 : Nat) + (r % 4 : Nat) + 1 = year := by
  omega

/-- A year and a day in it are found again from their day number. -/
theorem yearOfDay_daysBeforeYear {year : Int} {t : Nat} (ht : t < yearLength year) :
    yearOfDay (daysBeforeYear year + t - epochDay) = (year, t) := by
  obtain ⟨r, hr⟩ : ∃ r : Nat, (year - 1) % 400 = r := ⟨((year - 1) % 400).toNat, by omega⟩
  have hyear : year = 400 * ((year - 1) / 400) + r + 1 := by omega
  have hlast : t < 365 ∨ t = 365 ∧ r % 4 = 3 ∧ (r % 100 / 4 ≠ 24 ∨ r / 100 = 3) := by
    have hlength := yearLength_eq year
    rw [isLeap_iff] at hlength
    omega
  obtain ⟨hcycle, hcenturies, hfours, hones, hday⟩ :=
    parts_of_day (r / 100) (r % 100 / 4) (r % 4) t (by omega) (by omega) (by omega) hlast
  set day := 36524 * (r / 100) + 1461 * (r % 100 / 4) + 365 * (r % 4) + t with hdef
  have hcount : daysBeforeYear year + t - epochDay + epochDay =
      146097 * ((year - 1) / 400) + day := by
    rw [Int.sub_add_cancel, daysBeforeYear_eq_cycles hr, hdef]
    push_cast
    simp only [Int.add_assoc]
  obtain ⟨hpart, hwhole⟩ := parts_of_cycle ((year - 1) / 400) hcycle
  simp only [yearOfDay, hcount, hpart, hwhole, hcenturies, hfours, hones, hday, Prod.mk.injEq,
    and_true]
  exact year_of_parts hyear

namespace Date

/-- **The date of a day number.** A date is found again from the number of its day. -/
theorem ofDayNumber_toDayNumber {d : Date} (h : d.OnCalendar) : ofDayNumber d.toDayNumber = d := by
  have hlast := daysBeforeMonth_add_monthLength_le d.year h.month_pos h.month_le
  have hday := h.day_pos
  have hle := h.day_le
  have hnumber : d.toDayNumber = daysBeforeYear d.year
      + ((daysBeforeMonth d.year d.month + (d.day - 1) : Nat) : Int) - epochDay := by
    rw [toDayNumber, dayNumber]
    omega
  rw [ofDayNumber_eq, hnumber, yearOfDay_daysBeforeYear (by omega), monthOfDay_daysBeforeMonth h]

/-- The days of a year lie between its first one and the first one of the next year. -/
theorem toDayNumber_bounds {d : Date} (h : d.OnCalendar) :
    daysBeforeYear d.year - epochDay ≤ d.toDayNumber ∧
      d.toDayNumber < daysBeforeYear (d.year + 1) - epochDay := by
  have hlast := daysBeforeMonth_add_monthLength_le d.year h.month_pos h.month_le
  have hday := h.day_pos
  have hle := h.day_le
  rw [daysBeforeYear_succ, toDayNumber, dayNumber]
  omega

end Date

end Calendar

/-! ## Seconds -/

namespace Moment

open Calendar

variable {m : Moment} {d : Date} {s : Nat}

/-- The clock shows the date whose seconds it counts. -/
theorem date_eq (h : d.OnCalendar) (hs : s < 86400)
    (hm : m.second = d.toDayNumber * daySeconds + s) : m.date = d := by
  have hday : m.second / daySeconds = d.toDayNumber := by
    simp only [daySeconds] at hm ⊢
    omega
  rw [date, hday, Date.ofDayNumber_toDayNumber h]

theorem secondOfDay_eq (hs : s < 86400) (hm : m.second = d.toDayNumber * daySeconds + s) :
    m.secondOfDay = s := by
  simp only [secondOfDay, daySeconds] at hm ⊢
  omega

/-- **The seconds that a time may have** are those of the years 1 to 9999. -/
theorem inRange_iff_year (h : d.OnCalendar) (hs : s < 86400)
    (hm : m.second = d.toDayNumber * daySeconds + s) :
    m.inRange = true ↔ 1 ≤ d.year ∧ d.year ≤ 9999 := by
  have hbounds := Date.toDayNumber_bounds h
  have hfirst : firstSecond = -719162 * 86400 := by decide
  have hend : endSecond = 2932897 * 86400 := by decide
  simp only [inRange, Bool.and_eq_true, decide_eq_true_eq, hfirst, hend, hm, daySeconds]
  simp only [daysBeforeYear, epochDay] at hbounds
  omega

end Moment

end StorageReply
