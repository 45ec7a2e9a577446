import StorageReply.Proofs.Calendar.Days
import StorageReply.Proofs.Number.Numerals
import StorageReply.Proofs.Text.LowerCase
import StorageReply.Proofs.Timestamp.Range

/-!
# Parts in their places

The reader of dates looks for a month in the place of the day, for a time in the place of the year,
and for commas everywhere. It changes nothing in a date whose parts are in their places already
(`split?_of_inPlace`), and finds the numbers in them where they are written with their usual number
of digits (`read?_digitParts`). The clock then shows these numbers, and the offset of the zone is
taken off (`instant_ofDate_eq_ok_iff`).
-/

namespace StorageReply.Rfc1123

open Calendar Number Text

theorem isWord_padded (width n : Nat) : IsWord (padded width n).toList :=
  ⟨padded_ne_nil, fun _ hc => isBlank_of_isDigit (isDigit_of_mem_padded hc)⟩

theorem notMem_padded {c : Char} (hc : c.isDigit = false) {width n : Nat} :
    c ∉ (padded width n).toList := by
  intro hmem
  rw [isDigit_of_mem_padded hmem] at hc
  cases hc

/-- A numeral has no letters, so its lower form is the numeral. -/
theorem lower_padded (width n : Nat) : lower (padded width n).toList = (padded width n).toList := by
  have hcode : ∀ c ∈ (padded width n).toList, 48 ≤ c.toNat ∧ c.toNat ≤ 57 := fun c hc =>
    isDigit_iff.1 (isDigit_of_mem_padded hc)
  have hkeep : ∀ c ∈ (padded width n).toList, asciiLowerChar c = c := by
    intro c hc
    refine if_neg fun hletter => ?_
    simp only [Bool.and_eq_true, decide_eq_true_eq, Char.le_def, UInt32.le_iff_toNat_le] at hletter
    exact absurd (hletter.1.trans (hcode c hc).2) (by decide)
  rw [lower, lowerFrom_of_ascii fun c hc => Nat.lt_of_le_of_lt (hcode c hc).2 (by decide),
    List.map_congr_left hkeep, List.map_id']

/-- A numeral is not the name of a day. -/
theorem notMem_dayNames_padded (width n : Nat) :
    String.ofList (lower (padded width n).toList) ∉ dayNames := by
  have hall : dayNames.all (fun name => name.toList.all fun c => !c.isDigit) = true := by
    decide +kernel
  obtain ⟨c, rest, hdigits⟩ := List.exists_cons_of_ne_nil padded_ne_nil
  have hmem : c ∈ (padded width n).toList := hdigits ▸ List.mem_cons_self ..
  intro hname
  rw [lower_padded] at hname
  have hletters := List.all_eq_true.1 (List.all_eq_true.1 hall _ hname)
  rw [String.toList_ofList] at hletters
  have hletter := hletters c hmem
  rw [isDigit_of_mem_padded hmem] at hletter
  cases hletter

/-- A numeral in the first place is no weekday. -/
theorem withoutWeekday_padded_cons (width n : Nat) (rest : List (List Char)) :
    withoutWeekday ((padded width n).toList :: rest) = (padded width n).toList :: rest := by
  have hcomma : ',' ∉ (padded width n).toList := notMem_padded rfl
  have hlast : (padded width n).toList.getLast? ≠ some ',' := fun h =>
    hcomma (List.mem_of_getLast? h)
  have hname := notMem_dayNames_padded width n
  simp [withoutWeekday, hlast, hname, afterLast_eq_self hcomma]

/-! ## Times of day -/

/-- An hour, a minute and a second, with colons. -/
def timeText (hour minute second : Nat) : List Char :=
  (padded 2 hour).toList ++ ':' :: ((padded 2 minute).toList ++ ':' :: (padded 2 second).toList)

section

variable {hour minute second : Nat}

theorem digit_or_colon_of_mem_timeText {c : Char} (h : c ∈ timeText hour minute second) :
    c.isDigit = true ∨ c = ':' := by
  simp only [timeText, List.mem_append, List.mem_cons] at h
  rcases h with h | h | h | h | h
  · exact .inl (isDigit_of_mem_padded h)
  · exact .inr h
  · exact .inl (isDigit_of_mem_padded h)
  · exact .inr h
  · exact .inl (isDigit_of_mem_padded h)

theorem notMem_timeText {c : Char} (hdigit : c.isDigit = false) (hcolon : c ≠ ':') :
    c ∉ timeText hour minute second := by
  intro hmem
  rcases digit_or_colon_of_mem_timeText hmem with h | h
  · rw [h] at hdigit
    cases hdigit
  · exact hcolon h

theorem isWord_timeText : IsWord (timeText hour minute second) := by
  refine ⟨by simp [timeText], fun c hc => ?_⟩
  rcases digit_or_colon_of_mem_timeText hc with hc | rfl
  · exact isBlank_of_isDigit hc
  · decide

/-- No zone is cut from a time. -/
theorem zoneSign?_timeText : zoneSign? (timeText hour minute second) = none := by
  have hsign : ∀ sign : Char, sign.isDigit = false → sign ≠ ':' →
      (timeText hour minute second).idxOf? sign = none := fun sign hdigit hcolon =>
    List.idxOf?_eq_none_iff.2 (notMem_timeText hdigit hcolon)
  rw [zoneSign?, hsign '+' rfl (by decide), hsign '-' rfl (by decide)]
  rfl

theorem timeParts?_timeText : timeParts? (timeText hour minute second) =
    some ((padded 2 hour).toList, (padded 2 minute).toList, (padded 2 second).toList) := by
  have hpieces : ∀ n, pieces ':' (padded 2 n).toList = [(padded 2 n).toList] :=
    fun n => pieces_eq_singleton (notMem_padded rfl)
  rw [timeParts?, timeText, pieces_append_cons, pieces_append_cons, hpieces, hpieces, hpieces]
  rfl

end

/-! ## Places -/

theorem dropComma_eq_self {s : List Char} (h : ',' ∉ s) : dropComma s = s := by
  refine if_neg fun hlast => h ?_
  exact List.mem_of_getLast? hlast

/-- The day, the year and the time of a date are in their places: a year consists of digits, and no
part has a comma. -/
structure Parts.InPlace (p : Parts) : Prop where
  /-- The day has no comma. -/
  day : ',' ∉ p.day
  /-- The year is not empty. -/
  year_ne_nil : p.year ≠ []
  /-- The year consists of digits. -/
  isDigit_year : ∀ c ∈ p.year, c.isDigit = true
  /-- The time has no comma. -/
  time : ',' ∉ p.time

namespace Parts.InPlace

variable {p : Parts}

theorem notMem_year (h : p.InPlace) {c : Char} (hc : c.isDigit = false) : c ∉ p.year := by
  intro hmem
  rw [h.isDigit_year c hmem] at hc
  cases hc

theorem orderTime_eq_self (h : p.InPlace) : orderTime p = p := by
  have hcolon : p.year.idxOf? ':' = none := List.idxOf?_eq_none_iff.2 (h.notMem_year rfl)
  simp [orderTime, hcolon]

theorem orderYear?_eq_self (h : p.InPlace) : orderYear? p = some p := by
  have hkeep : dropComma p.year = p.year := dropComma_eq_self (h.notMem_year rfl)
  obtain ⟨c, rest, hyear⟩ := List.exists_cons_of_ne_nil h.year_ne_nil
  have hmem : c ∈ p.year := hyear ▸ List.mem_cons_self ..
  have hdigit : isDigit c = true := by
    simp [isDigit, isDecimal, decimalValue?_of_isDigit (h.isDigit_year c hmem)]
  rw [orderYear?, hkeep, hyear]
  simp only [hdigit, if_true, ← hyear]

end Parts.InPlace

/-- **Parts in their places stay there**; the name of the month is put in small letters. -/
theorem split?_of_inPlace {s : List Char} {p : Parts} (h : p.InPlace)
    (hmonth : (month? (lower p.month)).isSome = true)
    (hs : partsOf? (separateZone (expandHyphens (withoutWeekday (words s)))) = some p) :
    split? s = some { p with month := lower p.month } := by
  have horder : orderMonth? p = some { p with month := lower p.month } := if_pos hmonth
  have hplace : Parts.InPlace { p with month := lower p.month } :=
    ⟨h.day, h.year_ne_nil, h.isDigit_year, h.time⟩
  simp only [split?, hs, horder, dropComma_eq_self h.day, hplace.orderTime_eq_self,
    hplace.orderYear?_eq_self, dropComma_eq_self h.time, Option.bind_eq_bind, Option.bind_some,
    Option.pure_def]

/-! ## Numbers -/

/-- The parts of a date with two digits for the day and four for the year. -/
def digitParts (date : Date) (hour minute second : Nat) (monthName zone : List Char) : Parts :=
  ⟨(padded 2 date.day).toList, monthName, (padded 4 date.year.toNat).toList,
   timeText hour minute second, zone⟩

section

variable {date : Date} {hour minute second : Nat} {monthName zone : List Char}

theorem inPlace_digitParts : (digitParts date hour minute second monthName zone).InPlace := by
  unfold digitParts
  constructor <;> dsimp only
  · exact notMem_padded rfl
  · exact padded_ne_nil
  · exact fun _ => isDigit_of_mem_padded
  · exact notMem_timeText rfl (by decide)

theorem day_le_of_isValid (h : date.isValid = true) : date.day ≤ 31 := by
  obtain ⟨honCalendar, -, -⟩ := Date.isValid_iff.1 h
  refine honCalendar.day_le.trans ?_
  obtain ⟨hpos, hle, -, -⟩ := honCalendar
  unfold monthLength monthLengths
  generalize date.month = month at *
  interval_cases month <;> cases isLeap date.year <;> decide

theorem isPlain_of_mem_shortMonths : ∀ name ∈ shortMonths, ∀ d ∈ name.toList,
    isPlain d = true ∧ isBlank d = false := by
  have hall : shortMonths.all (fun name => name.toList.all fun d => isPlain d && !isBlank d) := by
    decide +kernel
  simpa [List.all_eq_true] using hall

/-- The name of a month is a word, in whatever letter case. -/
theorem isWord_of_shortMonth {i : Nat}
    (h : shortMonths[i]? = some (String.ofList (lower monthName))) : IsWord monthName := by
  have hname := isPlain_of_mem_shortMonths _ (List.mem_of_getElem? h)
  rw [String.toList_ofList] at hname
  refine isWord_of_lower (fun d hd => (hname d hd).1) ⟨?_, fun d hd => (hname d hd).2⟩ rfl
  intro hnil
  rw [hnil] at h
  exact absurd (List.mem_of_getElem? h) (by decide)

theorem month?_of_shortMonth (h : date.isValid = true)
    (hname : shortMonths[date.month - 1]? = some (String.ofList monthName)) :
    month? monthName = some date.month := by
  obtain ⟨⟨hpos, hle, -, -⟩, -, -⟩ := Date.isValid_iff.1 h
  rw [month?]
  generalize String.ofList monthName = name at hname ⊢
  generalize date.month = month at *
  interval_cases month <;> cases hname <;> rfl

/-- The numbers of a date and a time of day. -/
def Reading.ofDate (date : Date) (hour minute second : Nat) (offset : Option Int) : Reading :=
  ⟨date.year, date.month, date.day, hour, minute, second, offset⟩

/-- **The numbers of a date** are read as they are written, but for a year of less than three
digits. -/
theorem read?_digitParts (h : date.isValid = true) (hhour : hour < 24) (hminute : minute < 60)
    (hsecond : second < 60)
    (hname : shortMonths[date.month - 1]? = some (String.ofList monthName)) :
    (digitParts date hour minute second monthName zone).read? =
      some (.ofDate { date with year := fullYear date.year } hour minute second
        (zoneOffset? zone)) := by
  obtain ⟨-, hfirst, hlast⟩ := Date.isValid_iff.1 h
  have hday := day_le_of_isValid h
  have htwo : ∀ n, n < 100 → integer? (padded 2 n).toList = some (n : Int) :=
    fun n hn => integer?_padded (by decide) (by decide) hn
  have hyear : integer? (padded 4 date.year.toNat).toList = some date.year := by
    rw [integer?_padded (by decide) (by decide) (by rw [Nat.pow_eq]; omega)]
    exact congrArg some (Int.toNat_of_nonneg (by omega))
  simp only [Parts.read?, digitParts, month?_of_shortMonth h hname, timeParts?_timeText, hyear,
    htwo date.day (by omega), htwo hour (by omega), htwo minute (by omega),
    htwo second (by omega), Option.bind_eq_bind, Option.bind_some, Option.pure_def,
    Reading.ofDate]

/-- A year below 100 and the one that it stands for have the same days. -/
theorem isValid_fullYear (h : date.isValid = true) :
    ({ date with year := fullYear date.year } : Date).isValid = true := by
  obtain ⟨⟨hpos, hle, hday, hlength⟩, hfirst, hlast⟩ := Date.isValid_iff.1 h
  have hyear : fullYear date.year = date.year ∨ date.year < 100 ∧
      (fullYear date.year = date.year + 1900 ∨ fullYear date.year = date.year + 2000) := by
    simp only [fullYear]
    omega
  have hleap : isLeap (fullYear date.year) = isLeap date.year := by
    rw [Bool.eq_iff_iff, isLeap_iff, isLeap_iff]
    omega
  have hsame : monthLength (fullYear date.year) date.month = monthLength date.year date.month := by
    simp only [monthLength, monthLengths, hleap]
  exact Date.isValid_iff.2 ⟨⟨hpos, hle, hday, hsame ▸ hlength⟩, by dsimp only; omega⟩

/-! ## Instants -/

/-- The second that a date and a time of day have in universal time. -/
def clockSecond (date : Date) (hour minute second : Nat) : Int :=
  date.toDayNumber * Moment.daySeconds + (hour * 3600 + minute * 60 + second : Nat)

theorem isTime_ofDate (h : date.isValid = true) (hhour : hour < 24) (hminute : minute < 60)
    (hsecond : second < 60) {offset : Option Int} :
    (Reading.ofDate date hour minute second offset).IsTime := by
  have hday := (Date.isValid_iff.1 h).1.day_pos
  refine ⟨⟨?_, h⟩, ⟨?_, ?_⟩, ⟨?_, ?_⟩, ?_, ?_⟩ <;> simp only [Reading.ofDate] <;> omega

theorem all_fitsWord_ofDate (h : date.isValid = true) (hhour : hour < 24) (hminute : minute < 60)
    (hsecond : second < 60) {offset : Option Int} :
    (Reading.ofDate date hour minute second offset).numbers.all fitsWord = true := by
  obtain ⟨-, hfirst, hlast⟩ := Date.isValid_iff.1 h
  have hday := day_le_of_isValid h
  have hpow : Int.pow 2 31 = 2147483648 := rfl
  simp only [Reading.numbers, Reading.ofDate, fitsWord, hpow, List.all_cons, List.all_nil,
    Bool.and_true, Bool.and_eq_true, decide_eq_true_eq]
  omega

theorem universal?_wallClock_ofDate {offset : Option Int} :
    (Reading.ofDate date hour minute second offset).wallClock.universal? =
      if (Moment.universal (clockSecond date hour minute second - offset.getD 0) 0).inRange then
        some (.universal (clockSecond date hour minute second - offset.getD 0) 0)
      else none := by
  have hsecond : (Reading.ofDate date hour minute second offset).wallClock.second =
      clockSecond date hour minute second := by
    have hdate : (⟨date.year, date.month, date.day⟩ : Date) = date := rfl
    simp only [Reading.wallClock, Moment.ofDate, Reading.ofDate, clockSecond, Int.toNat_natCast,
      hdate]
    omega
  have hoffset : (Reading.ofDate date hour minute second offset).wallClock.offset = offset := rfl
  have hmicro : (Reading.ofDate date hour minute second offset).wallClock.micro = 0 := rfl
  simp only [Moment.universal?, hsecond, hoffset, hmicro]

/-- **The calendar and the clock have the numbers** of a date and a time of day, and the offset of
the zone is taken off. -/
theorem instant_ofDate_eq_ok_iff (h : date.isValid = true) (hhour : hour < 24)
    (hminute : minute < 60) (hsecond : second < 60) {offset : Option Int} {m : Moment} :
    (Reading.ofDate date hour minute second offset).instant = .ok m ↔
      (∀ seconds, offset = some seconds → seconds.natAbs < 86400) ∧
      (Moment.universal (clockSecond date hour minute second - offset.getD 0) 0).inRange = true ∧
      m = .universal (clockSecond date hour minute second - offset.getD 0) 0 := by
  have hzone : (Reading.ofDate date hour minute second offset).HasZone ↔
      ∀ seconds, offset = some seconds → seconds.natAbs < 86400 := Iff.rfl
  rw [Reading.instant_eq_ok_iff, universal?_wallClock_ofDate, hzone,
    Option.ite_none_right_eq_some, Option.some.injEq]
  refine and_congr_right fun _ => ?_
  rw [and_iff_right ⟨all_fitsWord_ofDate h hhour hminute hsecond,
    isTime_ofDate h hhour hminute hsecond⟩]
  exact and_congr_right fun _ => eq_comm

/-- A valid date is in the years that a time may have. -/
theorem inRange_clockSecond (h : date.isValid = true) (hhour : hour < 24) (hminute : minute < 60)
    (hsecond : second < 60) :
    (Moment.universal (clockSecond date hour minute second) 0).inRange = true := by
  obtain ⟨honCalendar, hyears⟩ := Date.isValid_iff.1 h
  exact (Moment.inRange_iff_year honCalendar (by omega) rfl).2 hyears

end

end StorageReply.Rfc1123
