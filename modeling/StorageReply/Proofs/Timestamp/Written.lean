import StorageReply.Proofs.Timestamp.Zones

/-!
# Dates as the service writes them

The service writes `Wed, 19 Jan 2022 22:28:43 GMT`: a weekday, a date, a time of day and a zone,
each with a fixed number of digits (`Written`, `Written.text`). Reading such a text gives the time
that was written, less the offset of the zone: on the same day, or on the next or the previous day
where midnight lies between (`Written.universalDate`, `Written.universalSecond`).

* `Zone.zoneOffset?_text`: the zones have the offsets that they are written with.
* `instant_eq`: the instant lies on the written day or on a neighbouring one.
* `parse_text_eq_ok`: what reading a written date gives, and when two of them give the same.
-/

namespace StorageReply.Rfc1123

open Calendar Number Text

/-! ## Written dates -/

/-- The zones of a written date. -/
inductive Zone
  /-- Greenwich mean time. -/
  | gmt
  /-- Universal time. -/
  | ut
  /-- Universal time, under its other name. -/
  | utc
  /-- So many hours and minutes ahead of universal time. -/
  | ahead (hours : Fin 24) (minutes : Fin 60)
  /-- So many hours and minutes behind universal time. -/
  | behind (hours : Fin 24) (minutes : Fin 60)
  deriving DecidableEq, Repr

namespace Zone

/-- Two digits for the hours and two for the minutes. -/
def digits (hours : Fin 24) (minutes : Fin 60) : List Char :=
  (padded 2 hours).toList ++ (padded 2 minutes).toList

/-- A zone as it is written. -/
def text : Zone → List Char
  | gmt => ['G', 'M', 'T']
  | ut => ['U', 'T']
  | utc => ['U', 'T', 'C']
  | ahead hours minutes => '+' :: digits hours minutes
  | behind hours minutes => '-' :: digits hours minutes

/-- The seconds that the clocks of a zone are ahead of universal time. -/
def offset : Zone → Int
  | ahead hours minutes => hours * 3600 + minutes * 60
  | behind hours minutes => -(hours * 3600 + minutes * 60)
  | _ => 0

end Zone

/-- A date as it is written, with the time of day and the zone. The weekday is any word: it need
not be the one of the date. -/
structure Written where
  /-- What stands for the weekday, before its comma. -/
  weekday : List Char
  /-- The date that is written. -/
  date : Date
  /-- The short name of the month, in whatever letter case. -/
  monthName : List Char
  /-- The hour. -/
  hour : Fin 24
  /-- The minute. -/
  minute : Fin 60
  /-- The second. -/
  second : Fin 60
  /-- The zone. -/
  zone : Zone
  /-- The weekday is one word. -/
  weekday_ink : ∀ c ∈ weekday, isBlank c = false
  /-- The calendar has the date. -/
  isValid : date.isValid = true
  /-- The year has four digits. -/
  year_ge : 1000 ≤ date.year
  /-- The name is that of the month. -/
  month_eq : shortMonths[date.month - 1]? = some (String.ofList (lower monthName))

namespace Written

/-- The hour, the minute and the second, with colons. -/
def clock (w : Written) : List Char :=
  (padded 2 w.hour).toList ++ ':' ::
    ((padded 2 w.minute).toList ++ ':' :: (padded 2 w.second).toList)

/-- The six words of a written date. -/
def words (w : Written) : List (List Char) :=
  [w.weekday ++ [','], (padded 2 w.date.day).toList, w.monthName,
   (padded 4 w.date.year.toNat).toList, w.clock, w.zone.text]

/-- A date as it is written: the words, with a space between neighbours. -/
def text (w : Written) : List Char := joined [' '] w.words

/-- The second of the day that is written. -/
def localSecond (w : Written) : Nat := w.hour * 3600 + w.minute * 60 + w.second

/-- The second of the written day in universal time, which may lie on a neighbouring day. -/
def shiftedSecond (w : Written) : Int := w.localSecond - w.zone.offset

/-- The date in universal time. -/
def universalDate (w : Written) : Date :=
  if w.shiftedSecond < 0 then w.date.prev
  else if w.shiftedSecond < 86400 then w.date
  else w.date.next

/-- The second of the day in universal time. -/
def universalSecond (w : Written) : Nat := (w.shiftedSecond % 86400).toNat

/-- The instant that is written, in seconds since the start of 1970. -/
def instant (w : Written) : Int := w.date.toDayNumber * 86400 + w.shiftedSecond

end Written

/-! ## The zones of written dates -/

namespace Zone

theorem isDigit_of_mem_digits {hours : Fin 24} {minutes : Fin 60} {c : Char}
    (h : c ∈ digits hours minutes) : c.isDigit = true :=
  (List.mem_append.1 h).elim isDigit_of_mem_padded isDigit_of_mem_padded

theorem isWord_text (zone : Zone) : IsWord zone.text := by
  have hdigits : ∀ hours minutes, ∀ c ∈ digits hours minutes, isBlank c = false :=
    fun _ _ _ hc => isBlank_of_isDigit (isDigit_of_mem_digits hc)
  cases zone with
  | gmt => exact ⟨by decide, ink_of_any (by decide)⟩
  | ut => exact ⟨by decide, ink_of_any (by decide)⟩
  | utc => exact ⟨by decide, ink_of_any (by decide)⟩
  | ahead hours minutes =>
    exact ⟨List.cons_ne_nil _ _, List.forall_mem_cons.2 ⟨by decide, hdigits hours minutes⟩⟩
  | behind hours minutes =>
    exact ⟨List.cons_ne_nil _ _, List.forall_mem_cons.2 ⟨by decide, hdigits hours minutes⟩⟩

/-- The hours and minutes as one number. -/
theorem ofDigitChars_digits (hours : Fin 24) (minutes : Fin 60) :
    Nat.ofDigitChars 10 (digits hours minutes) 0 = hours * 100 + minutes := by
  have hlength : (padded 2 minutes).toList.length = 2 := length_padded (by decide) (by
    rw [Nat.pow_eq]
    omega)
  rw [digits, Nat.ofDigitChars_append, ofDigitChars_padded,
    Nat.ofDigitChars_eq_ofDigitChars_zero, ofDigitChars_padded, hlength]
  omega

theorem length_digits (hours : Fin 24) (minutes : Fin 60) : (digits hours minutes).length = 4 := by
  have hlength : ∀ n, n < 100 → (padded 2 n).toList.length = 2 := fun n hn =>
    length_padded (by decide) hn
  rw [digits, List.length_append, hlength hours (by omega), hlength minutes (by omega)]

theorem upper_signed {sign : Char} (hsign : sign = '+' ∨ sign = '-') {ds : List Char}
    (hds : ∀ c ∈ ds, c.isDigit = true) : upper (sign :: ds) = sign :: ds := by
  have hkeep : ∀ c ∈ sign :: ds, upperChar c = [c] := by
    refine List.forall_mem_cons.2 ⟨by rcases hsign with rfl | rfl <;> decide, fun c hc => ?_⟩
    obtain ⟨hlow, hhigh⟩ := isDigit_iff.1 (hds c hc)
    have hascii : c.toNat < 128 := by omega
    have hsmall : ¬ 'a' ≤ c := by
      rw [Char.le_def, UInt32.le_iff_toNat_le]
      exact Nat.not_le.2 (Nat.lt_of_le_of_lt hhigh (by decide))
    simp [upperChar, asciiUpperChar, hascii, hsmall]
  rw [upper, List.flatMap_congr hkeep, List.flatMap_singleton']

/-- The number after a sign is what a zone denotes. -/
theorem zoneOffset?_signed {sign : Char} (hsign : sign = '+' ∨ sign = '-') {ds : List Char}
    (hds : ∀ c ∈ ds, c.isDigit = true) {hhmm : Int} (h : integer? (sign :: ds) = some hhmm) :
    zoneOffset? (sign :: ds) =
      if hhmm = 0 ∧ sign = '-' then none else some (offsetSeconds hhmm) := by
  have hupper : upper (sign :: ds) = sign :: ds := upper_signed hsign hds
  have hdenotes : Denotes (sign :: ds) hhmm := .number (by rw [hupper, h])
  simp [zoneOffset?_of_denotes hdenotes, IsMinusZero, hupper, h]

theorem integer?_digits (hours : Fin 24) (minutes : Fin 60) {sign : Char}
    (hsign : sign = '+' ∨ sign = '-') :
    integer? (sign :: digits hours minutes) =
      some (if sign = '-' then -((hours * 100 + minutes : Nat) : Int)
        else ((hours * 100 + minutes : Nat) : Int)) := by
  have hdigits : ∀ c ∈ digits hours minutes, c.isDigit = true :=
    fun _ => isDigit_of_mem_digits
  have hink : ∀ c ∈ sign :: digits hours minutes, isBlank c = false :=
    List.forall_mem_cons.2 ⟨by rcases hsign with rfl | rfl <;> decide,
      fun c hc => isBlank_of_isDigit (hdigits c hc)⟩
  have hne : digits hours minutes ≠ [] := by
    rw [← List.length_pos_iff, length_digits]
    decide
  have hsplit : splitSign (sign :: digits hours minutes) =
      (decide (sign = '-'), digits hours minutes) := by
    rcases hsign with rfl | rfl <;> rfl
  have hlimit : (digits hours minutes).length ≤ digitLimit := by
    rw [length_digits]
    decide
  rw [integer?_of_splitSign hink hsplit hne hdigits hlimit, ofDigitChars_digits]
  simp

theorem offsetSeconds_natCast {hours minutes : Nat} (h : minutes < 60) :
    offsetSeconds ((hours * 100 + minutes : Nat) : Int) = hours * 3600 + minutes * 60 := by
  have hnot : ¬ ((hours * 100 + minutes : Nat) : Int) < 0 := by omega
  simp only [offsetSeconds, Int.natAbs_natCast, hnot, if_false]
  omega

theorem offsetSeconds_neg_natCast {hours minutes : Nat} (h : minutes < 60) :
    offsetSeconds (-((hours * 100 + minutes : Nat) : Int)) = -(hours * 3600 + minutes * 60) := by
  simp only [offsetSeconds, Int.natAbs_neg, Int.natAbs_natCast]
  split <;> omega

/-- The offset of a zone is read as it is written; the one of `-0000` is taken as not known. -/
theorem zoneOffset?_text (zone : Zone) :
    zoneOffset? zone.text = if zone = behind 0 0 then none else some zone.offset := by
  cases zone with
  | gmt => rfl
  | ut => rfl
  | utc => rfl
  | ahead hours minutes =>
    rw [text, zoneOffset?_signed (.inl rfl) (fun _ => isDigit_of_mem_digits)
      (integer?_digits hours minutes (.inl rfl)), if_neg (by simp), if_neg (by decide),
      offsetSeconds_natCast minutes.isLt]
    simp [offset]
  | behind hours minutes =>
    have hzero : behind hours minutes = behind 0 0 ↔
        -((hours.val * 100 + minutes.val : Nat) : Int) = 0 := by
      rw [behind.injEq, Fin.ext_iff, Fin.ext_iff]
      simp only [Fin.val_zero]
      omega
    rw [text, zoneOffset?_signed (.inr rfl) (fun _ => isDigit_of_mem_digits)
      (integer?_digits hours minutes (.inr rfl)), if_pos rfl]
    simp only [hzero, offset, offsetSeconds_neg_natCast minutes.isLt, and_true]

theorem offset_natAbs_lt (zone : Zone) : zone.offset.natAbs < 86400 := by
  cases zone with
  | ahead hours minutes => simp only [offset]; omega
  | behind hours minutes => simp only [offset]; omega
  | _ => decide

end Zone

/-! ## The instant of a written date -/

namespace Written

variable (w : Written)

/-- A written date as one whose weekday and zone may be any words. -/
def toDated : Dated where
  weekday := some w.weekday
  date := w.date
  monthName := w.monthName
  hour := w.hour
  minute := w.minute
  second := w.second
  zone := some w.zone.text
  weekday_ink := by
    rintro _ ⟨⟩
    exact w.weekday_ink
  isValid := w.isValid
  month_eq := w.month_eq
  isWord_zone := by
    rintro _ ⟨⟩
    exact w.zone.isWord_text

/-- A year of four digits stands for itself. -/
theorem fullDate_toDated : w.toDated.fullDate = w.date := by
  have hyear : fullYear w.date.year = w.date.year := if_neg (by have := w.year_ge; omega)
  rw [Dated.fullDate, toDated, hyear]

theorem getD_zoneOffset? : (zoneOffset? w.zone.text).getD 0 = w.zone.offset := by
  rw [Zone.zoneOffset?_text]
  split
  · rename_i hzone
    simp [hzone, Zone.offset]
  · rfl

theorem natAbs_lt_of_zoneOffset? : ∀ seconds, zoneOffset? w.zone.text = some seconds →
    seconds.natAbs < 86400 := by
  intro seconds hseconds
  have hoffset := w.getD_zoneOffset?
  rw [hseconds, Option.getD_some] at hoffset
  rw [hoffset]
  exact w.zone.offset_natAbs_lt

theorem instant_eq_clockSecond : w.instant = w.toDated.clockSecond - w.zone.offset := by
  rw [Dated.clockSecond, fullDate_toDated]
  simp only [instant, shiftedSecond, localSecond, clockSecond, Moment.daySeconds, toDated]
  omega

theorem onCalendar : w.date.OnCalendar := (Date.isValid_iff.1 w.isValid).1

/-- The written instant as a date and a second of the day, across midnight. -/
theorem instant_eq : w.instant =
    w.universalDate.toDayNumber * Moment.daySeconds + w.universalSecond := by
  have hzone := w.zone.offset_natAbs_lt
  have hshift : -86400 < w.shiftedSecond ∧ w.shiftedSecond < 2 * 86400 := by
    simp only [shiftedSecond, localSecond]
    omega
  have hprev := Date.toDayNumber_prev w.onCalendar
  have hnext := Date.toDayNumber_next w.onCalendar
  simp only [instant, universalDate, universalSecond, Moment.daySeconds]
  split
  · rw [hprev]
    omega
  split
  · omega
  · rw [hnext]
    omega

theorem universalSecond_lt : w.universalSecond < 86400 := by
  rw [universalSecond]
  omega

theorem onCalendar_universalDate : w.universalDate.OnCalendar := by
  unfold universalDate
  split
  · exact w.onCalendar.prev
  split
  · exact w.onCalendar
  · exact w.onCalendar.next

/-- The date in universal time has a year that can be represented. -/
def InRange : Prop := 1 ≤ w.universalDate.year ∧ w.universalDate.year ≤ 9999

/-- A text is a date as it is written, with blanks around it. -/
def IsIn (s : String) : Prop :=
  ∃ before after, s.toList = before ++ (w.text ++ after) ∧ (∀ c ∈ before, isBlank c = true) ∧
    ∀ c ∈ after, isBlank c = true

variable {w}

theorem parse_of_isIn {s : String} (hs : w.IsIn s) (h : w.InRange) :
    parse s = .ok (.universal w.instant 0) := by
  have hdated : w.toDated.IsIn s := hs
  have hinRange : (Moment.universal w.instant 0).inRange = true :=
    (Moment.inRange_iff_year w.onCalendar_universalDate w.universalSecond_lt w.instant_eq).2 h
  have hoffset : w.toDated.offset? = zoneOffset? w.zone.text := rfl
  rw [Dated.parse_eq_ok_iff hdated, hoffset, getD_zoneOffset?, ← instant_eq_clockSecond]
  exact ⟨w.natAbs_lt_of_zoneOffset?, hinRange, rfl⟩

/-- **Written dates are read as they are meant.** A date as the service writes it, with any blanks
around it, is read as the instant that it names: the clock in universal time shows the written date
and time less the offset of the zone, on the day before or after where midnight lies between. Two
such texts give the same result just when they name the same instant. -/
theorem parse_text_eq_ok {s : String} (hs : w.IsIn s) (h : w.InRange) :
    (∃ m, parse s = .ok m ∧ m = .universal w.instant 0 ∧ m.date = w.universalDate ∧
      m.secondOfDay = w.universalSecond) ∧
    ∀ (w' : Written) (s' : String), w'.IsIn s' → w'.InRange →
      (parse s = parse s' ↔ w.instant = w'.instant) := by
  refine ⟨⟨_, parse_of_isIn hs h, rfl, ?_, ?_⟩, fun w' s' hs' h' => ?_⟩
  · exact Moment.date_eq w.onCalendar_universalDate w.universalSecond_lt w.instant_eq
  · exact Moment.secondOfDay_eq w.universalSecond_lt w.instant_eq
  · rw [parse_of_isIn hs h, parse_of_isIn hs' h']
    simp [Moment.universal]

/-- The first morning of March in a leap year, under a weekday that it does not have, in a zone
where March began while it was still the leap day in universal time. -/
def marchMorning : Written where
  weekday := "Mon".toList
  date := ⟨2024, 3, 1⟩
  monthName := "mAR".toList
  hour := 1
  minute := 30
  second := 59
  zone := .ahead 5 45
  weekday_ink := ink_of_any (by decide)
  isValid := by decide
  year_ge := by decide
  month_eq := by decide +kernel

/-- The same time, as it is written in universal time. -/
def leapEvening : Written where
  weekday := "Thu".toList
  date := ⟨2024, 2, 29⟩
  monthName := "Feb".toList
  hour := 19
  minute := 45
  second := 59
  zone := .gmt
  weekday_ink := ink_of_any (by decide)
  isValid := by decide
  year_ge := by decide
  month_eq := by decide +kernel

theorem parse_text_eq_ok_marchMorning :
    (∃ m, parse "\t Mon, 01 mAR 2024 01:30:59 +0545 \n" = .ok m ∧ m.date = ⟨2024, 2, 29⟩ ∧
      m.secondOfDay = 19 * 3600 + 45 * 60 + 59) ∧
    parse "\t Mon, 01 mAR 2024 01:30:59 +0545 \n" = parse "Thu, 29 Feb 2024 19:45:59 GMT" := by
  have hs : marchMorning.IsIn "\t Mon, 01 mAR 2024 01:30:59 +0545 \n" :=
    ⟨['\t', ' '], [' ', '\n'], by decide +kernel, List.all_eq_true.1 (by decide),
      List.all_eq_true.1 (by decide)⟩
  have hs' : leapEvening.IsIn "Thu, 29 Feb 2024 19:45:59 GMT" :=
    ⟨[], [], by decide +kernel, by simp, by simp⟩
  obtain ⟨⟨m, hm, -, hdate, hsecond⟩, hsame⟩ :=
    parse_text_eq_ok hs ⟨by decide +kernel, by decide +kernel⟩
  refine ⟨⟨m, hm, hdate.trans (by decide +kernel), hsecond.trans (by decide +kernel)⟩, ?_⟩
  exact (hsame _ _ hs' ⟨by decide +kernel, by decide +kernel⟩).2 (by decide +kernel)

end Written

end StorageReply.Rfc1123
