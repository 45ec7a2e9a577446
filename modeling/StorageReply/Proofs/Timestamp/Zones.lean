import StorageReply.Proofs.Timestamp.Places

/-!
# Zones that are not known

A date should name its zone: by a name that stands for an offset, or by the offset itself
(`Denotes`). A zone of `-0000` is universal time with the local offset unknown (`IsMinusZero`). The
reader of dates does not tell it from a zone that is missing or that denotes nothing, and takes all
three for universal time.

* `zoneOffset?_of_denotes`: a zone has the offset that it denotes, unless it is a minus zero.
* `split?_of_words`: the parts of a date, with or without its weekday and its zone (`Dated`).
* `parse_dated_eq_ok`: what reading such a date gives, for every zone and for none.
-/

namespace StorageReply.Rfc1123

open Calendar Number Text

/-! ## What a zone denotes -/

/-- A zone denotes an offset, in hours and minutes as one number. -/
inductive Denotes (zone : List Char) (hhmm : Int) : Prop
  /-- The zone is a name that has an offset, in whatever letter case. -/
  | name : (String.ofList (upper zone), hhmm) ∈ zones → Denotes zone hhmm
  /-- The zone is the number. -/
  | number : integer? (upper zone) = some hhmm → Denotes zone hhmm

/-- A zone is zero with a minus sign, which says that the local offset is not known. -/
def IsMinusZero (zone : List Char) : Prop :=
  integer? (upper zone) = some 0 ∧ (upper zone).head? = some '-'

instance (zone : List Char) : Decidable (IsMinusZero zone) := inferInstanceAs (Decidable (_ ∧ _))

/-- No name is in the table twice. -/
theorem lookup_zones_of_mem {name : String} {hhmm : Int} (h : (name, hhmm) ∈ zones) :
    zones.lookup name = some hhmm := by
  have hall : ∀ p ∈ zones, zones.lookup p.1 = some p.2 := by decide +kernel
  exact hall _ h

theorem mem_zones_of_lookup {name : String} {hhmm : Int} (h : zones.lookup name = some hhmm) :
    (name, hhmm) ∈ zones := by
  obtain ⟨before, after, heq, -⟩ := List.lookup_eq_some_iff.1 h
  exact heq ▸ List.mem_append_right _ (List.mem_cons_self ..)

/-- No name of a zone is a number. -/
theorem integer?_of_mem_zones {name : List Char} {hhmm : Int}
    (h : (String.ofList name, hhmm) ∈ zones) : integer? name = none := by
  have hall : ∀ p ∈ zones, integer? p.1.toList = none := by decide +kernel
  simpa using hall _ h

/-- **The offset of a zone** is the one that it denotes, but for zero with a minus sign. -/
theorem zoneOffset?_of_denotes {zone : List Char} {hhmm : Int} (h : Denotes zone hhmm) :
    zoneOffset? zone = if IsMinusZero zone then none else some (offsetSeconds hhmm) := by
  cases h with
  | name hmem =>
    simp [zoneOffset?, lookup_zones_of_mem hmem, IsMinusZero, integer?_of_mem_zones hmem]
  | number hnumber =>
    have hlookup : zones.lookup (String.ofList (upper zone)) = none := by
      refine Option.eq_none_iff_forall_ne_some.2 fun hhmm' hname => ?_
      rw [integer?_of_mem_zones (mem_zones_of_lookup hname)] at hnumber
      cases hnumber
    simp [zoneOffset?, hlookup, hnumber, IsMinusZero]

theorem zoneOffset?_of_not_denotes {zone : List Char} (h : ∀ hhmm, ¬ Denotes zone hhmm) :
    zoneOffset? zone = none := by
  have hlookup : zones.lookup (String.ofList (upper zone)) = none :=
    Option.eq_none_iff_forall_ne_some.2 fun hhmm hname => h hhmm (.name (mem_zones_of_lookup hname))
  have hnumber : integer? (upper zone) = none :=
    Option.eq_none_iff_forall_ne_some.2 fun hhmm hnumber => h hhmm (.number hnumber)
  simp [zoneOffset?, hlookup, hnumber]

/-! ## Dates -/

/-- A date with the time of day. The weekday and the zone are any words, or missing. -/
structure Dated where
  /-- What stands for the weekday, before its comma. -/
  weekday : Option (List Char)
  /-- The date that is written. -/
  date : Date
  /-- The short name of the month, in whatever letter case. -/
  monthName : List Char
  /-- The hour. -/
  hour : Fin 24
  /-- The minute. -/
  minute : Fin 60
  /-- The second. -/
  second : Fin 60
  /-- The zone. -/
  zone : Option (List Char)
  /-- The weekday has no blank. -/
  weekday_ink : ∀ name ∈ weekday, ∀ c ∈ name, isBlank c = false
  /-- The calendar has the date. -/
  isValid : date.isValid = true
  /-- The name is that of the month. -/
  month_eq : shortMonths[date.month - 1]? = some (String.ofList (lower monthName))
  /-- The zone is one word. -/
  isWord_zone : ∀ name ∈ zone, IsWord name

namespace Dated

variable (d : Dated)

/-- The words of a date after its weekday. -/
def dateWords : List (List Char) :=
  [(padded 2 d.date.day).toList, d.monthName, (padded 4 d.date.year.toNat).toList,
   timeText d.hour d.minute d.second] ++ d.zone.toList

/-- The words of a date. -/
def words : List (List Char) := (d.weekday.map (· ++ [','])).toList ++ d.dateWords

/-- A date as it is written: the words, with a space between neighbours. -/
def text : List Char := joined [' '] d.words

/-- A text is a date as it is written, with blanks around it. -/
def IsIn (s : String) : Prop :=
  ∃ before after, s.toList = before ++ (d.text ++ after) ∧ (∀ c ∈ before, isBlank c = true) ∧
    ∀ c ∈ after, isBlank c = true

/-- The date as it is read: a year below 100 stands for one between 1969 and 2068. -/
def fullDate : Date := { d.date with year := fullYear d.date.year }

/-- The second that the clock of a date shows, counted in universal time. -/
def clockSecond : Int := Rfc1123.clockSecond d.fullDate d.hour d.minute d.second

/-- The zone is missing, or denotes no offset, or is zero with a minus sign. -/
def Unplaced : Prop := ∀ zone ∈ d.zone, ∀ hhmm, Denotes zone hhmm → IsMinusZero zone

/-! ### The words of a date -/

theorem isWord_of_mem_words : ∀ word ∈ d.words, IsWord word := by
  have hweekday : ∀ name ∈ d.weekday, IsWord (name ++ [',']) := by
    refine fun name hname => ⟨by simp, fun c hc => ?_⟩
    rcases List.mem_append.1 hc with hc | hc
    · exact d.weekday_ink name hname c hc
    · rw [List.mem_singleton.1 hc]
      decide
  intro word hword
  simp only [words, dateWords, List.mem_append, List.mem_cons, List.not_mem_nil, or_false,
    Option.mem_toList, Option.map_eq_some_iff] at hword
  rcases hword with ⟨name, hname, rfl⟩ | (rfl | rfl | rfl | rfl) | hzone
  · exact hweekday name hname
  · exact isWord_padded ..
  · exact isWord_of_shortMonth d.month_eq
  · exact isWord_padded ..
  · exact isWord_timeText
  · exact d.isWord_zone word hzone

theorem withoutWeekday_words : withoutWeekday d.words = d.dateWords := by
  cases hweekday : d.weekday with
  | none =>
    rw [words, hweekday]
    exact withoutWeekday_padded_cons ..
  | some name => simp [words, hweekday, withoutWeekday]

/-- The parts of a date. -/
def parts : Parts :=
  digitParts d.date d.hour d.minute d.second d.monthName (d.zone.getD [])

/-- The words after the weekday are taken in the order in which they stand, and a missing zone as an
empty one. -/
theorem partsOf?_words :
    partsOf? (separateZone (expandHyphens (withoutWeekday d.words))) = some d.parts := by
  have hday : (padded 2 d.date.day).toList.isEmpty = false :=
    List.isEmpty_eq_false_iff.2 padded_ne_nil
  have hmonth : d.monthName.isEmpty = false :=
    List.isEmpty_eq_false_iff.2 (isWord_of_shortMonth d.month_eq).ne_nil
  have hyear : (padded 4 d.date.year.toNat).toList.isEmpty = false :=
    List.isEmpty_eq_false_iff.2 padded_ne_nil
  rw [d.withoutWeekday_words, dateWords, parts]
  cases d.zone <;>
    simp [expandHyphens, separateZone, zoneSign?_timeText, partsOf?, hday, hmonth, hyear,
      digitParts]

theorem split?_of_words {s : List Char} (h : Text.words s = d.words) :
    split? s = some (digitParts d.date d.hour d.minute d.second (lower d.monthName)
      (d.zone.getD [])) := by
  have hmonth : (month? (lower d.monthName)).isSome = true := by
    rw [month?_of_shortMonth d.isValid d.month_eq]
    rfl
  have hplaces : d.parts.InPlace := inPlace_digitParts
  rw [split?_of_inPlace hplaces hmonth (h ▸ d.partsOf?_words)]
  simp only [parts, digitParts]

/-- The offset of the zone, if there is a zone and it has one. -/
def offset? : Option Int := d.zone.bind zoneOffset?

/-- **The numbers of a date** are read as they are written. -/
theorem read?_of_words {s : List Char} (h : Text.words s = d.words) :
    read? s = some (.ofDate d.fullDate d.hour d.minute d.second d.offset?) := by
  have hzone : zoneOffset? (d.zone.getD []) = d.offset? := by
    rw [offset?]
    cases d.zone with
    | none => rfl
    | some zone => rfl
  rw [read?, d.split?_of_words h, Option.bind_some, ← hzone]
  exact read?_digitParts d.isValid d.hour.isLt d.minute.isLt d.second.isLt d.month_eq

/-! ### The instant of a date -/

theorem isValid_fullDate : d.fullDate.isValid = true := isValid_fullYear d.isValid

variable {d}

theorem offset?_eq_none (h : d.Unplaced) : d.offset? = none := by
  rw [offset?]
  cases hzone : d.zone with
  | none => rfl
  | some zone =>
    by_cases hdenotes : ∃ hhmm, Denotes zone hhmm
    · obtain ⟨hhmm, hhhmm⟩ := hdenotes
      rw [Option.bind_some, zoneOffset?_of_denotes hhhmm, if_pos (h zone hzone hhmm hhhmm)]
    · exact zoneOffset?_of_not_denotes (not_exists.1 hdenotes)

theorem offset?_eq_some {zone : List Char} {hhmm : Int} (hzone : zone ∈ d.zone)
    (hdenotes : Denotes zone hhmm) (hzero : ¬ IsMinusZero zone) :
    d.offset? = some (offsetSeconds hhmm) := by
  rw [offset?, hzone, Option.bind_some, zoneOffset?_of_denotes hdenotes, if_neg hzero]

theorem words_of_isIn {s : String} (hs : d.IsIn s) : Text.words (strip s.toList) = d.words := by
  obtain ⟨before, after, hs, hbefore, hafter⟩ := hs
  rw [hs, words_strip, words_append_append _ hbefore hafter, text,
    words_joined d.isWord_of_mem_words]

theorem parse_eq_ok_iff {s : String} (hs : d.IsIn s) {m : Moment} :
    parse s = .ok m ↔
      (∀ seconds, d.offset? = some seconds → seconds.natAbs < 86400) ∧
      (Moment.universal (d.clockSecond - d.offset?.getD 0) 0).inRange = true ∧
      m = .universal (d.clockSecond - d.offset?.getD 0) 0 := by
  rw [parse_eq_ok_iff_read?, d.read?_of_words (words_of_isIn hs)]
  simp only [Option.some.injEq, exists_eq_left']
  exact instant_ofDate_eq_ok_iff d.isValid_fullDate d.hour.isLt d.minute.isLt d.second.isLt

/-- **A zone that is not known is taken for universal time.** A date is read as if its clock showed
universal time where its zone is missing or denotes no offset, and where it is zero with a minus
sign. Any other zone is taken off: such a date is accepted exactly if the zone is less than a day
from universal time and the instant lies in the years 1 to 9999. -/
theorem parse_dated_eq_ok {s : String} (hs : d.IsIn s) :
    (d.Unplaced → parse s = .ok (.universal d.clockSecond 0)) ∧
    ∀ zone ∈ d.zone, ∀ hhmm, Denotes zone hhmm → ¬ IsMinusZero zone → ∀ m,
      (parse s = .ok m ↔ (offsetSeconds hhmm).natAbs < 86400 ∧
        (Moment.universal (d.clockSecond - offsetSeconds hhmm) 0).inRange = true ∧
        m = .universal (d.clockSecond - offsetSeconds hhmm) 0) := by
  refine ⟨fun hzone => ?_, fun zone hzone hhmm hdenotes hzero m => ?_⟩
  · have hinRange : (Moment.universal d.clockSecond 0).inRange = true :=
      inRange_clockSecond d.isValid_fullDate d.hour.isLt d.minute.isLt d.second.isLt
    rw [parse_eq_ok_iff hs, offset?_eq_none hzone]
    simpa using hinRange
  · rw [parse_eq_ok_iff hs, offset?_eq_some hzone hdenotes hzero]
    simp

/-- A date without a weekday, in a zone that has no offset. -/
def centralEurope : Dated where
  weekday := none
  date := ⟨2022, 1, 19⟩
  monthName := "Jan".toList
  hour := ⟨22, by decide⟩
  minute := ⟨28, by decide⟩
  second := ⟨43, by decide⟩
  zone := some "CET".toList
  weekday_ink := by rintro _ ⟨⟩
  isValid := by decide
  month_eq := by decide +kernel
  isWord_zone := by
    rintro _ ⟨⟩
    exact ⟨by decide, ink_of_any (by decide)⟩

/-- The same time in a zone that has one. -/
def easternTime : Dated where
  weekday := some "Wed".toList
  date := ⟨2022, 1, 19⟩
  monthName := "JAN".toList
  hour := ⟨17, by decide⟩
  minute := ⟨28, by decide⟩
  second := ⟨43, by decide⟩
  zone := some "est".toList
  weekday_ink := by
    rintro _ ⟨⟩
    exact ink_of_any (by decide)
  isValid := by decide
  month_eq := by decide +kernel
  isWord_zone := by
    rintro _ ⟨⟩
    exact ⟨by decide, ink_of_any (by decide)⟩

theorem not_denotes_centralEurope (hhmm : Int) : ¬ Denotes "CET".toList hhmm := by
  rintro (hname | hnumber)
  · have hlookup : zones.lookup (String.ofList (upper "CET".toList)) = none := by decide +kernel
    rw [lookup_zones_of_mem hname] at hlookup
    cases hlookup
  · have hnone : integer? (upper "CET".toList) = none := by decide +kernel
    rw [hnone] at hnumber
    cases hnumber

theorem parse_dated_eq_ok_centralEurope :
    parse "19 Jan 2022 22:28:43 CET" = .ok (.universal centralEurope.clockSecond 0) ∧
      parse "Wed, 19 JAN 2022 17:28:43 est\n" = .ok (.universal centralEurope.clockSecond 0) := by
  have hunknown : centralEurope.IsIn "19 Jan 2022 22:28:43 CET" :=
    ⟨[], [], by decide +kernel, by simp, by simp⟩
  have hknown : easternTime.IsIn "Wed, 19 JAN 2022 17:28:43 est\n" :=
    ⟨[], ['\n'], by decide +kernel, by simp, List.all_eq_true.1 (by decide)⟩
  constructor
  · refine (parse_dated_eq_ok hunknown).1 ?_
    rintro _ ⟨⟩ hhmm hdenotes
    exact absurd hdenotes (not_denotes_centralEurope hhmm)
  · have hoffset : Denotes "est".toList (-500) := .name (by decide +kernel)
    refine ((parse_dated_eq_ok hknown).2 _ rfl _ hoffset (by decide +kernel) _).2 ?_
    exact ⟨by decide, by decide +kernel, by decide +kernel⟩

/-- An unknown zone and a missing one are both accepted, and read as universal time. -/
theorem parse_not_denotes :
    (∀ hhmm, ¬ Denotes "CET".toList hhmm) ∧
      ∃ m, parse "Wed, 19 Jan 2022 22:28:43 GMT" = .ok m ∧
        parse "Wed, 19 Jan 2022 22:28:43 CET" = .ok m ∧ parse "Wed, 19 Jan 2022 22:28:43" = .ok m :=
  ⟨not_denotes_centralEurope, .universal centralEurope.clockSecond 0,
    eq_ok_of_toOption (by decide +kernel), eq_ok_of_toOption (by decide +kernel),
    eq_ok_of_toOption (by decide +kernel)⟩

end Dated

end StorageReply.Rfc1123
