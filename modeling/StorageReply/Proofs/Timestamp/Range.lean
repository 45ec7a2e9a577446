import StorageReply.Proofs.Container.Replies

/-!
# Dates beyond range

A text that is no date of the service is refused with the text itself. There is a second way to
fail: the text has the parts of a date, but one of its numbers, or the instant that it names, is
beyond what can be represented (`Rfc1123.Reading.Beyond`). These are the only two
(`parse_eq_error_or_ok`), and the second one arises for no other text
(`parse_eq_outOfRange_iff`).

The date in the headers of a container and the one in a statistics document fail as their texts do.
`timestamp_only_iff` states for which texts the first way is the only one.
-/

namespace StorageReply

/-- Two steps fail with a failure just when the first one does, or the second one on its result. -/
theorem bind_eq_error_iff {ε α β : Type} {x : Except ε α} {f : α → Except ε β} {e : ε} :
    (x >>= f) = .error e ↔ x = .error e ∨ ∃ a, x = .ok a ∧ f a = .error e := by
  cases x with
  | error e' => simp [bind, Except.bind]
  | ok a => simp [bind, Except.bind]

namespace Rfc1123

open Calendar Headers Text

namespace Reading

/-- The offset of a zone is less than a day; it may be unknown. -/
def HasZone (r : Reading) : Prop := ∀ seconds, r.offset = some seconds → seconds.natAbs < 86400

/-- The numbers that the calendar and the clock are asked about. -/
def numbers (r : Reading) : List Int := [r.year, r.day, r.hour, r.minute, r.second]

/-- The calendar has the day, in the years 1 to 9999, and the clock has the time. -/
def IsTime (r : Reading) : Prop :=
  (1 ≤ r.day ∧ (⟨r.year, r.month, r.day.toNat⟩ : Date).isValid = true) ∧
    (0 ≤ r.hour ∧ r.hour < 24) ∧ (0 ≤ r.minute ∧ r.minute < 60) ∧ 0 ≤ r.second ∧ r.second < 60

/-- The wall-clock time of the numbers. -/
def wallClock (r : Reading) : Moment :=
  .ofDate ⟨r.year, r.month, r.day.toNat⟩ r.hour r.minute r.second 0 r.offset

/-- How the numbers of a date can be beyond what can be represented. -/
inductive Beyond (r : Reading) : Prop
  /-- The offset of the zone has more days than a span of time can have. -/
  | offset (seconds : Int) : r.offset = some seconds →
      999999999 < (seconds / Moment.daySeconds).natAbs → Beyond r
  /-- A number of the date or the time does not fit a word. -/
  | number (i : Int) : r.HasZone → i ∈ r.numbers → fitsWord i = false → Beyond r
  /-- The time exists where the zone is, but in universal time it is not in the years 1 to 9999. -/
  | instant : r.HasZone → r.IsTime → r.wallClock.universal? = none → Beyond r

theorem checkOffset_eq_ok_iff {r : Reading} : r.checkOffset = .ok () ↔ r.HasZone := by
  unfold checkOffset HasZone Moment.daySeconds
  cases r.offset with
  | none => simp
  | some seconds =>
    simp only [Option.some.injEq, forall_eq']
    split
    · have hlarge : ¬ seconds.natAbs < 86400 := by omega
      simp [hlarge]
    · split <;> simp_all

theorem checkOffset_eq_outOfRange_iff {r : Reading} :
    r.checkOffset = .error .outOfRange ↔
      ∃ seconds, r.offset = some seconds ∧
        999999999 < (seconds / Moment.daySeconds).natAbs := by
  unfold checkOffset
  cases r.offset with
  | none => simp
  | some seconds =>
    simp only [Option.some.injEq, exists_eq_left']
    split
    · simp_all
    · split <;> simp_all

theorem moment_eq (r : Reading) [Decidable r.IsTime] :
    r.moment =
      if r.numbers.all fitsWord then if r.IsTime then .ok r.wallClock else .error .invalid
      else .error .outOfRange := by
  unfold moment IsTime numbers wallClock
  simp only [Bool.and_eq_true, decide_eq_true_eq, and_assoc]

theorem moment_eq_outOfRange_iff {r : Reading} :
    r.moment = .error .outOfRange ↔ ∃ i ∈ r.numbers, fitsWord i = false := by
  classical
  rw [moment_eq]
  cases hall : r.numbers.all fitsWord with
  | true =>
    have hfits : ¬ ∃ i ∈ r.numbers, fitsWord i = false := by simpa using hall
    by_cases htime : r.IsTime <;> simp [hfits, htime]
  | false =>
    have hfits : ∃ i ∈ r.numbers, fitsWord i = false := by simpa using hall
    simp [hfits]

theorem moment_eq_ok_iff {r : Reading} {m : Moment} :
    r.moment = .ok m ↔ r.numbers.all fitsWord = true ∧ r.IsTime ∧ m = r.wallClock := by
  classical
  rw [moment_eq]
  cases r.numbers.all fitsWord with
  | true => by_cases htime : r.IsTime <;> simp [htime, eq_comm]
  | false => simp

/-- An instant is out of range just when the numbers are beyond what can be represented. -/
theorem instant_eq_outOfRange_iff {r : Reading} : r.instant = .error .outOfRange ↔ r.Beyond := by
  simp only [instant, bind_eq_error_iff, checkOffset_eq_outOfRange_iff, moment_eq_outOfRange_iff,
    moment_eq_ok_iff]
  constructor
  · rintro (⟨seconds, hseconds, hlarge⟩ | ⟨_, hzone, ⟨i, hi, hword⟩ | ⟨m, ⟨-, htime, rfl⟩, hshift⟩⟩)
    · exact .offset seconds hseconds hlarge
    · exact .number i (checkOffset_eq_ok_iff.1 hzone) hi hword
    · refine .instant (checkOffset_eq_ok_iff.1 hzone) htime ?_
      cases hnone : r.wallClock.universal? with
      | none => rfl
      | some u => simp [hnone] at hshift
  · rintro (⟨seconds, hseconds, hlarge⟩ | ⟨i, hzone, hi, hword⟩ | ⟨hzone, htime, hnone⟩)
    · exact .inl ⟨seconds, hseconds, hlarge⟩
    · exact .inr ⟨(), checkOffset_eq_ok_iff.2 hzone, .inl ⟨i, hi, hword⟩⟩
    · refine .inr ⟨(), checkOffset_eq_ok_iff.2 hzone, ?_⟩
      cases hall : r.numbers.all fitsWord with
      | true => exact .inr ⟨_, ⟨rfl, htime, rfl⟩, by simp only [hnone]⟩
      | false => exact .inl (by simpa using hall)

/-- A reading names an instant just when its zone, the calendar and the clock have it, and the
instant lies in the years 1 to 9999 in universal time. -/
theorem instant_eq_ok_iff {r : Reading} {m : Moment} :
    r.instant = .ok m ↔
      r.HasZone ∧ (r.numbers.all fitsWord = true ∧ r.IsTime) ∧ r.wallClock.universal? = some m := by
  rw [instant, bind_eq_ok_iff]
  constructor
  · rintro ⟨_, hzone, hm⟩
    obtain ⟨clock, hclock, hm⟩ := bind_eq_ok_iff.1 hm
    obtain ⟨hwords, htime, rfl⟩ := moment_eq_ok_iff.1 hclock
    refine ⟨checkOffset_eq_ok_iff.1 hzone, ⟨hwords, htime⟩, ?_⟩
    cases hshift : r.wallClock.universal? with
    | none => simp [hshift] at hm
    | some u => simpa [hshift] using hm
  · rintro ⟨hzone, ⟨hwords, htime⟩, hshift⟩
    have hclock : r.moment = .ok r.wallClock := moment_eq_ok_iff.2 ⟨hwords, htime, rfl⟩
    refine ⟨(), checkOffset_eq_ok_iff.2 hzone, bind_eq_ok_iff.2 ⟨_, hclock, ?_⟩⟩
    simp only [hshift]

end Reading

theorem parse_eq_ok_iff_read? {s : String} {m : Moment} :
    parse s = .ok m ↔ ∃ r, read? (strip s.toList) = some r ∧ r.instant = .ok m := by
  unfold parse
  cases read? (strip s.toList) with
  | none => simp
  | some r =>
    simp only [Option.some.injEq, exists_eq_left']
    split <;> simp_all

/-- A text is a date, or is refused with the text itself, or names what is out of range. -/
theorem parse_eq_error_or_ok (s : String) :
    (∃ m, parse s = .ok m) ∨ parse s = .error (.timestamp (.text s)) ∨
      parse s = .error .outOfRange := by
  unfold parse
  split
  · exact .inr (.inl rfl)
  · split
    · exact .inl ⟨_, rfl⟩
    · exact .inr (.inl rfl)
    · exact .inr (.inr rfl)

theorem parse_eq_outOfRange_iff {s : String} :
    parse s = .error .outOfRange ↔ ∃ r, read? (strip s.toList) = some r ∧ r.Beyond := by
  unfold parse
  cases read? (strip s.toList) with
  | none => simp
  | some r =>
    simp only [Option.some.injEq, exists_eq_left', ← Reading.instant_eq_outOfRange_iff]
    split <;> simp_all

/-- The failure of the date in the headers of a container is the failure of reading them. -/
theorem read_properties_of_parse_eq_error {s : String} {failure : Failure}
    (h : parse s = .error failure) (hs : s ≠ "") {r : Response} {v : View} (hv : r.headers = .ok v)
    (hdate : v.header? Name.lastModified = some s) : r.read .properties = .error failure := by
  rw [Response.read_of_headers hv, Headers.Reading.ofView, ContainerProperties.ofView, hdate,
    ContainerProperties.instantOf_of_ne hs, h]
  rfl

/-- The status in a document on replication, where it has one that is known. -/
def statusOf (geo : Xml.Element) : Except Failure ReplicationStatus :=
  ReplicationStatus.parse ((geo.childText? ServiceStats.statusName).getD "")

/-- The failure of the date in a document on replication is the failure of reading it. -/
theorem ofElement_of_parse_eq_error {s : String} {failure : Failure}
    (h : parse s = .error failure) (hs : s ≠ "") {root geo : Xml.Element} {status}
    (hroot : root.localName = ServiceStats.rootName)
    (hgeo : root.child? ServiceStats.geoName = some geo) (hstatus : statusOf geo = .ok status)
    (hdate : geo.childText? ServiceStats.syncName = some s) :
    ServiceStats.ofElement root = .error failure := by
  have hgiven : ((geo.childText? ServiceStats.statusName).getD "").isEmpty = false := by
    rw [Bool.eq_false_iff]
    intro hempty
    rw [statusOf, String.isEmpty_iff.1 hempty] at hstatus
    cases hstatus
  have hsync : ServiceStats.syncTime (some s) = .error failure := by
    rw [ServiceStats.syncTime, if_neg fun hempty => hs (String.isEmpty_iff.1 hempty), h]
    rfl
  rw [statusOf] at hstatus
  rw [ServiceStats.ofElement, Xml.Element.expect, if_pos hroot, hgeo]
  simp only [ServiceStats.geoOf, hgiven, hstatus, hdate, hsync]
  rfl

/-- **A date fails in one way unless it is out of range.** A text is a date in universal time, or is
refused with the text itself, exactly if its numbers, where it has the parts of a date, are not
beyond what can be represented; if they are, that is the failure. Either way it is also the failure
of the headers of a container, and of a document on replication, that have the text for their
date. -/
theorem timestamp_only_iff (s : String) :
    ((((∃ m, parse s = .ok m ∧ m.offset = some 0) ∨ parse s = .error (.timestamp (.text s))) ↔
        ∀ r, read? (strip s.toList) = some r → ¬ r.Beyond) ∧
      ((∃ r, read? (strip s.toList) = some r ∧ r.Beyond) ↔ parse s = .error .outOfRange)) ∧
    ∀ failure, parse s = .error failure → s ≠ "" →
      (∀ (r : Response) (v : View), r.headers = .ok v → v.header? Name.lastModified = some s →
        r.read .properties = .error failure) ∧
      ∀ root geo status, root.localName = ServiceStats.rootName →
        root.child? ServiceStats.geoName = some geo → statusOf geo = .ok status →
        geo.childText? ServiceStats.syncName = some s →
        ServiceStats.ofElement root = .error failure := by
  refine ⟨⟨?_, parse_eq_outOfRange_iff.symm⟩, fun failure h hs =>
    ⟨fun r v hv hdate => read_properties_of_parse_eq_error h hs hv hdate,
      fun root geo status hroot hgeo hstatus hdate =>
        ofElement_of_parse_eq_error h hs hroot hgeo hstatus hdate⟩⟩
  have hrange : (∀ r, read? (strip s.toList) = some r → ¬ r.Beyond) ↔
      parse s ≠ .error .outOfRange := by
    rw [Ne, parse_eq_outOfRange_iff, not_exists]
    exact forall_congr' fun r => not_and.symm
  rw [hrange]
  rcases parse_eq_error_or_ok s with ⟨m, hm⟩ | hrefused | hbeyond
  · simp [hm, parse_offset hm]
  · simp [hrefused]
  · simp [hbeyond]

/-- The last half hour of the year 9999, an hour west of Greenwich. -/
def lateDate : String := "Fri, 31 Dec 9999 23:30:00 -0100"

/-- The headers of a container that was changed then. -/
def lateView : View := .ofEntries [⟨"last-modified", [lateDate]⟩]

/-- Statistics of a service whose secondary location is in step up to then. -/
def lateStats : Xml.Element :=
  .make "StorageServiceStats" ""
    [.make "GeoReplication" ""
      [.make "Status" "live" [], .make "LastSyncTime" (" " ++ lateDate ++ "\n") []]]

theorem exists_beyond_lateDate : ∃ r, read? (strip lateDate.toList) = some r ∧ r.Beyond := by
  refine ⟨⟨9999, 12, 31, 23, 30, 0, some (-3600)⟩, by decide +kernel, ?_⟩
  refine .instant ?_ ?_ (by decide +kernel)
  · rintro _ ⟨⟩
    decide
  · exact ⟨⟨by decide, by decide +kernel⟩, by decide, by decide, by decide⟩

theorem timestamp_only_iff_lateDate :
    (∃ r, read? (strip lateDate.toList) = some r ∧ r.Beyond) ∧
      (Response.view lateView).read .properties = .error .outOfRange ∧
      ServiceStats.ofElement lateStats = .error .outOfRange := by
  obtain ⟨⟨-, hrange⟩, hsurfaces⟩ := timestamp_only_iff lateDate
  have hgeo : lateStats.child? ServiceStats.geoName = some
      (.make "GeoReplication" ""
        [.make "Status" "live" [], .make "LastSyncTime" (" " ++ lateDate ++ "\n") []]) := rfl
  obtain ⟨hheaders, hstats⟩ :=
    hsurfaces _ (hrange.1 exists_beyond_lateDate) (by decide)
  exact ⟨exists_beyond_lateDate, hheaders _ lateView rfl (by decide +kernel),
    hstats _ _ .live (by decide) hgeo (eq_ok_of_toOption (by decide +kernel)) (by decide +kernel)⟩

/-- A text that is neither a date nor refused with the text itself, and headers of a container that
fail as it does. -/
theorem timestamp_not_only :
    ¬ (((∃ m, parse lateDate = .ok m ∧ m.offset = some 0) ∨
        parse lateDate = .error (.timestamp (.text lateDate))) ∨
      (Response.view lateView).read .properties = .error (.timestamp (.text lateDate))) := by
  have hrange : parse lateDate = .error .outOfRange :=
    parse_eq_outOfRange_iff.2 exists_beyond_lateDate
  have hheaders : (Response.view lateView).read .properties = .error .outOfRange :=
    read_properties_of_parse_eq_error hrange (by decide) rfl (by decide +kernel)
  simp [hrange, hheaders]

end Rfc1123

end StorageReply
