import GuestHost.Calendar
import GuestHost.Proofs.Memory

/-! Dates and their records. Weekdays go on from day to day through all that the calendar does with
months and years, and the rest of a record says what the date is. -/
namespace GuestHost

/-- The number that two bytes spell, the higher one first. -/
def Bytes.pairBE (b : ByteArray) (i : Nat) : Nat :=
  256 * (byteAt b i).toNat + (byteAt b (i + 1)).toNat

namespace DateTime

variable {t t' : DateTime} {year : Int} {month day : Nat}

/-- How many days more than 365 a year has. -/
def leapDay (year : Int) : Nat :=
  if isLeap year then 1 else 0

theorem isLeap_iff : isLeap year = true ↔ year % 4 = 0 ∧ (year % 100 ≠ 0 ∨ year % 400 = 0) := by
  simp [isLeap]

/-- The leap days up to the end of a year, from those up to the end of the year before. -/
theorem leapDays_eq (year : Int) : year / 4 - year / 100 + year / 400 =
    (year - 1) / 4 - (year - 1) / 100 + (year - 1) / 400 + leapDay year := by
  unfold leapDay
  by_cases h : isLeap year = true
  · have hrule := isLeap_iff.mp h
    rw [if_pos h]
    omega
  · have hrule := (not_congr isLeap_iff).mp h
    rw [if_neg h]
    omega

theorem daysInMonth_bounds (year : Int) (month : Nat) :
    1 ≤ daysInMonth year month ∧ daysInMonth year month ≤ 31 := by
  unfold daysInMonth
  split
  · split <;> decide
  all_goals decide

theorem daysInMonth_december (year : Int) : daysInMonth year 12 = 31 := rfl

theorem daysBeforeMonth_succ (year : Int) (h : 1 ≤ month) : daysBeforeMonth year (month + 1) =
    daysBeforeMonth year month + daysInMonth year month := by
  obtain ⟨m, rfl⟩ := Nat.exists_eq_succ_of_ne_zero (Nat.ne_of_gt h)
  rfl

theorem daysBeforeMonth_december (year : Int) :
    daysBeforeMonth year 12 + 31 = 365 + leapDay year := by
  cases h : isLeap year <;> simp [daysBeforeMonth, daysInMonth, leapDay, h]

theorem dayNumber_nextMonth (h : 1 ≤ month) :
    dayNumber year (month + 1) 1 = dayNumber year month (daysInMonth year month) + 1 := by
  have hdays := daysBeforeMonth_succ year h
  simp only [dayNumber]
  omega

theorem dayNumber_nextYear (year : Int) : dayNumber (year + 1) 1 1 = dayNumber year 12 31 + 1 := by
  have hleap := leapDays_eq year
  have hdays := daysBeforeMonth_december year
  have hnone : daysBeforeMonth (year + 1) 1 = 0 := rfl
  simp only [dayNumber, hnone]
  omega

/-- The same time of another day. -/
def onDate (t : DateTime) (year : Int) (month day : Nat) : DateTime :=
  { t with year, month, day }

theorem Valid.onDate (h : t.Valid) (hyear : firstYear ≤ year ∧ year ≤ lastYear)
    (hmonth : 1 ≤ month ∧ month ≤ 12) (hday : 1 ≤ day ∧ day ≤ daysInMonth year month) :
    (t.onDate year month day).Valid :=
  { h with year := hyear, month := hmonth, day := hday }

theorem onDate_eq_self (hyear : t.year = year) (hmonth : t.month = month) (hday : t.day = day) :
    t.onDate year month day = t := by
  subst hyear hmonth hday
  rfl

/-- The same time of the day after, in a month as long as it is in that year. -/
def nextDay (t : DateTime) : DateTime :=
  if t.day < daysInMonth t.year t.month then t.onDate t.year t.month (t.day + 1)
  else if t.month < 12 then t.onDate t.year (t.month + 1) 1
  else t.onDate (t.year + 1) 1 1

/-- The first day of year 1 has number 1. -/
def number (t : DateTime) : Int :=
  dayNumber t.year t.month t.day

/-- One case for each thing that a new day can begin: nothing, a month, a year. -/
theorem number_nextDay (h : t.Valid) : t.nextDay.number = t.number + 1 := by
  obtain ⟨hmonth, hmonth'⟩ := h.month
  obtain ⟨hday, hday'⟩ := h.day
  unfold nextDay
  split_ifs with hin hbefore
  · simp only [number, dayNumber, onDate]
    omega
  · have hlast : t.day = daysInMonth t.year t.month := by omega
    rw [number, number, hlast]
    exact dayNumber_nextMonth hmonth
  · have hdecember : t.month = 12 := by omega
    rw [hdecember, daysInMonth_december] at hin hday'
    have hlast : t.day = 31 := by omega
    rw [number, number, hdecember, hlast]
    exact dayNumber_nextYear t.year

theorem weekday_eq (t : DateTime) : (t.weekday : Int) = t.number % 7 :=
  Int.toNat_of_nonneg (Int.emod_nonneg _ (by decide))

theorem weekday_lt (t : DateTime) : t.weekday < 7 := by
  have hnumber := weekday_eq t
  omega

theorem weekday_nextDay (h : t.Valid) : t.nextDay.weekday = (t.weekday + 1) % 7 := by
  have hnumber := number_nextDay h
  have hweekday := weekday_eq t
  have hnext := weekday_eq t.nextDay
  omega

/-- The two times lie on one day. -/
structure SameDay (t t' : DateTime) : Prop where
  year : t.year = t'.year
  month : t.month = t'.month
  day : t.day = t'.day

theorem SameDay.refl (t : DateTime) : t.SameDay t :=
  ⟨rfl, rfl, rfl⟩

theorem SameDay.weekday_eq (h : t.SameDay t') : t.weekday = t'.weekday := by
  rw [weekday, weekday, h.year, h.month, h.day]

/-- Weekdays that go on by one from day to day, counted from zero to six, and that make 10 June 2021
a Thursday. -/
structure Weekdays (w : DateTime → Nat) : Prop where
  lt : ∀ t, t.Valid → w t < 7
  thursday : ∀ t, t.Valid → t.year = 2021 → t.month = 6 → t.day = 10 → w t = 4
  next : ∀ t t', t.Valid → t'.Valid → t'.SameDay t.nextDay → w t' = (w t + 1) % 7

theorem weekdays_weekday : Weekdays weekday where
  lt t _ := weekday_lt t
  thursday t _ hyear hmonth hday := by
    rw [weekday, hyear, hmonth, hday]
    rfl
  next t t' h _ hsame := by
    rw [hsame.weekday_eq, weekday_nextDay h]

section OnDate

variable (t : DateTime)

theorem nextDay_onDate_of_lt (h : day < daysInMonth year month) :
    (t.onDate year month day).nextDay = t.onDate year month (day + 1) :=
  if_pos h

theorem nextDay_onDate_last (h : month < 12) :
    (t.onDate year month (daysInMonth year month)).nextDay = t.onDate year (month + 1) 1 :=
  (if_neg (Nat.lt_irrefl _)).trans (if_pos h)

theorem nextDay_onDate_december (year : Int) :
    (t.onDate year 12 31).nextDay = t.onDate (year + 1) 1 1 :=
  (if_neg (Nat.lt_irrefl _)).trans (if_neg (Nat.lt_irrefl _))

end OnDate

/-- The place of a date among all dates, with gaps. -/
def rank (t : DateTime) : Nat :=
  ((t.year - firstYear).toNat * 12 + t.month) * 32 + t.day

/-- The same time of the first day there is. -/
def onFirstDay (t : DateTime) : DateTime :=
  t.onDate firstYear 1 1

/-- Every other day follows on one: inside a month, on the end of a month or on that of a year. -/
theorem exists_nextDay_eq (h : t.Valid) (hne : t ≠ t.onFirstDay) :
    ∃ year month day, (t.onDate year month day).Valid ∧ (t.onDate year month day).nextDay = t ∧
      (t.onDate year month day).rank < t.rank := by
  obtain ⟨hyear, hyear'⟩ := h.year
  obtain ⟨hmonth, hmonth'⟩ := h.month
  obtain ⟨hday, hday'⟩ := h.day
  by_cases hin : 1 < t.day
  · refine ⟨t.year, t.month, t.day - 1, h.onDate h.year h.month (by omega), ?_, ?_⟩
    · rw [nextDay_onDate_of_lt t (by omega), Nat.sub_add_cancel hday]
      exact onDate_eq_self rfl rfl rfl
    · simp only [rank, onDate]
      omega
  · have hfirst : t.day = 1 := by omega
    by_cases hafter : 1 < t.month
    · obtain ⟨hpos, hle⟩ := daysInMonth_bounds t.year (t.month - 1)
      refine ⟨t.year, t.month - 1, daysInMonth t.year (t.month - 1),
        h.onDate h.year (by omega) ⟨hpos, Nat.le_refl _⟩, ?_, ?_⟩
      · rw [nextDay_onDate_last t (by omega), Nat.sub_add_cancel hmonth]
        exact onDate_eq_self rfl rfl hfirst
      · simp only [rank, onDate]
        omega
    · have hjanuary : t.month = 1 := by omega
      have hlater : t.year ≠ firstYear := fun hyear =>
        hne (onDate_eq_self hyear hjanuary hfirst).symm
      have hlast : 31 ≤ daysInMonth (t.year - 1) 12 := Nat.le_refl 31
      refine ⟨t.year - 1, 12, 31, h.onDate (by omega) (by decide) ⟨by decide, hlast⟩, ?_, ?_⟩
      · rw [nextDay_onDate_december, Int.sub_add_cancel]
        exact onDate_eq_self rfl hjanuary hfirst
      · simp only [rank, onDate]
        omega

namespace Weekdays

variable {w w' : DateTime → Nat}

/-- By induction on the days since the first one: no step changes the difference. -/
theorem sub_emod (hw : Weekdays w) (hw' : Weekdays w') (h : t.Valid) :
    ((w t : Int) - w' t) % 7 = ((w t.onFirstDay : Int) - w' t.onFirstDay) % 7 := by
  induction hn : t.rank using Nat.strongRecOn generalizing t with
  | ind n ih =>
    subst hn
    by_cases hne : t = t.onFirstDay
    · rw [← hne]
    · obtain ⟨year, month, day, hvalid, hnext, hrank⟩ := exists_nextDay_eq h hne
      have hbefore := ih _ hrank hvalid rfl
      have hsame : t.SameDay (t.onDate year month day).nextDay := by
        rw [hnext]
        exact .refl t
      have hstep := hw.next _ t hvalid h hsame
      have hstep' := hw'.next _ t hvalid h hsame
      have hfirst : (t.onDate year month day).onFirstDay = t.onFirstDay := rfl
      rw [hfirst] at hbefore
      omega

/-- There is one way to count them, since they agree on a Thursday. -/
theorem unique (hw : Weekdays w) (hw' : Weekdays w') (h : t.Valid) : w t = w' t := by
  have hthursday : (t.onDate 2021 6 10).Valid := h.onDate (by decide) (by decide) (by decide)
  have hfour := hw.thursday _ hthursday rfl rfl rfl
  have hfour' := hw'.thursday _ hthursday rfl rfl rfl
  have hanchor := sub_emod hw hw' hthursday
  have hdiff := sub_emod hw hw' h
  have hlt := hw.lt t h
  have hlt' := hw'.lt t h
  have hfirst : (t.onDate 2021 6 10).onFirstDay = t.onFirstDay := rfl
  rw [hfirst] at hanchor
  omega

end Weekdays

/-- What can be read in a record. -/
structure Says (r : ByteArray) (t : DateTime) : Prop where
  size : r.size = 16
  year : (Bytes.pairBE r 0 : Int) = max 0 (min 65535 t.year)
  month : (Bytes.byteAt r 2).toNat + 1 = t.month
  hour : (Bytes.byteAt r 4).toNat = t.hour
  minute : (Bytes.byteAt r 5).toNat = t.minute
  second : (Bytes.byteAt r 6).toNat = t.second
  weekday : (Bytes.byteAt r 3).toNat < 7
  again : Bytes.byteAt r 7 = Bytes.byteAt r 3
  rest : r.extract 8 16 = Bytes.zeros 8

theorem clampedYear_eq (t : DateTime) : (t.clampedYear : Int) = max 0 (min 65535 t.year) :=
  Int.toNat_of_nonneg (Int.le_max_left 0 _)

theorem toNat_weekdayByte (t : DateTime) : (Bytes.byteAt t.record 3).toNat = t.weekday :=
  UInt8.toNat_ofNat_of_lt (Nat.lt_of_lt_of_le (weekday_lt t) (by decide))

theorem says_record (h : t.Valid) : Says t.record t where
  size := rfl
  year := by
    rw [← clampedYear_eq]
    have hyear := clampedYear_eq t
    have hhigh : (Bytes.byteAt t.record 0).toNat = t.clampedYear / 256 % 256 := UInt8.toNat_ofNat
    have hlow : (Bytes.byteAt t.record 1).toNat = t.clampedYear % 256 := UInt8.toNat_ofNat
    rw [Bytes.pairBE, hhigh, hlow]
    omega
  month := by
    obtain ⟨hfirst, hlast⟩ := h.month
    have hlt : t.month - 1 < 12 := by omega
    have hmonth : (Bytes.byteAt t.record 2).toNat = t.month - 1 :=
      UInt8.toNat_ofNat_of_lt (Nat.lt_of_lt_of_le hlt (by decide))
    omega
  hour := UInt8.toNat_ofNat_of_lt (Nat.lt_of_lt_of_le h.hour (by decide))
  minute := UInt8.toNat_ofNat_of_lt (Nat.lt_of_lt_of_le h.minute (by decide))
  second := UInt8.toNat_ofNat_of_lt (Nat.lt_of_lt_of_le h.second (by decide))
  weekday := by
    rw [toNat_weekdayByte]
    exact weekday_lt t
  again := rfl
  rest := rfl

/-- A Thursday afternoon. -/
example : record ⟨2021, 6, 10, 13, 45, 7, 0⟩ =
    ⟨#[0x07, 0xe5, 5, 4, 13, 45, 7, 4, 0, 0, 0, 0, 0, 0, 0, 0]⟩ := by decide

/-- The year, month, hour, minute and second that a guest reads in a record. -/
def reading (r : ByteArray) : Int × Nat × Nat × Nat × Nat :=
  (Bytes.pairBE r 0, (Bytes.byteAt r 2).toNat + 1, (Bytes.byteAt r 4).toNat,
    (Bytes.byteAt r 5).toNat, (Bytes.byteAt r 6).toNat)

theorem reading_of_says {r : ByteArray} (h : Says r t) (hyear : 0 ≤ t.year ∧ t.year ≤ 65535) :
    reading r = (t.year, t.month, t.hour, t.minute, t.second) := by
  have hsame : max 0 (min 65535 t.year) = t.year := by omega
  rw [reading, h.year, h.month, h.hour, h.minute, h.second, hsame]

theorem weekdays_record : Weekdays fun t => (Bytes.byteAt t.record 3).toNat := by
  simp only [toNat_weekdayByte]
  exact weekdays_weekday

/-- A record says of every date there is what the calendar says. Its weekdays are the only ones that
go on from day to day. -/
theorem record_exact :
    (∀ t : DateTime, t.Valid → Says t.record t) ∧
    (∀ t : DateTime, t.Valid → 0 ≤ t.year ∧ t.year ≤ 65535 →
      reading t.record = (t.year, t.month, t.hour, t.minute, t.second)) ∧
    Weekdays (fun t => (Bytes.byteAt t.record 3).toNat) ∧
    ∀ w, Weekdays w → ∀ t, t.Valid → (Bytes.byteAt t.record 3).toNat = w t := by
  refine ⟨fun t => says_record, fun t h hyear => ?_, weekdays_record, fun w hw t h => ?_⟩
  · exact reading_of_says (says_record h) hyear
  · exact weekdays_record.unique hw h

/-- A leap second at the end of a February without a leap day. -/
theorem record_exact_centennial :
    let eve : DateTime := ⟨1900, 2, 28, 23, 59, 59, 1_500_000_000⟩
    let morning : DateTime := ⟨1900, 3, 1, 0, 0, 0, 0⟩
    (eve.Valid ∧ reading eve.record = (1900, 2, 23, 59, 59)) ∧
      (morning.Valid ∧ morning.SameDay eve.nextDay ∧ (Bytes.byteAt morning.record 3).toNat =
        ((Bytes.byteAt eve.record 3).toNat + 1) % 7) ∧
      (Bytes.byteAt morning.record 3).toNat = morning.weekday := by
  intro eve morning
  have heve : eve.Valid := by decide
  have hmorning : morning.Valid := by decide
  have hsame : morning.SameDay eve.nextDay := ⟨by decide, by decide, by decide⟩
  obtain ⟨-, hreading, hweekdays, hunique⟩ := record_exact
  exact ⟨⟨heve, hreading eve heve (by decide)⟩,
    ⟨hmorning, hsame, hweekdays.next eve morning heve hmorning hsame⟩,
    hunique weekday weekdays_weekday morning hmorning⟩

end DateTime

end GuestHost
