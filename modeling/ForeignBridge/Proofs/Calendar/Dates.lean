import ForeignBridge.Proofs.Calendar

/-!
Dates and their day numbers. Years are counted from March, so that the leap day is the last of its year; every
day number is one date's, and every instant of the calendar is one moment's in UTC.
-/

namespace ForeignBridge

namespace Calendar

/-- The first day of a year that begins in March. -/
def marchFirst (y : Int) : Int := 365 * y + y / 4 - y / 100 + y / 400 - 719468

/-- The days of a year that begins in March before one of its months. -/
def daysBefore (monthFromMarch : Int) : Int := (153 * monthFromMarch + 2) / 5

theorem dayOfDate_eq (year month day : Int) :
    dayOfDate year month day =
      marchFirst (if month ≤ 2 then year - 1 else year) + daysBefore ((month + 9) % 12) + day - 1 := by
  simp (disch := decide) only [dayOfDate, Int.fdiv_eq_ediv_of_nonneg, Int.fmod_eq_emod_of_nonneg, marchFirst,
    daysBefore]
  omega

theorem marchFirst_gap (y : Int) : marchFirst y + 365 ≤ marchFirst (y + 1) := by
  unfold marchFirst
  omega

/-- Years follow one another. -/
theorem marchFirst_mono {y z : Int} (h : y < z) : marchFirst (y + 1) ≤ marchFirst z := by
  unfold marchFirst
  omega

theorem marchFirst_era (y era : Int) : marchFirst (y + era * 400) = marchFirst y + era * 146097 := by
  have h4 : (y + era * 400) / 4 = y / 4 + era * 100 := by omega
  have h100 : (y + era * 400) / 100 = y / 100 + era * 4 := by omega
  have h400 : (y + era * 400) / 400 = y / 400 + era := by omega
  rw [marchFirst, marchFirst, h4, h100, h400]
  ring

/-- How many days a month has. -/
def daysIn (year month : Int) : Int :=
  (if month = 12 then dayOfDate (year + 1) 1 1 else dayOfDate year (month + 1) 1) - dayOfDate year month 1

theorem daysIn_february (year : Int) : daysIn year 2 = marchFirst year - marchFirst (year - 1) - 337 := by
  simp only [daysIn, dayOfDate_eq]
  norm_num [daysBefore]
  omega

theorem daysIn_other {month : Int} (year : Int) (hl : 1 ≤ month) (hh : month ≤ 12) (h : month ≠ 2) :
    daysIn year month = daysBefore ((month + 9) % 12 + 1) - daysBefore ((month + 9) % 12) := by
  simp only [daysIn, dayOfDate_eq, daysBefore]
  interval_cases month <;> norm_num at *

/-- In an era of 400 years, a day falls before the end of its year. -/
theorem dayOfEra_lt {d : Int} (h0 : 0 ≤ d) (h1 : d ≤ 146096) :
    let y := (d - d / 1460 + d / 36524 - d / 146096) / 365
    0 ≤ y ∧ y ≤ 399 ∧ d < 365 * (y + 1) + (y + 1) / 4 - (y + 1) / 100 + (y + 1) / 400 := by
  intro y
  have hd : d / 36524 = 0 ∨ d / 36524 = 1 ∨ d / 36524 = 2 ∨ d / 36524 = 3 ∨ d = 146096 := by omega
  have hy : y / 100 = 0 ∨ y / 100 = 1 ∨ y / 100 = 2 ∨ y / 100 = 3 := by omega
  have hc : (y + 1) / 100 = y / 100 ∨ y = 99 ∨ y = 199 ∨ y = 299 ∨ y = 399 := by omega
  rcases hd with hd | hd | hd | hd | rfl
  case inr.inr.inr.inr => decide
  all_goals
    refine ⟨by omega, by omega, ?_⟩
    rcases hc with hc | hc | hc | hc | hc
    case inl =>
      have h4 : (y + 1) / 400 = 0 := by omega
      rcases hy with hy | hy | hy | hy
      all_goals omega
    all_goals
      rw [hc]
      omega

/-- A day number is a day of a year that begins in March, and its date is told from there. -/
theorem dateOfDay_eq (n : Int) :
    ∃ y, marchFirst y ≤ n ∧ n < marchFirst (y + 1) ∧
      let doy := n - marchFirst y
      let m := (5 * doy + 2) / 153
      let month := if m < 10 then m + 3 else m - 9
      dateOfDay n = (y + (if month ≤ 2 then 1 else 0), month, doy - daysBefore m + 1) := by
  simp (disch := decide) only [dateOfDay, Int.fdiv_eq_ediv_of_nonneg]
  generalize hz : n + 719468 = z
  generalize hera : z / 146097 = era
  generalize hd : z - era * 146097 = d
  have h0 : 0 ≤ d := by omega
  have h1 : d ≤ 146096 := by omega
  have hb := dayOfYear_bounds h0 h1
  have hl := dayOfEra_lt h0 h1
  dsimp only at hb hl
  generalize hy : (d - d / 1460 + d / 36524 - d / 146096) / 365 = y at *
  clear hy
  have hm : marchFirst (y + era * 400) = 365 * y + y / 4 - y / 100 + era * 146097 - 719468 := by
    have h400 : y / 400 = 0 := by omega
    rw [marchFirst_era, marchFirst, h400]
    ring
  have hn : marchFirst (y + era * 400 + 1) =
      365 * (y + 1) + (y + 1) / 4 - (y + 1) / 100 + (y + 1) / 400 + era * 146097 - 719468 := by
    rw [add_right_comm, marchFirst_era, marchFirst]
    ring
  have hdoy : n - marchFirst (y + era * 400) = d - (365 * y + y / 4 - y / 100) := by omega
  refine ⟨y + era * 400, by omega, by omega, ?_⟩
  simp only [hdoy, daysBefore]

/-- A date of the calendar, in any year. -/
def IsDate (year month day : Int) : Prop :=
  (1 ≤ month ∧ month ≤ 12) ∧ 1 ≤ day ∧ day ≤ daysIn year month

/-- A date falls into its month, and so into its year. -/
theorem IsDate.mem_year {year month day : Int} (h : IsDate year month day) :
    let y := if month ≤ 2 then year - 1 else year
    let m := (month + 9) % 12
    marchFirst y + daysBefore m ≤ dayOfDate year month day ∧ dayOfDate year month day < marchFirst (y + 1) ∧
      (m < 11 → dayOfDate year month day < marchFirst y + daysBefore (m + 1)) := by
  obtain ⟨⟨hl, hh⟩, h1, hd⟩ := h
  intro y m
  have he : dayOfDate year month day = marchFirst y + daysBefore m + day - 1 := dayOfDate_eq year month day
  have hy := marchFirst_gap y
  rw [he]
  by_cases h2 : month = 2
  · subst h2
    rw [daysIn_february] at hd
    have hm : daysBefore m = 337 := rfl
    have hn : y + 1 = year := by omega
    have hy' : y = year - 1 := by omega
    rw [hm, hn, hy']
    exact ⟨by omega, by omega, fun h => absurd h (by decide)⟩
  · rw [daysIn_other year hl hh h2] at hd
    have hm : m ≤ 10 := by omega
    change day ≤ daysBefore (m + 1) - daysBefore m at hd
    have hlast : daysBefore (m + 1) ≤ 337 := by
      unfold daysBefore
      omega
    exact ⟨by omega, by omega, fun _ => by omega⟩

/-- No two dates have the same day number. -/
theorem dayOfDate_injective {year month day year' month' day' : Int} (h : IsDate year month day)
    (h' : IsDate year' month' day') (he : dayOfDate year month day = dayOfDate year' month' day') :
    year = year' ∧ month = month' ∧ day = day' := by
  obtain ⟨hl, hh, hm⟩ := h.mem_year
  obtain ⟨hl', hh', hm'⟩ := h'.mem_year
  have hn := dayOfDate_eq year month day
  have hn' := dayOfDate_eq year' month' day'
  obtain ⟨hmonth, -⟩ := h
  obtain ⟨hmonth', -⟩ := h'
  rw [← he] at hl' hh' hm' hn'
  generalize dayOfDate year month day = n at *
  generalize hy : (if month ≤ 2 then year - 1 else year) = y at *
  generalize hy' : (if month' ≤ 2 then year' - 1 else year') = y' at *
  have h0 : 0 ≤ daysBefore ((month + 9) % 12) := by
    unfold daysBefore
    omega
  have h0' : 0 ≤ daysBefore ((month' + 9) % 12) := by
    unfold daysBefore
    omega
  have hyy : y = y' := by
    rcases lt_trichotomy y y' with hlt | heq | hlt
    · have := marchFirst_mono hlt
      omega
    · exact heq
    · have := marchFirst_mono hlt
      omega
  subst hyy
  have hmm : (month + 9) % 12 = (month' + 9) % 12 := by
    unfold daysBefore at *
    omega
  rw [hmm] at hn
  omega

theorem isDate_dateOfDay {n year month day : Int} (h : dateOfDay n = (year, month, day)) :
    IsDate year month day := by
  obtain ⟨y, hl, hh, hd⟩ := dateOfDay_eq n
  dsimp only at hd
  rw [h] at hd
  generalize hdoy : n - marchFirst y = doy at hd
  have hdoy0 : 0 ≤ doy := by omega
  generalize hm : (5 * doy + 2) / 153 = m at hd
  obtain ⟨hyear, hmonth, hday⟩ : year = y + (if (if m < 10 then m + 3 else m - 9) ≤ 2 then 1 else 0) ∧
      month = (if m < 10 then m + 3 else m - 9) ∧ day = doy - daysBefore m + 1 := by
    simpa using hd
  have hlen : marchFirst (y + 1) ≤ marchFirst y + 366 := by
    unfold marchFirst
    omega
  have hm12 : 0 ≤ m ∧ m ≤ 11 := by omega
  have hm9 : (month + 9) % 12 = m := by
    split_ifs at hmonth <;> omega
  have h1 : 1 ≤ day := by
    unfold daysBefore at hday
    omega
  have hmonth12 : 1 ≤ month ∧ month ≤ 12 := by split_ifs at hmonth <;> omega
  refine ⟨hmonth12, h1, ?_⟩
  by_cases h2 : month = 2
  · have hy : year = y + 1 := by
      rw [← hmonth, if_pos (by omega)] at hyear
      exact hyear
    have hm11 : m = 11 := by omega
    subst h2 hy hm11
    rw [daysIn_february, add_sub_cancel_right]
    have hb : daysBefore 11 = 337 := rfl
    omega
  · rw [daysIn_other year hmonth12.1 hmonth12.2 h2, hm9]
    unfold daysBefore at *
    omega

/-- A date is not before the first day of a year just if its year is not before that year. -/
theorem dayOfDate_newYear_le_iff {year month day : Int} (h : IsDate year month day) (y : Int) :
    dayOfDate y 1 1 ≤ dayOfDate year month day ↔ y ≤ year := by
  obtain ⟨hl, hh, hm⟩ := h.mem_year
  obtain ⟨hmonth, -⟩ := h
  have hfirst : dayOfDate y 1 1 = marchFirst (y - 1) + 306 := by
    rw [dayOfDate_eq]
    norm_num [daysBefore]
  have hgap := marchFirst_gap (y - 1)
  rw [hfirst]
  generalize dayOfDate year month day = n at *
  by_cases h2 : month ≤ 2
  · rw [if_pos h2] at hl hh
    have hb : 306 ≤ daysBefore ((month + 9) % 12) := by
      unfold daysBefore
      omega
    rcases lt_trichotomy (year - 1) (y - 1) with hlt | heq | hlt
    · have := marchFirst_mono hlt
      omega
    · rw [heq] at hl
      omega
    · have := marchFirst_mono hlt
      omega
  · rw [if_neg h2] at hl hh hm
    have hb : 0 ≤ daysBefore ((month + 9) % 12) ∧ daysBefore ((month + 9) % 12 + 1) ≤ 306 := by
      unfold daysBefore
      omega
    have hn := hm (by omega)
    rcases lt_trichotomy year (y - 1) with hlt | heq | hlt
    · have := marchFirst_mono hlt
      omega
    · rw [heq] at hn
      omega
    · have := marchFirst_mono hlt
      omega

end Calendar

open Calendar

theorem Date.checked_eq_ok_iff {year month day : Int} {d : Date} :
    checked year month day = .ok d ↔
      (1 ≤ year ∧ year ≤ 9999) ∧ IsDate year month day ∧ d = ⟨year, month, day⟩ := by
  have hn : (if month = 12 then dayOfDate (year + 1) 1 1 else dayOfDate year (month + 1) 1) - dayOfDate year month 1 =
      daysIn year month := rfl
  simp only [checked, hn, IsDate, Bool.or_eq_true, decide_eq_true_eq]
  split_ifs with hy hm hd
  · simp only [false_iff]
    omega
  · simp only [false_iff]
    omega
  · simp only [false_iff]
    omega
  · simp only [Except.ok.injEq]
    constructor
    · rintro rfl
      exact ⟨by omega, by omega, rfl⟩
    · rintro ⟨-, -, rfl⟩
      rfl

namespace Moment

theorem checked_eq_ok_iff {t : Moment} :
    t.checked = .ok t ↔ ((1 ≤ t.year ∧ t.year ≤ 9999) ∧ IsDate t.year t.month t.day) ∧
      (0 ≤ t.hour ∧ t.hour ≤ 23) ∧ (0 ≤ t.minute ∧ t.minute ≤ 59) ∧ (0 ≤ t.second ∧ t.second ≤ 59) ∧
      0 ≤ t.microsecond ∧ t.microsecond ≤ 999999 := by
  unfold checked
  cases hd : Date.checked t.year t.month t.day with
  | error f =>
    have hn : ¬ ((1 ≤ t.year ∧ t.year ≤ 9999) ∧ IsDate t.year t.month t.day) := by
      intro h
      rw [Date.checked_eq_ok_iff.mpr ⟨h.1, h.2, rfl⟩] at hd
      cases hd
    simp [bind, Except.bind, hn]
  | ok d =>
    obtain ⟨hy, hdate, -⟩ := Date.checked_eq_ok_iff.mp hd
    simp only [bind, Except.bind, Bool.or_eq_true, decide_eq_true_eq, hy, hdate, and_self, true_and]
    split_ifs <;> simp [pure, Except.pure] <;> omega

/-- The moment in UTC at an instant: it has a date and a time of day of the calendar, which together are this
instant. -/
structure IsAt (t : Moment) (instant : Int) : Prop where
  checked : t.checked = .ok t
  utc : t.offset = some 0
  instant : t.instant? = some instant

/-- A moment at an instant is a day and a time of that day. -/
theorem IsAt.day {t : Moment} {i : Int} (h : t.IsAt i) :
    IsDate t.year t.month t.day ∧ (1 ≤ t.year ∧ t.year ≤ 9999) ∧ dayOfDate t.year t.month t.day = i / microsPerDay ∧
      t.hour = i % microsPerDay / 3600000000 ∧ t.minute = i % microsPerDay / 60000000 % 60 ∧
      t.second = i % microsPerDay / 1000000 % 60 ∧ t.microsecond = i % microsPerDay % 1000000 := by
  obtain ⟨⟨hy, hd⟩, hh, hm, hs, hus⟩ := checked_eq_ok_iff.mp h.checked
  have hi : t.wallMicros = i := by
    have hw := h.instant
    rw [instant?, h.utc] at hw
    simpa using hw
  simp only [wallMicros, microsPerSecond] at hi
  simp only [microsPerDay, secondsPerDay, microsPerSecond]
  generalize dayOfDate t.year t.month t.day = n at *
  exact ⟨hd, hy, by omega, by omega, by omega, by omega, by omega⟩

theorem IsAt.unique {t u : Moment} {i : Int} (h : t.IsAt i) (h' : u.IsAt i) : t = u := by
  obtain ⟨hd, -, hn, hh, hm, hs, hus⟩ := h.day
  obtain ⟨hd', -, hn', hh', hm', hs', hus'⟩ := h'.day
  obtain ⟨hyear, hmonth, hday⟩ := dayOfDate_injective hd hd' (hn.trans hn'.symm)
  have ho : t.offset = u.offset := h.utc.trans h'.utc.symm
  cases t
  cases u
  simp_all

theorem IsAt.bounds {t : Moment} {i : Int} (h : t.IsAt i) : firstInstant ≤ i ∧ i ≤ lastInstant := by
  obtain ⟨hd, hy, hn, -⟩ := h.day
  have hl := (dayOfDate_newYear_le_iff hd 1).mpr hy.1
  have hh : ¬ dayOfDate 10000 1 1 ≤ dayOfDate t.year t.month t.day := by
    rw [dayOfDate_newYear_le_iff hd]
    omega
  rw [hn] at hl hh
  simp only [firstInstant, lastInstant, microsPerDay, secondsPerDay, microsPerSecond] at *
  omega

theorem isAt_ofInstant? {i : Int} {t : Moment} (h : ofInstant? i = some t) : t.IsAt i := by
  obtain ⟨ho, hi⟩ := instant?_ofInstant? h
  refine ⟨checked_eq_ok_iff.mpr ?_, ho, hi⟩
  rcases hd : dateOfDay (i.fdiv microsPerDay) with ⟨year, month, day⟩
  have hdate := isDate_dateOfDay hd
  have hn := dayOfDate_dateOfDay (i.fdiv microsPerDay)
  simp only [ofInstant?, hd] at h hn
  split at h
  · rename_i hrange
    cases h
    have hy : 1 ≤ year ∧ year ≤ 9999 := by
      have hl := dayOfDate_newYear_le_iff hdate 1
      have hh := dayOfDate_newYear_le_iff hdate 10000
      rw [hn] at hl hh
      simp (disch := decide) only [firstInstant, lastInstant, microsPerDay, secondsPerDay, microsPerSecond,
        Int.fdiv_eq_ediv_of_nonneg] at *
      omega
    refine ⟨⟨hy, hdate⟩, ?_⟩
    simp (disch := decide) only [microsPerDay, secondsPerDay, microsPerSecond, Int.fdiv_eq_ediv_of_nonneg,
      Int.fmod_eq_emod_of_nonneg]
    omega
  · cases h

/-- Every instant of the calendar has one moment in UTC, and other instants have none. -/
theorem ofInstant?_eq_some_iff {i : Int} {t : Moment} : ofInstant? i = some t ↔ t.IsAt i := by
  refine ⟨isAt_ofInstant?, fun h => ?_⟩
  obtain ⟨hl, hh⟩ := h.bounds
  obtain ⟨u, hu⟩ := ofInstant?_of_mem hl hh
  rw [hu, h.unique (isAt_ofInstant? hu)]

end Moment

end ForeignBridge
