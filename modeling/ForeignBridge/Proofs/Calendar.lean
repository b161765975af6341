import ForeignBridge.Calendar
import Mathlib.Tactic

/-!
The calendar is consistent: a day number names a date that has this number, and the moment of an instant
is at this instant.
-/

namespace ForeignBridge

namespace Calendar

/-- In an era of 400 years, the day of the year of a day is one of 366. -/
theorem dayOfYear_bounds {d : Int} (h0 : 0 ≤ d) (h1 : d ≤ 146096) :
    let y := (d - d / 1460 + d / 36524 - d / 146096) / 365
    0 ≤ d - (365 * y + y / 4 - y / 100) ∧ d - (365 * y + y / 4 - y / 100) ≤ 365 := by
  intro y
  -- The quotients are linear within one century of days and one century of years.
  have hd : d / 36524 = 0 ∨ d / 36524 = 1 ∨ d / 36524 = 2 ∨ d / 36524 = 3 ∨ d = 146096 := by omega
  have hy : y / 100 = 0 ∨ y / 100 = 1 ∨ y / 100 = 2 ∨ y / 100 = 3 := by omega
  rcases hd with hd | hd | hd | hd | rfl
  case inr.inr.inr.inr => decide
  all_goals
    rcases hy with hy | hy | hy | hy
    all_goals constructor <;> omega

/-- A day number names a date that has this number. -/
theorem dayOfDate_dateOfDay (n : Int) :
    dayOfDate (dateOfDay n).1 (dateOfDay n).2.1 (dateOfDay n).2.2 = n := by
  simp (disch := decide) only [dateOfDay, dayOfDate, Int.fdiv_eq_ediv_of_nonneg, Int.fmod_eq_emod_of_nonneg]
  generalize hz : n + 719468 = z
  generalize hera : z / 146097 = era
  generalize hd : z - era * 146097 = d
  have h0 : 0 ≤ d := by omega
  have h1 : d ≤ 146096 := by omega
  have hb := dayOfYear_bounds h0 h1
  dsimp only at hb
  generalize hy : (d - d / 1460 + d / 36524 - d / 146096) / 365 = y at *
  have hy0 : 0 ≤ y := by omega
  have hy1 : y ≤ 399 := by omega
  generalize hdoy : d - (365 * y + y / 4 - y / 100) = doy at *
  generalize hm : (5 * doy + 2) / 153 = m
  have hm0 : 0 ≤ m ∧ m ≤ 11 := by omega
  clear hy
  by_cases h : m < 10
  · have h2 : ¬ m + 3 ≤ 2 := by omega
    have h3 : (m + 3 + 9) % 12 = m := by omega
    have h4 : (y + era * 400 + 0) / 400 = era := by omega
    have h5 : y + era * 400 + 0 - era * 400 = y := by omega
    simp only [h, h2, if_true, if_false, h3, h4, h5]
    omega
  · have h2 : m - 9 ≤ 2 := by omega
    have h3 : (m - 9 + 9) % 12 = m := by omega
    have h4 : (y + era * 400 + 1 - 1) / 400 = era := by omega
    have h5 : y + era * 400 + 1 - 1 - era * 400 = y := by omega
    simp only [h, h2, if_true, if_false, h3, h4, h5]
    omega

end Calendar

namespace Span

theorem wholeSeconds_eq (s : Span) : s.wholeSeconds = s.micros / 1000000 :=
  Int.fdiv_eq_ediv_of_nonneg _ (by decide)

theorem microseconds_eq (s : Span) : s.microseconds = s.micros % 1000000 :=
  Int.fmod_eq_emod_of_nonneg _ (by decide)

theorem days_eq (s : Span) : s.days = s.micros / 86400000000 :=
  Int.fdiv_eq_ediv_of_nonneg _ (by decide)

end Span

namespace Moment

open Calendar

/-- The moment of an instant is in UTC and at this instant. -/
theorem instant?_ofInstant? {i : Int} {t : Moment} (h : ofInstant? i = some t) :
    t.offset = some 0 ∧ t.instant? = some i := by
  rcases hd : dateOfDay (i.fdiv microsPerDay) with ⟨year, month, day⟩
  have hn := dayOfDate_dateOfDay (i.fdiv microsPerDay)
  simp only [ofInstant?, hd] at h hn
  split at h
  · cases h
    refine ⟨rfl, ?_⟩
    simp only [instant?, wallMicros, hn, Option.map_some]
    simp (disch := decide) only [microsPerDay, secondsPerDay, microsPerSecond, Int.fdiv_eq_ediv_of_nonneg,
      Int.fmod_eq_emod_of_nonneg]
    congr 1
    omega
  · cases h

theorem ofInstant?_of_mem {i : Int} (hl : firstInstant ≤ i) (hh : i ≤ lastInstant) :
    ∃ t, ofInstant? i = some t := by
  unfold ofInstant?
  rw [if_pos ⟨hl, hh⟩]
  exact ⟨_, rfl⟩

end Moment

end ForeignBridge
