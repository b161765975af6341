import ForeignBridge.Proofs.Calendar.Dates
import Mathlib.Logic.Function.Iterate

/-!
Days counted one by one. How long a month is says which date follows a date, and the number of a day is how often one
has to go on from the first day of 1970, or how often to get there. So days have their order from their dates, and
times of the same offset from what the clock shows.
-/

namespace ForeignBridge

namespace Calendar

/-- The leap years: every fourth year, but of those that end a century only every fourth. -/
def IsLeap (year : Int) : Prop := year % 4 = 0 ∧ (year % 100 = 0 → year % 400 = 0)

instance (year : Int) : Decidable (IsLeap year) := inferInstanceAs (Decidable (_ ∧ _))

def monthLength (year month : Int) : Int :=
  if month = 2 then if IsLeap year then 29 else 28
  else if month = 4 ∨ month = 6 ∨ month = 9 ∨ month = 11 then 30
  else 31

variable {year month : Int}

theorem daysIn_eq_monthLength (hl : 1 ≤ month) (hh : month ≤ 12) : daysIn year month = monthLength year month := by
  unfold monthLength
  by_cases h2 : month = 2
  · subst h2
    rw [daysIn_february, if_pos rfl]
    unfold marchFirst IsLeap
    split_ifs with hleap
    · omega
    · omega
  · rw [daysIn_other year hl hh h2, if_neg h2]
    unfold daysBefore
    interval_cases month <;> norm_num at *

end Calendar

open Calendar

namespace Date

/-- The date of the next day. -/
def next (d : Date) : Date :=
  if d.day < monthLength d.year d.month then ⟨d.year, d.month, d.day + 1⟩
  else if d.month < 12 then ⟨d.year, d.month + 1, 1⟩
  else ⟨d.year + 1, 1, 1⟩

def number (d : Date) : Int := dayOfDate d.year d.month d.day

/-- A date of the calendar, in any year. -/
def InCalendar (d : Date) : Prop := IsDate d.year d.month d.day

variable {d e : Date}

theorem first_inCalendar {year month : Int} (hl : 1 ≤ month) (hh : month ≤ 12) : InCalendar ⟨year, month, 1⟩ := by
  refine ⟨⟨hl, hh⟩, le_rfl, ?_⟩
  change 1 ≤ daysIn year month
  rw [daysIn_eq_monthLength hl hh]
  unfold monthLength
  split_ifs <;> decide

theorem InCalendar.next (h : d.InCalendar) : d.next.InCalendar := by
  have hmonth := h.1
  unfold Date.next
  split_ifs with hday hyear
  · have hfirst := h.2.1
    refine ⟨hmonth, ?_, ?_⟩
    · change 1 ≤ d.day + 1
      omega
    · change d.day + 1 ≤ daysIn d.year d.month
      rw [daysIn_eq_monthLength hmonth.1 hmonth.2]
      exact hday
  · exact first_inCalendar (by omega) (by omega)
  · exact first_inCalendar (by decide) (by decide)

/-- A date as its numbers, which are compared one after another. -/
def fields (d : Date) : List Int := [d.year, d.month, d.day]

end Date

namespace Moment

def date (t : Moment) : Date := ⟨t.year, t.month, t.day⟩

/-- What a calendar and a clock show, which is compared one number after another. -/
def clock (t : Moment) : List Int := t.date.fields ++ [t.hour, t.minute, t.second, t.microsecond]

end Moment

end ForeignBridge
