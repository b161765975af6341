import ForeignBridge.Proofs.Wire.Limits

/-!
Moments on the wire. What is sent of a moment is its instant, and a reader makes the moment in UTC of it. The calendar
has the same first and last day at every offset, so a moment of one of them may be at an instant that has no moment in
UTC: it is sent, and the reader refuses it.
-/

namespace ForeignBridge

open Script

/-- The instants that have a moment in UTC. -/
def Calendar.Covers (i : Int) : Prop := firstInstant ≤ i ∧ i ≤ lastInstant

namespace Moment

/-- A date and a time of day that there are, with an offset of less than a day. -/
structure IsAware (t : Moment) (offset : Int) : Prop where
  checked : t.checked = .ok t
  zone : t.offset = some offset
  west : -86400 < offset
  east : offset < 86400

variable {t : Moment} {offset i : Int}

theorem IsAware.instant (h : t.IsAware offset) :
    t.instant? = some (t.wallMicros - offset * Calendar.microsPerSecond) := by
  rw [instant?, h.zone]
  rfl

theorem IsAware.holds (h : t.IsAware offset) (hi : t.instant? = some i) : Layout.i64.Holds (Span.wholeSeconds ⟨i⟩) := by
  refine Moment.genuine h.checked (fun o ho => ?_) t i rfl hi
  cases h.zone.symm.trans ho
  exact ⟨h.west, h.east⟩

/-- Past the ends of the calendar in UTC are only moments of its first day, east of UTC, and of its last day, west
of it. -/
theorem IsAware.at_end (h : t.IsAware offset) (hi : t.instant? = some i) (hc : ¬ Calendar.Covers i) :
    (t.year, t.month, t.day) = (1, 1, 1) ∧ 0 < offset ∨ (t.year, t.month, t.day) = (9999, 12, 31) ∧ offset < 0 := by
  obtain ⟨⟨hy, hd⟩, hh, hm, hs, hus⟩ := checked_eq_ok_iff.mp h.checked
  have hwest := h.west
  have heast := h.east
  have hfirst : Calendar.dayOfDate 1 1 1 = -719162 := by decide
  have hlast : Calendar.dayOfDate 9999 12 31 = 2932896 := by decide
  have hnext : Calendar.dayOfDate 10000 1 1 = 2932897 := by decide
  have hlow := (Calendar.dayOfDate_newYear_le_iff hd 1).mpr hy.1
  have hhigh : ¬ Calendar.dayOfDate 10000 1 1 ≤ Calendar.dayOfDate t.year t.month t.day := by
    rw [Calendar.dayOfDate_newYear_le_iff hd]
    omega
  cases hi.symm.trans h.instant
  simp only [Calendar.Covers, Calendar.firstInstant, Calendar.lastInstant, Calendar.microsPerDay,
    Calendar.secondsPerDay, Calendar.microsPerSecond, wallMicros, hfirst, hnext] at hc hlow hhigh
  -- the offset leads over less than a day, so the date is the first or the last one
  have hends : Calendar.dayOfDate t.year t.month t.day = -719162 ∧ 0 < offset ∨
      Calendar.dayOfDate t.year t.month t.day = 2932896 ∧ offset < 0 := by omega
  obtain ⟨hday, ho⟩ | ⟨hday, ho⟩ := hends
  · have hdate : Calendar.IsDate 1 1 1 := ⟨⟨by decide, by decide⟩, by decide, by decide⟩
    obtain ⟨hyear, hmonth, hday⟩ := Calendar.dayOfDate_injective hd hdate (hday.trans hfirst.symm)
    exact .inl ⟨by rw [hyear, hmonth, hday], ho⟩
  · have hdate : Calendar.IsDate 9999 12 31 := ⟨⟨by decide, by decide⟩, by decide, by decide⟩
    obtain ⟨hyear, hmonth, hday⟩ := Calendar.dayOfDate_injective hd hdate (hday.trans hlast.symm)
    exact .inr ⟨by rw [hyear, hmonth, hday], ho⟩

end Moment

namespace Shape

variable {t : Moment} {offset i : Int}

/-- The bytes of an instant: its seconds, rounded down, and the nanoseconds past them. -/
def instantBytes (i : Int) : Bytes :=
  Layout.i64.numeral (Span.wholeSeconds ⟨i⟩) ++ Layout.u32.numeral (Span.microseconds ⟨i⟩ * 1000)

/-- A moment is sent as its instant, wherever this lies. -/
theorem encode_moment (h : t.IsAware offset) (hi : t.instant? = some i) :
    timestamp.check (.moment t) = .ok () ∧ timestamp.encode (.moment t) = .ok (instantBytes i) := by
  have hc : timestamp.check (.moment t) = .ok () := by
    rw [check, Check.timestamp, h.zone]
    rfl
  have hw : (timestamp.write (.moment t)).Writes (instantBytes i) := by
    rw [write, Write.timestamp, hi]
    exact (Writes.packInt (h.holds hi)).append (.packInt (Span.microseconds_holds ⟨i⟩))
  refine ⟨hc, ?_⟩
  rw [encode, hc]
  dsimp only [bind, Except.bind]
  rw [hw.1, hw.2]

/-- The bytes of an instant are read as the moment in UTC that it has, and refused if it has none. -/
theorem decode_instantBytes (hs : Layout.i64.Holds (Span.wholeSeconds ⟨i⟩)) :
    timestamp.decode (instantBytes i) = match Moment.ofInstant? i with
      | some u => .ok (.moment u)
      | none => .error (.invalidValue (.timestampRange (Span.wholeSeconds ⟨i⟩))) := by
  have hw : Span.wholeSeconds ⟨i⟩ = i / 1000000 := Span.wholeSeconds_eq ⟨i⟩
  have hm : Span.microseconds ⟨i⟩ = i % 1000000 := Span.microseconds_eq ⟨i⟩
  have hsum : Span.wholeSeconds ⟨i⟩ * Calendar.microsPerSecond +
      (((Span.microseconds ⟨i⟩ * 1000).toNat / 1000 : Nat) : Int) = i := by
    simp only [Calendar.microsPerSecond]
    omega
  have hseconds : (Reading.int .i64).Consumes (Layout.i64.numeral (Span.wholeSeconds ⟨i⟩)) (Span.wholeSeconds ⟨i⟩) := by
    have h := Reading.Consumes.int (Layout.i64.numeral_length (Span.wholeSeconds ⟨i⟩))
    rwa [Layout.unpackInt_numeral hs] at h
  have hnanos : (Read.nanos "Timestamp").Consumes (Layout.u32.numeral (Span.microseconds ⟨i⟩ * 1000))
      (Span.microseconds ⟨i⟩ * 1000).toNat := by
    have hlow : 0 ≤ Span.microseconds ⟨i⟩ := by omega
    have hhigh : Span.microseconds ⟨i⟩ < 1000000 := by omega
    have h := (Write.nanos_restores hlow hhigh "Timestamp").2
    rwa [(Writes.packInt (Span.microseconds_holds ⟨i⟩)).2] at h
  have hread : timestamp.read .none (.ofBytes (instantBytes i)) = (match Moment.ofInstant? i with
      | some u => pure (.moment u)
      | none => throw (.invalidValue (.timestampRange (Span.wholeSeconds ⟨i⟩))) : Reading Value)
        (.between (instantBytes i) [] []) := by
    have h := hseconds [] (Layout.u32.numeral (Span.microseconds ⟨i⟩ * 1000)) []
    have h' := hnanos (Layout.i64.numeral (Span.wholeSeconds ⟨i⟩)) [] []
    rw [List.append_nil] at h'
    refine (Reading.bind_of_ok h).trans ((Reading.bind_of_ok h').trans ?_)
    rw [hsum]
    rfl
  cases hu : Moment.ofInstant? i with
  | some u =>
    rw [hu] at hread
    have hall : timestamp.readAll .none (.ofBytes (instantBytes i)) = _ :=
      (Reading.bind_of_ok hread).trans (Read.requireEnd_ok _ _ _ [])
    rw [decode, hall]
  | none =>
    rw [hu] at hread
    have hall : timestamp.readAll .none (.ofBytes (instantBytes i)) = _ := Reading.bind_of_error hread
    rw [decode, hall]

/-- Any moment with an offset is sent. It is received, as the moment in UTC at the same instant, if the calendar
has one. It is refused if not, which takes a moment of the first day east of UTC, or of the last day west of it. -/
theorem decode_moment (h : t.IsAware offset) :
    ∃ i bs, t.instant? = some i ∧ timestamp.check (.moment t) = .ok () ∧ timestamp.encode (.moment t) = .ok bs ∧
      ((∃ u, timestamp.decode bs = .ok (.moment u) ∧ u.IsAt i) ∨
        timestamp.decode bs = .error (.invalidValue (.timestampRange (Span.wholeSeconds ⟨i⟩))) ∧
          (∀ u : Moment, ¬ u.IsAt i) ∧
          ((t.year, t.month, t.day) = (1, 1, 1) ∧ 0 < offset ∨
            (t.year, t.month, t.day) = (9999, 12, 31) ∧ offset < 0)) := by
  have hi := h.instant
  obtain ⟨hc, he⟩ := encode_moment h hi
  refine ⟨_, _, hi, hc, he, ?_⟩
  rw [decode_instantBytes (h.holds hi)]
  cases hu : Moment.ofInstant? (t.wallMicros - offset * Calendar.microsPerSecond) with
  | some u => exact .inl ⟨u, rfl, Moment.isAt_ofInstant? hu⟩
  | none =>
    have hnone (u : Moment) (hat : u.IsAt (t.wallMicros - offset * Calendar.microsPerSecond)) : False := by
      rw [Moment.ofInstant?_eq_some_iff.mpr hat] at hu
      cases hu
    refine .inr ⟨rfl, hnone, h.at_end hi fun hcovers => ?_⟩
    obtain ⟨u, hcovered⟩ := Moment.ofInstant?_of_mem hcovers.1 hcovers.2
    exact hnone u (Moment.isAt_ofInstant? hcovered)

/-- The first midnight of the calendar, an hour east of UTC. -/
def firstMidnight : Moment := ⟨1, 1, 1, 0, 0, 0, 0, some 3600⟩

/-- The last microsecond of the calendar, a second west of UTC. -/
def lastMicrosecond : Moment := ⟨9999, 12, 31, 23, 59, 59, 999999, some (-1)⟩

/-- One o'clock on the first day, an hour east of UTC, is received as the midnight before it in UTC. -/
theorem decode_moment_first :
    Moment.IsAware { firstMidnight with hour := 1 } 3600 ∧
      ∃ bs, timestamp.encode (.moment { firstMidnight with hour := 1 }) = .ok bs ∧
        timestamp.decode bs = .ok (.moment { firstMidnight with offset := some 0 }) := by
  have h : Moment.IsAware { firstMidnight with hour := 1 } 3600 := ⟨rfl, rfl, by decide, by decide⟩
  obtain ⟨i, bs, hi, -, he, hd⟩ := decode_moment h
  cases hi
  have hat : Moment.IsAt { firstMidnight with offset := some 0 } Calendar.firstInstant := ⟨rfl, rfl, rfl⟩
  obtain ⟨u, hu, hsame⟩ | ⟨-, hnone, -⟩ := hd
  · cases hsame.unique hat
    exact ⟨h, bs, he, hu⟩
  · exact absurd hat (hnone _)

/-- Both can be sent and cannot be received. -/
theorem sent_past_the_calendar :
    (firstMidnight.checked = .ok firstMidnight ∧ timestamp.check (.moment firstMidnight) = .ok () ∧
      ∃ bs f, timestamp.encode (.moment firstMidnight) = .ok bs ∧ timestamp.decode bs = .error f ∧
        f.className = "InvalidValueError") ∧
    lastMicrosecond.checked = .ok lastMicrosecond ∧ timestamp.check (.moment lastMicrosecond) = .ok () ∧
      ∃ bs f, timestamp.encode (.moment lastMicrosecond) = .ok bs ∧ timestamp.decode bs = .error f ∧
        f.className = "InvalidValueError" :=
  ⟨⟨rfl, rfl, _, _, rfl, rfl, rfl⟩, rfl, rfl, _, _, rfl, rfl, rfl⟩

end Shape

end ForeignBridge
