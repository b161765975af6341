import ForeignBridge.Proofs.Calendar.Dates
import ForeignBridge.Proofs.Wire.Check
import ForeignBridge.Proofs.Wire.Parts
import ForeignBridge.Proofs.Wire.Scalar
import ForeignBridge.Proofs.Wire.Writes

/-!
When a value that passed the check is written to its end. Three things can keep it from that: a text that is longer in
bytes than a count holds, or cannot be encoded; a whole number that is too large for a binary64 number; and a
discriminant past the greatest count.
-/

namespace ForeignBridge

open Script

/-! ### Conditions on the parts of a value -/

/-- A text that is kept with halves of surrogate pairs has one. -/
def Genuine.text (v : Value) : Prop := ∀ s, v = .halved s → ¬ Surrogate.Whole s

/-- What holds of every value that there is: the second of a moment is a signed number of 64 bits, a span has no
more days than a span may have, and a member of an enum is one of its members. -/
def Shape.Genuine : Shape → Value → Prop
  | .text, v => Genuine.text v
  | .timestamp, v => ∀ t i, v = .moment t → t.instant? = some i → Layout.i64.Holds (Span.wholeSeconds ⟨i⟩)
  | .duration, v => ∀ s, v = .span s → s.InRange
  | .enumeration e, v => ∀ name value, v = .member e.name name value → Value.lookup name e.members = some value
  | .errors _ _, v => ∀ kind message, v = .declared kind message → Genuine.text message
  | _, _ => True

/-- A date and time with an offset of less than a day is such a moment. -/
theorem Moment.genuine {t : Moment} (h : t.checked = .ok t) (ho : ∀ o, t.offset = some o → -86400 < o ∧ o < 86400) :
    Shape.timestamp.Genuine (.moment t) := by
  rintro _ i ⟨⟩ hi
  obtain ⟨o, hto, rfl⟩ := Option.map_eq_some_iff.mp hi
  obtain ⟨hlow, hhigh⟩ := ho o hto
  obtain ⟨⟨hy, hd⟩, hh, hm, hs, hus⟩ := checked_eq_ok_iff.mp h
  have hfirst := (Calendar.dayOfDate_newYear_le_iff hd 1).mpr hy.1
  have hlast : ¬ Calendar.dayOfDate 10000 1 1 ≤ Calendar.dayOfDate t.year t.month t.day := by
    rw [Calendar.dayOfDate_newYear_le_iff hd]
    omega
  have h1 : Calendar.dayOfDate 1 1 1 = -719162 := by decide
  have h2 : Calendar.dayOfDate 10000 1 1 = 2932897 := by decide
  change (-9223372036854775808 : Int) ≤ _ ∧ _ ≤ (9223372036854775807 : Int)
  simp only [Span.wholeSeconds_eq, wallMicros, Calendar.microsPerSecond]
  omega

/-- What writing asks of a value that passed the check. -/
def Shape.Fits : Shape → Value → Prop
  | .float64, v => ∃ x, Layout.doubleOf v = .ok x
  | .text, v => Carries.text v
  | .enumeration e, v => ∀ name value i, v = .member e.name name value → e.index? name = some i → i + 1 ≤ maxLength
  | .union _ variants, v =>
    ∀ cls bases fields i, v = .record cls bases fields → lastIndex? cls variants.classes = some i → i + 1 ≤ maxLength
  | .errors _ kinds, v => ∀ kind message, v = .declared kind message →
      (∀ i, lastIndex? kind kinds = some i → i + 1 ≤ maxLength) ∧ Carries.text message
  | _, _ => True

/-- Behind the first characters with a property comes one without it, if there is one. -/
theorem List.drop_takeWhile_of_mem {α : Type} {p : α → Bool} {items : List α} {a : α} (ha : a ∈ items)
    (hp : p a = false) : ∃ b rest, items.drop (items.takeWhile p).length = b :: rest ∧ p b = false := by
  induction items with
  | nil => cases ha
  | cons c rest ih =>
    cases hc : p c with
    | false => exact ⟨c, rest, by simp [hc], hc⟩
    | true =>
      obtain rfl | ha := List.mem_cons.mp ha
      · rw [hp] at hc
        cases hc
      · simpa [hc] using ih ha

/-- A text with halves cannot be encoded. -/
theorem Failure.ofEncoding_halves {s : String} (h : ¬ Surrogate.Whole s) : ∃ f, ofEncoding s = .error f := by
  simp only [Surrogate.Whole, Surrogate.IsWhole, not_forall, Bool.not_eq_false] at h
  obtain ⟨c, hc, hh⟩ := h
  obtain ⟨b, rest, hd, hb⟩ := List.drop_takeWhile_of_mem (p := fun c => !Surrogate.isHalf (Surrogate.codeOf c)) hc
    (by rw [hh, Bool.not_true])
  have hb : Surrogate.isHalf (Surrogate.codeOf b) = true := by simpa using hb
  simp [ofEncoding, Surrogate.firstRun?, hd, hb]

theorem Span.microseconds_holds (s : Span) : Layout.u32.Holds (s.microseconds * 1000) := by
  have hm := s.microseconds_eq
  change (0 : Int) ≤ s.microseconds * 1000 ∧ s.microseconds * 1000 ≤ 4294967295
  omega

theorem Span.seconds_holds {s : Span} (hn : 0 ≤ s.micros) (hr : s.InRange) : Layout.u64.Holds s.wholeSeconds := by
  have hd := s.days_eq
  have hs := s.wholeSeconds_eq
  have hh : s.days ≤ 999999999 := hr.2
  change (0 : Int) ≤ s.wholeSeconds ∧ s.wholeSeconds ≤ 18446744073709551615
  omega

namespace Write

theorem encodedText_ends {encoded : Bytes} : (encodedText encoded).failure = none ↔ encoded.length ≤ maxLength := by
  have hc : (countBytes encoded.length).failure = none ↔ encoded.length ≤ maxLength := by
    rw [← Layout.i32_holds_iff]
    exact packInt_failure_iff
  rw [encodedText, append_failure_iff, append_failure_iff, hc]
  constructor
  · rintro ⟨⟨-, h⟩, -⟩
    exact h
  · intro h
    refine ⟨⟨?_, h⟩, rfl⟩
    rw [checkLength_of_le h]
    rfl

theorem text_ends {v : Value} (hg : Genuine.text v) : (text v).failure = none ↔ Carries.text v := by
  cases v with
  | text s => exact encodedText_ends
  | halved s =>
    obtain ⟨f, hf⟩ := Failure.ofEncoding_halves (hg s rfl)
    simp [text, hf, fail, Carries.text]
  | _ => simp [text, fail, Carries.text]

theorem enumeration_ends {e : EnumType} {name : String} {value : Value}
    (hg : Value.lookup name e.members = some value) :
    (enumeration e (.member e.name name value)).failure = none ↔ ∀ i, e.index? name = some i → i + 1 ≤ maxLength := by
  obtain ⟨i, hi, -⟩ := Value.lookup_index hg
  have hi : e.index? name = some i := hi
  simp only [enumeration, if_pos, hi, Option.some.injEq, forall_eq']
  exact discriminantBytes_failure_iff

theorem errors_ends {kind : String} {kinds : List String} {message : Value} (hk : kind ∈ kinds)
    (hg : Genuine.text message) : (errors kinds (.declared kind message)).failure = none ↔
      (∀ i, lastIndex? kind kinds = some i → i + 1 ≤ maxLength) ∧ Carries.text message := by
  obtain ⟨i, hi⟩ := lastIndex?_of_mem hk
  simp only [errors, hi, Option.some.injEq, forall_eq', append_failure_iff, discriminantBytes_failure_iff, text_ends hg]

end Write

/-! ### Every shape -/

theorem Shape.throughout_leaf {P : Shape → Value → Prop} {s : Shape} {v : Value} (h : s.parts v = [(s, v)]) :
    s.Throughout P v ↔ P s v := by
  rw [Throughout, h, List.forall_mem_singleton]

mutual

/-- What passed the check is written to its end just if all of it fits. -/
theorem Shape.write_ends : (s : Shape) → s.isPlain → {v : Value} → s.check v = .ok () → s.Throughout Shape.Genuine v →
    ((s.write v).failure = none ↔ s.Throughout Shape.Fits v)
  | .integer k, _, v, hc, _ => by
    rw [Shape.throughout_leaf rfl]
    obtain ⟨i, rfl, hl, hh⟩ := Check.integer_eq_ok hc
    exact iff_of_true (Write.integer_restores hl hh).1 trivial
  | .float32, _, v, hc, _ => by
    rw [Shape.throughout_leaf rfl]
    obtain ⟨x, bits, hx, hb⟩ := Check.float32_eq_ok hc
    exact iff_of_true (Write.float32_restores hx hb).1 trivial
  | .float64, _, v, hc, _ => by
    rw [Shape.throughout_leaf rfl]
    constructor
    · intro h
      obtain ⟨bs, hb⟩ := ofExcept_failure_iff.mp h
      obtain ⟨x, hx, -⟩ := Except.bind_eq_ok hb
      exact ⟨x, hx⟩
    · rintro ⟨x, hx⟩
      exact (Write.float64_restores hx).1
  | .boolean, _, v, hc, _ => by
    rw [Shape.throughout_leaf rfl]
    obtain ⟨b, rfl⟩ := Check.boolean_eq_ok hc
    exact iff_of_true (Write.boolean_restores b).1 trivial
  | .text, _, v, hc, hg => by
    rw [Shape.throughout_leaf rfl] at *
    exact Write.text_ends hg
  | .bytes, _, v, hc, _ => by
    rw [Shape.throughout_leaf rfl]
    obtain ⟨holder, data, rfl, hl⟩ := Check.bytes_eq_ok hc
    exact iff_of_true (Write.bytes_restores hl).1 trivial
  | .timestamp, _, v, hc, hg => by
    rw [Shape.throughout_leaf rfl] at *
    obtain ⟨t, i, rfl, hi⟩ := Check.timestamp_eq_ok hc
    have hw := (Writes.packInt (hg t i rfl hi)).append (.packInt (Span.microseconds_holds ⟨i⟩))
    simp only [Shape.write, Write.timestamp, hi]
    exact iff_of_true hw.1 trivial
  | .duration, _, v, hc, hg => by
    rw [Shape.throughout_leaf rfl] at *
    obtain ⟨s, rfl, hn⟩ := Check.duration_eq_ok hc
    have hw := (Writes.packInt (Span.seconds_holds hn (hg s rfl))).append (.packInt s.microseconds_holds)
    exact iff_of_true hw.1 trivial
  | .enumeration e, _, v, hc, hg => by
    rw [Shape.throughout_leaf rfl] at *
    obtain ⟨name, value, rfl⟩ := Check.enumeration_eq_ok hc
    rw [Shape.write, Write.enumeration_ends (hg name value rfl)]
    constructor
    · rintro h _ _ i ⟨⟩
      exact h i
    · intro h i
      exact h name value i rfl
  | .errors name kinds, _, v, hc, hg => by
    rw [Shape.throughout_leaf rfl] at *
    obtain ⟨kind, message, rfl, hk, -⟩ := Check.errors_eq_ok hc
    rw [Shape.write, Write.errors_ends hk (hg kind message rfl)]
    constructor
    · rintro h _ _ ⟨⟩
      exact h
    · intro h
      exact h kind message rfl
  | .optional inner, hp, v, hc, hg => by
    by_cases hv : v = .null
    · subst hv
      exact iff_of_true rfl (by simp [Shape.Throughout, Shape.parts])
    · rw [Shape.throughout_optional hv] at *
      rw [Shape.write_optional hv, append_failure_iff, inner.write_ends hp (Shape.check_optional hc hv) hg]
      exact and_iff_right rfl
  | .sequence inner, hp, v, hc, hg => by
    obtain ⟨items, hv, hl, hi⟩ := Shape.check_sequence hc
    rw [Shape.throughout_sequence hv] at *
    have hw : (Shape.sequence inner).write v = countBytes items.length ++ .all (items.map inner.write) := by
      obtain rfl | rfl := hv <;> rfl
    have he : ∀ a ∈ items, (inner.write a).failure = none ↔ inner.Throughout Shape.Fits a :=
      fun a ha => inner.write_ends hp (hi a ha) (hg.2 a ha)
    rw [hw, append_failure_iff, all_failure_iff, List.forall_mem_map, forall₂_congr he]
    exact and_congr_left fun _ => iff_of_true (countBytes_writes hl).1 trivial
  | .map key value, hp, v, hc, hg => by
    obtain ⟨entries, rfl, hl, hi⟩ := Shape.check_map hc
    simp only [Shape.isPlain, Bool.and_eq_true] at hp
    rw [Shape.throughout_map] at *
    have he : ∀ e ∈ entries, (key.write e.1 ++ value.write e.2).failure = none ↔
        key.Throughout Shape.Fits e.1 ∧ value.Throughout Shape.Fits e.2 := by
      intro e he
      rw [append_failure_iff, key.write_ends hp.1 (hi e he).1 (hg.2 e he).1,
        value.write_ends hp.2 (hi e he).2 (hg.2 e he).2]
    rw [Shape.write]
    dsimp only [Value.length?]
    rw [append_failure_iff, all_failure_iff, List.forall_mem_map, forall₂_congr he]
    exact and_congr_left fun _ => iff_of_true (countBytes_writes hl).1 trivial
  | .record cls label fields, hp, v, hc, hg => by
    rw [Shape.throughout_record] at *
    rw [Shape.write, fields.write_ends hp (Shape.check_record hc).2 hg.2]
    exact (and_iff_right trivial).symm
  | .union name variants, hp, v, hc, hg => by
    obtain ⟨cls, bases, fields, i, rfl, hi, hv⟩ := Shape.check_union hc
    rw [Shape.throughout_union hi] at *
    simp only [Shape.write, hi]
    rw [append_failure_iff, discriminantBytes_failure_iff, variants.write_ends hp hv hg.2]
    refine and_congr_left fun _ => ⟨?_, fun h => h cls bases fields i rfl hi⟩
    rintro h _ _ _ j ⟨⟩ hj
    rw [hi] at hj
    cases hj
    exact h

theorem Fields.write_ends : (fs : Fields) → fs.isPlain → {v : Value} → fs.check v = .ok () →
    fs.Throughout Shape.Genuine v → ((fs.write v).failure = none ↔ fs.Throughout Shape.Fits v)
  | .nil, _, _, _, _ => iff_of_true rfl (by simp [Fields.Throughout, Fields.parts])
  | .cons name shape rest, hp, v, hc, hg => by
    obtain ⟨a, ha, hca, hcr⟩ := Fields.check_cons hc
    simp only [Fields.isPlain, Bool.and_eq_true] at hp
    rw [Fields.throughout_cons ha] at *
    simp only [Fields.write, Value.attribute, ha]
    rw [append_failure_iff, shape.write_ends hp.1 hca hg.1, rest.write_ends hp.2 hcr hg.2]

theorem Variants.write_ends : (vs : Variants) → vs.isPlain → {i : Nat} → {v : Value} → vs.check i v = .ok () →
    vs.Throughout Shape.Genuine i v → ((vs.write i v).failure = none ↔ vs.Throughout Shape.Fits i v)
  | .nil, _, _, _, _, _ => iff_of_true rfl (by simp [Variants.Throughout, Variants.parts])
  | .cons _ fields _, hp, 0, v, hc, hg => by
    simp only [Variants.isPlain, Bool.and_eq_true] at hp
    exact fields.write_ends hp.1 hc hg
  | .cons _ _ rest, hp, i + 1, v, hc, hg => by
    simp only [Variants.isPlain, Bool.and_eq_true] at hp
    exact rest.write_ends hp.2 hc hg

end

end ForeignBridge
