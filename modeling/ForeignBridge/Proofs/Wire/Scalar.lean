import ForeignBridge.Proofs.Calendar
import ForeignBridge.Proofs.Text.Utf8
import ForeignBridge.Proofs.Value.Lookup
import ForeignBridge.Proofs.Wire.Script

/-!
Every scalar is read back from what is written of it, whatever stands before and after its bytes.
-/

namespace ForeignBridge

open Script

theorem discriminantBytes_restores {i count : Nat} (hi : i < count) (hm : i + 1 ≤ maxLength)
    (typeName : String) : (discriminantBytes i).Restores (Read.discriminant typeName count) i := by
  have hd : (discriminantBytes i).Restores (Reading.int .i32) (i + 1) := by
    refine .packInt ?_ ?_
    · simp [Layout.least, Layout.signed, Layout.size]
      omega
    · simp [Layout.greatest, Layout.signed, Layout.size, maxLength] at *
      omega
  have hr : 1 ≤ (i : Int) + 1 ∧ (i : Int) + 1 ≤ count := by omega
  refine hd.finish ?_
  rw [if_pos hr]
  simpa using Reading.Consumes.pure i

namespace Layout

theorem ofSingle_unpack (bits : UInt32) :
    f32.unpack (bigEndian 4 bits.toNat) = .float (.ofSingle bits) := by
  simp [unpack, ofBigEndian_bigEndian]

theorem double_unpack (x : Double) : f64.unpack (bigEndian 8 x.bits.toNat) = .float x := by
  simp [unpack, ofBigEndian_bigEndian]

end Layout

theorem lastIndex?_of_mem {name : String} {names : List String} (h : name ∈ names) :
    ∃ i, lastIndex? name names = some i := by
  have hr : (names.reverse.idxOf? name).isSome := by simpa using h
  obtain ⟨j, hj⟩ := Option.isSome_iff_exists.mp hr
  exact ⟨_, by rw [lastIndex?, hj, Option.map_some]⟩

theorem lastIndex?_getElem? {name : String} {names : List String} {i : Nat}
    (h : lastIndex? name names = some i) : names[i]? = some name := by
  obtain ⟨j, hj, rfl⟩ := Option.map_eq_some_iff.mp h
  obtain ⟨hb, hv, -⟩ := List.idxOf?_eq_some_iff.mp hj
  have hn : j < names.length := by simpa using hb
  rw [← List.getElem?_reverse hn, List.getElem?_eq_getElem hb, hv]

theorem lastIndex?_lt {name : String} {names : List String} {i : Nat} (h : lastIndex? name names = some i) :
    i < names.length :=
  (List.getElem?_eq_some_iff.mp (lastIndex?_getElem? h)).1

namespace Write

theorem encodedText_restores {s : String} (h : (Utf8.encode s).length ≤ maxLength) :
    (encodedText (Utf8.encode s)).Restores Read.text (.text s) := by
  have hl : (.ofExcept (checkLength (Utf8.encode s).length "String" *> .ok []) : Script) = .raw [] := by
    rw [checkLength, if_pos (by omega)]
    rfl
  have hn : (.raw [] ++ countBytes (Utf8.encode s).length : Script).Restores (Read.length "String")
      (Utf8.encode s).length := (countBytes_restores h "String").behind
  have ht : (Script.raw (Utf8.encode s)).Restores (Reading.take (Utf8.encode s).length) (Utf8.encode s) :=
    .raw .take
  rw [encodedText, hl]
  refine hn.bind (ht.finish ?_)
  rw [Utf8.decode_encode]
  exact .pure _

theorem bytes_restores {holder : ByteHolder} {data : Bytes} (h : data.length ≤ maxLength) :
    (bytes (.bytes holder data)).Restores Read.bytes (.bytes .frozen data) := by
  have ht : (Script.raw data).Restores (Reading.take data.length) data := .raw .take
  exact (countBytes_restores h "Bytes").bind (ht.finish (.pure _))

theorem nanos_restores {micros : Int} (hl : 0 ≤ micros) (hh : micros < 1000000) (typeName : String) :
    (Script.ofExcept (Layout.u32.packInt (micros * 1000))).Restores (Read.nanos typeName)
      (micros * 1000).toNat := by
  have hp : (Script.ofExcept (Layout.u32.packInt (micros * 1000))).Restores (Reading.int .u32) (micros * 1000) := by
    refine .packInt ?_ ?_
    · simp [Layout.least, Layout.signed]
      omega
    · simp [Layout.greatest, Layout.signed, Layout.size]
      omega
  have hn : ¬ nanosPerSecond ≤ (micros * 1000).toNat := by
    simp only [nanosPerSecond]
    omega
  refine hp.finish ?_
  rw [if_neg hn]
  exact .pure _

/-- A moment is written as the seconds of its instant and the nanoseconds past them. -/
theorem timestamp_parts {t : Moment} {i : Int} (ht : t.instant? = some i)
    (hs : Layout.i64.least ≤ Span.wholeSeconds ⟨i⟩ ∧ Span.wholeSeconds ⟨i⟩ ≤ Layout.i64.greatest) :
    ∃ (a b : Script) (seconds : Int) (nanos : Nat), timestamp (.moment t) = a ++ b ∧
      a.Restores (Reading.int .i64) seconds ∧ b.Restores (Read.nanos "Timestamp") nanos ∧
      seconds * Calendar.microsPerSecond + (nanos / 1000 : Nat) = i := by
  have hw : Span.wholeSeconds ⟨i⟩ = i / 1000000 := Span.wholeSeconds_eq ⟨i⟩
  have hm : Span.microseconds ⟨i⟩ = i % 1000000 := Span.microseconds_eq ⟨i⟩
  have hl : 0 ≤ Span.microseconds ⟨i⟩ := by omega
  refine ⟨_, _, _, _, by rw [timestamp, ht], .packInt hs.1 hs.2, nanos_restores hl (by omega) _, ?_⟩
  simp only [Calendar.microsPerSecond]
  omega

/-- The seconds of an instant of the calendar are a signed number of 64 bits. -/
theorem seconds_bounds {i : Int} (hl : Calendar.firstInstant ≤ i) (hh : i ≤ Calendar.lastInstant) :
    Layout.i64.least ≤ Span.wholeSeconds ⟨i⟩ ∧ Span.wholeSeconds ⟨i⟩ ≤ Layout.i64.greatest := by
  have hw : Span.wholeSeconds ⟨i⟩ = i / 1000000 := Span.wholeSeconds_eq ⟨i⟩
  have hb : -62135596800000000 ≤ i ∧ i ≤ 253402300799999999 := ⟨hl, hh⟩
  change (-9223372036854775808 : Int) ≤ _ ∧ _ ≤ (9223372036854775807 : Int)
  omega

theorem timestamp_restores {t u : Moment} {i : Int} (ht : t.instant? = some i)
    (hu : Moment.ofInstant? i = some u) :
    (timestamp (.moment t)).Restores Read.timestamp (.moment u) := by
  have hi : Calendar.firstInstant ≤ i ∧ i ≤ Calendar.lastInstant := by
    by_contra h
    rw [Moment.ofInstant?, if_neg h] at hu
    cases hu
  obtain ⟨a, b, seconds, nanos, hw, ha, hb, hsum⟩ := timestamp_parts ht (seconds_bounds hi.1 hi.2)
  rw [hw]
  refine ha.bind (hb.finish ?_)
  simp only [hsum, hu]
  exact .pure _

theorem duration_restores {s : Span} (hn : 0 ≤ s.micros) (hr : s.InRange) :
    (duration (.span s)).Restores Read.duration (.span s) := by
  have hs := s.wholeSeconds_eq
  have hm := s.microseconds_eq
  have hd : -999999999 ≤ s.micros / 86400000000 ∧ s.micros / 86400000000 ≤ 999999999 := by
    rw [← s.days_eq]
    exact hr
  have hw : (Script.ofExcept (Layout.u64.packInt s.wholeSeconds)).Restores (Reading.int .u64) s.wholeSeconds := by
    refine .packInt ?_ ?_
    · simp [Layout.least, Layout.signed]
      omega
    · simp [Layout.greatest, Layout.signed, Layout.size]
      omega
  have hl : 0 ≤ s.microseconds := by omega
  have hnanos := nanos_restores hl (by omega) "Duration"
  have hsum : Span.ofParts 0 s.wholeSeconds (((s.microseconds * 1000).toNat / 1000 : Nat) : Int) = s := by
    have hi : (0 * Calendar.secondsPerDay + s.wholeSeconds) * Calendar.microsPerSecond
        + (((s.microseconds * 1000).toNat / 1000 : Nat) : Int) = s.micros := by
      simp only [Calendar.microsPerSecond]
      omega
    simp only [Span.ofParts, hi]
  refine hw.bind (hnanos.finish ?_)
  simp only [hsum]
  rw [if_pos hr]
  exact .pure _

theorem boolean_restores (b : Bool) :
    (Script.ofExcept (Layout.i8.packInt (if (Value.bool b).truthy then 1 else 0))).Restores Read.boolean (.bool b) := by
  have hb : (Script.ofExcept (Layout.i8.packInt (if b then 1 else 0))).Restores (Reading.int .i8)
      (if b then 1 else 0) := by
    cases b <;> exact .packInt (by decide) (by decide)
  refine hb.finish ?_
  cases b <;> exact .pure _

theorem integer_restores {k : IntKind} {i : Int} (hl : k.layout.least ≤ i) (hh : i ≤ k.layout.greatest) :
    (Script.ofExcept (k.layout.pack (.int i))).Restores (Reading.scalar k.layout) (.int i) := by
  obtain ⟨bs, hb⟩ := Layout.packInt_ok hl hh
  obtain ⟨hn, hi⟩ := Layout.packInt_eq_ok hb
  have hp : k.layout.pack (.int i) = k.layout.packInt i := by cases k <;> rfl
  have hu : k.layout.unpack bs = .int (k.layout.unpackInt bs) := by cases k <;> rfl
  refine .ofExcept (hp.trans hb) ?_
  simpa only [hu, hi] using Reading.Consumes.scalar hn

theorem float32_restores {v : Value} {x : Double} {bits : UInt32} (hx : Layout.doubleOf v = .ok x)
    (hb : x.toSingle? = some bits) :
    (Script.ofExcept (Layout.f32.pack v)).Restores (Reading.scalar .f32) (.float (.ofSingle bits)) := by
  have hp : Layout.f32.pack v = .ok (bigEndian 4 bits.toNat) := by
    simp only [Layout.pack, hx, bind, Except.bind, hb]
  refine .ofExcept hp ?_
  simpa only [Layout.ofSingle_unpack] using Reading.Consumes.scalar (l := .f32) (bigEndian_length 4 bits.toNat)

theorem float64_restores {v : Value} {x : Double} (hx : Layout.doubleOf v = .ok x) :
    (Script.ofExcept (Layout.f64.pack v)).Restores (Reading.scalar .f64) (.float x) := by
  have hp : Layout.f64.pack v = .ok (bigEndian 8 x.bits.toNat) := by
    simp only [Layout.pack, hx, bind, Except.bind]
  refine .ofExcept hp ?_
  simpa only [Layout.double_unpack] using Reading.Consumes.scalar (l := .f64) (bigEndian_length 8 x.bits.toNat)

theorem enumeration_restores {e : EnumType} {name : String} {value : Value}
    (hm : Value.lookup name e.members = some value) (hc : ∀ i, e.index? name = some i → i + 1 ≤ maxLength) :
    (enumeration e (.member e.name name value)).Restores (Read.enumeration e) (.member e.name name value) := by
  obtain ⟨i, hi, hv⟩ := Value.lookup_index hm
  have hn : i < e.members.length := (List.getElem?_eq_some_iff.mp hv).1
  have hd := discriminantBytes_restores hn (hc i hi) e.name
  simp only [enumeration, if_pos, EnumType.index?, hi]
  refine hd.finish ?_
  simp only [hv]
  exact .pure _

theorem errors_restores {name kind : String} {kinds : List String} {s : String} (hk : kind ∈ kinds)
    (hc : ∀ i, lastIndex? kind kinds = some i → i + 1 ≤ maxLength) (hs : (Utf8.encode s).length ≤ maxLength) :
    (errors kinds (.declared kind (.text s))).Restores (Read.errors name kinds) (.declared kind (.text s)) := by
  obtain ⟨i, hi⟩ := lastIndex?_of_mem hk
  have hd := discriminantBytes_restores (lastIndex?_lt hi) (hc i hi) name
  have ht := encodedText_restores hs
  simp only [errors, hi]
  refine hd.bind ?_
  simp only [lastIndex?_getElem? hi]
  exact ht.finish (.pure _)

end Write

end ForeignBridge
