import ForeignBridge.Proofs.Wire.RoundTrip
import ForeignBridge.Proofs.Wire.Words.Check

/-!
How a write fails whose value passed the check, and so how an encoding fails.
-/

namespace ForeignBridge

open Surrogate FailsInWords Failure

variable {v : Value}

/-- A script that fails, if it does, in such a way. -/
def Script.FailsAs (P : Failure → Prop) (s : Script) : Prop := ∀ f, s.failure = some f → P f

/-- A script that fails, if it does, in words. -/
def Script.FailsInWords (s : Script) : Prop := ∀ f, s.failure = some f → f.Worded

namespace Script.FailsAs

variable {P : Failure → Prop} {a b : Script}

theorem raw (data : Bytes) : (Script.raw data).FailsAs P := nofun

theorem empty : Script.empty.FailsAs P := nofun

theorem fail {f : Failure} (h : P f) : (Script.fail f).FailsAs P := by
  intro g hg
  cases hg
  exact h

theorem ofExcept {r : Except Failure Bytes} (h : ForeignBridge.FailsAs P r) : (Script.ofExcept r).FailsAs P := by
  cases r with
  | ok data => exact raw data
  | error f => exact fail (h f rfl)

theorem append (ha : a.FailsAs P) (hb : b.FailsAs P) : (a ++ b).FailsAs P := by
  intro f hf
  cases hx : a.failure with
  | none =>
    rw [append_failure hx] at hf
    exact hb f hf
  | some g =>
    change (a.andThen b).failure = some f at hf
    rw [andThen, hx] at hf
    exact ha f hf

theorem all {scripts : List Script} (h : ∀ s ∈ scripts, s.FailsAs P) : (Script.all scripts).FailsAs P := by
  induction scripts with
  | nil => exact empty
  | cons s rest ih => exact append (h s (by simp)) (ih fun t ht => h t (by simp [ht]))

end Script.FailsAs

namespace Script.FailsInWords

variable {a b : Script}

theorem raw (data : Bytes) : (Script.raw data).FailsInWords := FailsAs.raw data

theorem empty : Script.empty.FailsInWords := FailsAs.empty

theorem fail {f : Failure} (h : f.Worded) : (Script.fail f).FailsInWords := FailsAs.fail h

theorem ofExcept {r : Except Failure Bytes} (h : ForeignBridge.FailsInWords r) :
    (Script.ofExcept r).FailsInWords := FailsAs.ofExcept h

theorem append (ha : a.FailsInWords) (hb : b.FailsInWords) : (a ++ b).FailsInWords := FailsAs.append ha hb

theorem all {scripts : List Script} (h : ∀ s ∈ scripts, s.FailsInWords) : (Script.all scripts).FailsInWords :=
  FailsAs.all h

end Script.FailsInWords

theorem Layout.whole_rangeText (l : Layout) : Whole l.rangeText := by
  cases l <;> decide

theorem Layout.packInt_failsInWords (l : Layout) (i : Int) : FailsInWords (l.packInt i) := by
  unfold packInt
  split
  · exact ok _
  · exact error (.packing l.whole_rangeText)

theorem Layout.doubleOf_failsInWords (v : Value) : FailsInWords (doubleOf v) := by
  unfold doubleOf
  split
  · exact ok _
  · split
    · exact ok _
    · exact error (.packing (by decide))

theorem Layout.pack_failsInWords (l : Layout) (v : Value) : FailsInWords (l.pack v) := by
  unfold pack
  split
  · refine bind (doubleOf_failsInWords v) fun x _ => ?_
    split
    · exact ok _
    · exact error (.of_message rfl (by decide))
    · exact error (.packing (by decide))
  · exact bind (doubleOf_failsInWords v) fun x _ => ok _
  · split
    · exact packInt_failsInWords _ _
    · exact error (.packing (by decide))

theorem halves_worded (position : Nat) (codes : List Nat) : (halves position codes).Worded := by
  refine .of_message rfl ?_
  unfold message
  dsimp only
  simp only [whole_append, and_assoc]
  refine ⟨by decide, ?_, by decide⟩
  split
  · simp only [whole_append, and_assoc]
    exact ⟨by decide, Quoted.whole_codeEscape _, by decide, whole_nat _⟩
  · simp only [whole_append, and_assoc]
    exact ⟨by decide, whole_nat _, by decide, whole_nat _⟩

theorem ofEncoding_failsInWords (s : String) : FailsInWords (ofEncoding s) := by
  unfold ofEncoding
  split
  · exact error (halves_worded _ _)
  · exact ok _

theorem countBytes_failsInWords (n : Nat) : (countBytes n).FailsInWords := .ofExcept (Layout.packInt_failsInWords _ _)

theorem discriminantBytes_failsInWords (i : Nat) : (discriminantBytes i).FailsInWords :=
  .ofExcept (Layout.packInt_failsInWords _ _)

namespace Write

theorem encodedText_failsInWords (encoded : Bytes) : (encodedText encoded).FailsInWords := by
  refine ((Script.FailsInWords.ofExcept ?_).append (countBytes_failsInWords _)).append (.raw _)
  exact bind (x := checkLength _ _) (checkLength_failsInWords _ (by decide)) fun _ _ => ok _

theorem text_failsInWords (hv : v.Named) : (text v).FailsInWords := by
  unfold text
  split
  · exact encodedText_failsInWords _
  · rename_i s
    have hs := ofEncoding_failsInWords s
    split
    · rename_i f he
      exact .fail (hs f he)
    · exact encodedText_failsInWords _
  · exact .fail (.noAttribute (Value.whole_qualifiedTypeName hv) (by decide))

theorem bytes_failsInWords (h : Check.bytes v = .ok ()) : (bytes v).FailsInWords := by
  obtain ⟨holder, data, rfl, -⟩ := Check.bytes_eq_ok h
  exact (countBytes_failsInWords _).append (.raw _)

theorem timestamp_failsInWords (h : Check.timestamp v = .ok ()) : (timestamp v).FailsInWords := by
  obtain ⟨t, i, rfl, hi⟩ := Check.timestamp_eq_ok h
  simp only [timestamp, hi]
  exact (Script.FailsInWords.ofExcept (Layout.packInt_failsInWords _ _)).append
    (.ofExcept (Layout.packInt_failsInWords _ _))

theorem duration_failsInWords (h : Check.duration v = .ok ()) : (duration v).FailsInWords := by
  obtain ⟨s, rfl, -⟩ := Check.duration_eq_ok h
  exact (Script.FailsInWords.ofExcept (Layout.packInt_failsInWords _ _)).append
    (.ofExcept (Layout.packInt_failsInWords _ _))

/-- A member that the enum does not have is told by its name. -/
theorem enumeration_failsInWords {e : EnumType} (hv : v.Named) (h : Check.enumeration e v = .ok ()) :
    (enumeration e v).FailsInWords := by
  obtain ⟨name, value, rfl⟩ := Check.enumeration_eq_ok h
  unfold enumeration
  extract_lets known
  split
  · exact discriminantBytes_failsInWords _
  · rename_i hu
    cases hu
  · refine .fail (.of_message rfl ?_)
    change Whole (e.name ++ "." ++ name)
    simp only [whole_append, and_assoc]
    exact ⟨hv.1, by decide, hv.2.1⟩

theorem errors_failsInWords {name : String} {kinds : List String} (hv : v.Named) (h : Check.errors name kinds v = .ok ()) :
    (errors kinds v).FailsInWords := by
  obtain ⟨kind, message, rfl, hk, -⟩ := Check.errors_eq_ok h
  obtain ⟨i, hi⟩ := lastIndex?_of_mem hk
  simp only [errors, hi]
  exact (discriminantBytes_failsInWords i).append (text_failsInWords hv.2)

end Write

mutual

/-- After the check, a write fails in words. -/
theorem Shape.write_failsInWords : (s : Shape) → s.isPlain → s.Named → {v : Value} → v.Named →
    s.check v = .ok () → (s.write v).FailsInWords
  | .integer _, _, _, _, _, _ | .float32, _, _, _, _, _ | .float64, _, _, _, _, _ =>
    .ofExcept (Layout.pack_failsInWords _ _)
  | .boolean, _, _, _, _, _ => .ofExcept (Layout.packInt_failsInWords _ _)
  | .text, _, _, _, hv, _ => Write.text_failsInWords hv
  | .bytes, _, _, _, _, h => Write.bytes_failsInWords h
  | .timestamp, _, _, _, _, h => Write.timestamp_failsInWords h
  | .duration, _, _, _, _, h => Write.duration_failsInWords h
  | .optional inner, hp, hs, v, hv, h => by
    by_cases hn : v = .null
    · rw [hn]
      exact .raw _
    · rw [Shape.write_optional hn]
      exact (Script.FailsInWords.raw _).append (inner.write_failsInWords hp hs hv (Shape.check_optional h hn))
  | .sequence inner, hp, hs, v, hv, h => by
    obtain ⟨items, hi, -, hc⟩ := Shape.check_sequence h
    have hn : ∀ a ∈ items, a.Named := by
      obtain rfl | rfl := hi <;> exact namedAll_iff.mp hv
    have ha : (Script.all (items.map inner.write)).FailsInWords := by
      refine .all fun s hm => ?_
      obtain ⟨a, ha, rfl⟩ := List.mem_map.mp hm
      exact inner.write_failsInWords hp hs (hn a ha) (hc a ha)
    obtain rfl | rfl := hi <;> exact (countBytes_failsInWords _).append ha
  | .map key value, hp, hs, v, hv, h => by
    obtain ⟨entries, rfl, -, hc⟩ := Shape.check_map h
    simp only [Shape.isPlain, Bool.and_eq_true] at hp
    refine (countBytes_failsInWords _).append (.all fun s hm => ?_)
    obtain ⟨e, he, rfl⟩ := List.mem_map.mp hm
    have hn := namedEntries_iff.mp hv e he
    exact (key.write_failsInWords hp.1 hs.1 hn.1 (hc e he).1).append
      (value.write_failsInWords hp.2 hs.2 hn.2 (hc e he).2)
  | .record _ _ fields, hp, hs, v, hv, h => fields.write_failsInWords hp hs.2.2 hv (Shape.check_record h).2
  | .enumeration e, _, _, _, hv, h => Write.enumeration_failsInWords hv h
  | .union name variants, hp, hs, v, hv, h => by
    obtain ⟨cls, bases, fields, i, rfl, hi, hc⟩ := Shape.check_union h
    simp only [Shape.write, hi]
    exact (discriminantBytes_failsInWords i).append (variants.write_failsInWords hp hs.2 i hv hc)
  | .errors _ _, _, _, _, hv, h => Write.errors_failsInWords hv h

theorem Fields.write_failsInWords : (fs : Fields) → fs.isPlain → fs.Named → {v : Value} → v.Named →
    fs.check v = .ok () → (fs.write v).FailsInWords
  | .nil, _, _, _, _, _ => .empty
  | .cons name shape rest, hp, hs, v, hv, h => by
    obtain ⟨a, ha, hc, hr⟩ := Fields.check_cons h
    simp only [Fields.isPlain, Bool.and_eq_true] at hp
    simp only [Fields.write, Value.attribute, ha]
    exact (shape.write_failsInWords hp.1 hs.2.1 (hv.attribute? ha) hc).append
      (rest.write_failsInWords hp.2 hs.2.2 hv hr)

theorem Variants.write_failsInWords : (vs : Variants) → vs.isPlain → vs.Named → (i : Nat) → {v : Value} →
    v.Named → vs.check i v = .ok () → (vs.write i v).FailsInWords
  | .nil, _, _, _, _, _, _ => .empty
  | .cons _ fields _, hp, hs, 0, _, hv, h => by
    simp only [Variants.isPlain, Bool.and_eq_true] at hp
    exact fields.write_failsInWords hp.1 hs.2.1 hv h
  | .cons _ _ rest, hp, hs, i + 1, _, hv, h => by
    simp only [Variants.isPlain, Bool.and_eq_true] at hp
    exact rest.write_failsInWords hp.2 hs.2.2 i hv h

end

/-- An encoding fails in words. -/
theorem Shape.encode_failsInWords {s : Shape} (hp : s.isPlain) (hs : s.Named) (hv : v.Named) :
    FailsInWords (s.encode v) := by
  refine bind (s.check_failsInWords hp hs hv) fun _ hc => ?_
  have hw := s.write_failsInWords hp hs hv hc
  dsimp only
  split
  · rename_i f hf
    exact error (hw f hf)
  · exact ok _

end ForeignBridge
