import ForeignBridge.Wire.Check
import Mathlib.Tactic

/-!
What passes the check: a value of the right type, in range, with parts that pass.
-/

namespace ForeignBridge

theorem Except.bind_eq_ok {ε α β : Type} {x : Except ε α} {f : α → Except ε β} {b : β}
    (h : x >>= f = .ok b) : ∃ a, x = .ok a ∧ f a = .ok b := by
  cases x with
  | error e => cases h
  | ok a => exact ⟨a, rfl, h⟩

theorem Except.forM_eq_ok {ε α : Type} {f : α → Except ε Unit} {items : List α}
    (h : items.forM f = .ok ()) : ∀ a ∈ items, f a = .ok () := by
  induction items with
  | nil => simp
  | cons a rest ih =>
    obtain ⟨⟨⟩, ha, hr⟩ := bind_eq_ok h
    intro b hb
    cases hb with
    | head => exact ha
    | tail _ hb => exact ih hr b hb

theorem Except.forM_of_ok {ε α : Type} {f : α → Except ε Unit} {items : List α}
    (h : ∀ a ∈ items, f a = .ok ()) : items.forM f = .ok () := by
  induction items with
  | nil => rfl
  | cons a rest ih =>
    have ha := h a (by simp)
    have hr := ih fun b hb => h b (by simp [hb])
    change (f a >>= fun _ => rest.forM f) = .ok ()
    rw [ha]
    exact hr

/-- Only a finite number can be too large for a binary32 number. -/
theorem Double.isFinite_of_toSingle?_eq_none {x : Double} (h : x.toSingle? = none) : x.isFinite = true := by
  unfold toSingle? at h
  unfold isFinite
  split at h
  · cases h
  · cases h
  · rename_i hu
    rw [hu]

namespace Check

/-- What passes for a whole number is one, and in range. -/
theorem integer_eq_ok {k : IntKind} {v : Value} (h : integer k v = .ok ()) :
    ∃ i, v = .int i ∧ k.layout.least ≤ i ∧ i ≤ k.layout.greatest := by
  unfold integer at h
  split at h
  · split at h
    · exact ⟨_, rfl, by assumption⟩
    · cases h
  · cases h

theorem float64_eq_ok {v : Value} (h : float64 v = .ok ()) : (∃ x, v = .float x) ∨ ∃ i, v = .int i := by
  unfold float64 at h
  split at h
  · exact .inl ⟨_, rfl⟩
  · exact .inr ⟨_, rfl⟩
  · cases h

/-- A number that passes for a binary32 number has one nearest to it. -/
theorem float32_eq_ok {v : Value} (h : float32 v = .ok ()) :
    ∃ x bits, Layout.doubleOf v = .ok x ∧ x.toSingle? = some bits := by
  unfold float32 at h
  split at h
  · rename_i x
    split at h
    · cases h
    · rename_i hf
      cases hs : x.toSingle? with
      | some bits => exact ⟨x, bits, rfl, hs⟩
      | none => exact absurd ⟨Double.isFinite_of_toSingle?_eq_none hs, hs⟩ hf
  · rename_i i
    split at h
    · cases h
    · rename_i x hx
      split at h
      · cases h
      · rename_i hs
        obtain ⟨bits, hs⟩ := Option.ne_none_iff_exists'.mp hs
        refine ⟨x, bits, ?_, hs⟩
        simp [Layout.doubleOf, Value.wholeNumber?, hx]
  · cases h

theorem boolean_eq_ok {v : Value} (h : boolean v = .ok ()) : ∃ b, v = .bool b := by
  unfold boolean at h
  split at h
  · exact ⟨_, rfl⟩
  · cases h

theorem checkLength_eq_ok {n : Nat} {typeName : String} (h : checkLength n typeName = .ok ()) :
    n ≤ maxLength := by
  unfold checkLength at h
  split at h
  · omega
  · cases h

theorem bytes_eq_ok {v : Value} (h : bytes v = .ok ()) :
    ∃ holder data, v = .bytes holder data ∧ data.length ≤ maxLength := by
  unfold bytes at h
  split at h
  · exact ⟨_, _, rfl, checkLength_eq_ok h⟩
  · cases h

theorem text_eq_ok {v : Value} (h : text v = .ok ()) : (∃ s, v = .text s) ∨ ∃ s, v = .halved s := by
  unfold text at h
  split at h
  · exact .inl ⟨_, rfl⟩
  · exact .inr ⟨_, rfl⟩
  · cases h

theorem timestamp_eq_ok {v : Value} (h : timestamp v = .ok ()) :
    ∃ t i, v = .moment t ∧ t.instant? = some i := by
  unfold timestamp at h
  split at h
  · rename_i t
    split at h
    · rename_i ho
      obtain ⟨o, ho⟩ := Option.isSome_iff_exists.mp ho
      exact ⟨t, _, rfl, congrArg (Option.map _) ho⟩
    · cases h
  · cases h

theorem duration_eq_ok {v : Value} (h : duration v = .ok ()) : ∃ s, v = .span s ∧ 0 ≤ s.micros := by
  unfold duration at h
  split at h
  · split at h
    · cases h
    · exact ⟨_, rfl, by omega⟩
  · cases h

theorem enumeration_eq_ok {e : EnumType} {v : Value} (h : enumeration e v = .ok ()) :
    ∃ name value, v = .member e.name name value := by
  have refused {x : Except Failure Unit} {f : Failure} : (x >>= fun _ => .error f) ≠ .ok () := by
    cases x <;> simp [bind, Except.bind]
  unfold enumeration at h
  split at h
  · split at h
    · rename_i hn
      exact ⟨_, _, by rw [hn]⟩
    · exact absurd h refused
  · exact absurd h refused

theorem errors_eq_ok {name : String} {kinds : List String} {v : Value}
    (h : errors name kinds v = .ok ()) :
    ∃ kind message, v = .declared kind message ∧ kind ∈ kinds ∧ text message = .ok () := by
  unfold errors at h
  split at h
  · split at h
    · rename_i hk
      exact ⟨_, _, rfl, by simpa using hk, h⟩
    · cases h
  · cases h

end Check

namespace Shape

variable {v : Value}

theorem check_optional {inner : Shape} (h : (optional inner).check v = .ok ()) (hv : v ≠ .null) :
    inner.check v = .ok () := by
  unfold check at h
  split at h
  · exact absurd rfl hv
  · exact h

theorem check_sequence {inner : Shape} (h : (sequence inner).check v = .ok ()) :
    ∃ items, (v = .list items ∨ v = .tuple items) ∧ items.length ≤ maxLength ∧
      ∀ a ∈ items, inner.check a = .ok () := by
  unfold check at h
  split at h
  · obtain ⟨⟨⟩, hl, hi⟩ := Except.bind_eq_ok h
    exact ⟨_, .inl rfl, Check.checkLength_eq_ok hl, Except.forM_eq_ok hi⟩
  · obtain ⟨⟨⟩, hl, hi⟩ := Except.bind_eq_ok h
    exact ⟨_, .inr rfl, Check.checkLength_eq_ok hl, Except.forM_eq_ok hi⟩
  · cases h

theorem check_map {key value : Shape} (h : (map key value).check v = .ok ()) :
    ∃ entries, v = .dict entries ∧ entries.length ≤ maxLength ∧
      ∀ e ∈ entries, key.check e.1 = .ok () ∧ value.check e.2 = .ok () := by
  unfold check at h
  split at h
  · obtain ⟨⟨⟩, hl, he⟩ := Except.bind_eq_ok h
    refine ⟨_, rfl, Check.checkLength_eq_ok hl, fun e hm => ?_⟩
    obtain ⟨⟨⟩, hk, hv⟩ := Except.bind_eq_ok (Except.forM_eq_ok he e hm)
    exact ⟨hk, hv⟩
  · cases h

theorem check_record {cls label : String} {fields : Fields}
    (h : (record cls label fields).check v = .ok ()) : v.isRecordOf cls ∧ fields.check v = .ok () := by
  unfold check at h
  split at h
  · exact ⟨by assumption, h⟩
  · cases h

theorem check_union {name : String} {variants : Variants} (h : (union name variants).check v = .ok ()) :
    ∃ cls bases fields i, v = .record cls bases fields ∧ lastIndex? cls variants.classes = some i ∧
      variants.check i v = .ok () := by
  unfold check at h
  split at h
  · split at h
    · exact ⟨_, _, _, _, rfl, by assumption, h⟩
    · cases h
  · cases h

end Shape

theorem Fields.check_cons {name : String} {shape : Shape} {rest : Fields} {v : Value}
    (h : (Fields.cons name shape rest).check v = .ok ()) :
    ∃ a, v.attribute? name = some a ∧ shape.check a = .ok () ∧ rest.check v = .ok () := by
  unfold check at h
  obtain ⟨a, ha, h⟩ := Except.bind_eq_ok h
  obtain ⟨⟨⟩, hs, hr⟩ := Except.bind_eq_ok h
  unfold Value.attribute at ha
  split at ha
  · cases ha
    exact ⟨a, by assumption, hs, hr⟩
  · cases ha

end ForeignBridge
