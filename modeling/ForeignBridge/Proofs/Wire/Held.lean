import ForeignBridge.Proofs.Wire.Canon
import ForeignBridge.Proofs.Wire.Check
import ForeignBridge.Proofs.Wire.Scalar

/-!
Canonical values hold no handle, so that a reading which replaces one of them drops nothing.
-/

namespace ForeignBridge

theorem Value.heldInFields_put {name : String} {v : Value} {fields : List (String × Option Value)}
    (hv : v.held = []) (hf : heldInFields fields = []) : heldInFields (put name (some v) fields) = [] := by
  induction fields with
  | nil => simp [put, heldInFields, hv]
  | cons f rest ih =>
    obtain ⟨n, w⟩ := f
    unfold put
    split <;> cases w <;> simp_all [heldInFields]

theorem heldFromEnd_eq_nil {items : List Value} (h : ∀ a ∈ items, a.held = []) :
    heldFromEnd items = [] := by
  induction items with
  | nil => rfl
  | cons a rest ih => simp_all [heldFromEnd]

theorem Value.heldInEntries_insertEntry {k v : Value} {entries : List (Value × Value)}
    (hk : k.held = []) (hv : v.held = []) (he : heldInEntries entries = []) :
    heldInEntries (insertEntry k v entries) = [] := by
  induction entries with
  | nil => simp [insertEntry, heldInEntries, hk, hv]
  | cons e rest ih =>
    unfold insertEntry
    split <;> simp_all [heldInEntries]

theorem heldInEntries_foldl {entries sofar : List (Value × Value)}
    (h : ∀ e ∈ entries, e.1.held = [] ∧ e.2.held = []) (hs : heldInEntries sofar = []) :
    heldInEntries (entries.foldl (fun es e => Value.insertEntry e.1 e.2 es) sofar) = [] := by
  induction entries generalizing sofar with
  | nil => exact hs
  | cons e rest ih =>
    have he := h e (by simp)
    exact ih (fun e hm => h e (by simp [hm])) (Value.heldInEntries_insertEntry he.1 he.2 hs)

theorem Variants.lastIndex?_lt_size (vs : Variants) {cls : String} {i : Nat}
    (h : lastIndex? cls vs.classes = some i) : i < vs.size := by
  simpa [classes, size] using lastIndex?_lt h

mutual

theorem Shape.canon_held : (s : Shape) → s.isPlain → {v : Value} → s.check v = .ok () → (s.canon v).held = []
  | .integer k, _, v, h => by
    obtain ⟨i, rfl, -⟩ := Check.integer_eq_ok h
    rfl
  | .float32, _, v, h => by
    obtain ⟨x, bits, hx, hb⟩ := Check.float32_eq_ok h
    simp only [Shape.canon, Canon.float32, hx, hb]
    rfl
  | .float64, _, v, h => by
    obtain ⟨x, rfl⟩ | ⟨i, rfl⟩ := Check.float64_eq_ok h
    · rfl
    · unfold Shape.canon Canon.float64
      split <;> rfl
  | .boolean, _, v, h => by
    obtain ⟨b, rfl⟩ := Check.boolean_eq_ok h
    rfl
  | .text, _, v, h => by
    obtain ⟨s, rfl⟩ | ⟨s, rfl⟩ := Check.text_eq_ok h <;> rfl
  | .bytes, _, v, h => by
    obtain ⟨holder, data, rfl, -⟩ := Check.bytes_eq_ok h
    rfl
  | .timestamp, _, v, h => by
    obtain ⟨t, i, rfl, -⟩ := Check.timestamp_eq_ok h
    unfold Shape.canon Canon.timestamp
    dsimp only
    split <;> rfl
  | .duration, _, v, h => by
    obtain ⟨s, rfl, -⟩ := Check.duration_eq_ok h
    rfl
  | .optional inner, hp, v, h => by
    unfold Shape.canon
    split
    · rfl
    · rename_i hv
      exact inner.canon_held hp (Shape.check_optional h hv)
  | .sequence inner, hp, v, h => by
    obtain ⟨items, hv, -, hi⟩ := Shape.check_sequence h
    have hc : heldFromEnd (items.map inner.canon) = [] := by
      refine heldFromEnd_eq_nil fun a ha => ?_
      obtain ⟨b, hb, rfl⟩ := List.mem_map.mp ha
      exact inner.canon_held hp (hi b hb)
    obtain rfl | rfl := hv <;> exact hc
  | .map key value, hp, v, h => by
    obtain ⟨entries, rfl, -, he⟩ := Shape.check_map h
    simp only [Shape.isPlain, Bool.and_eq_true] at hp
    refine heldInEntries_foldl (fun e hm => ?_) rfl
    obtain ⟨d, hd, rfl⟩ := List.mem_map.mp hm
    exact ⟨key.canon_held hp.1 (he d hd).1, value.canon_held hp.2 (he d hd).2⟩
  | .record cls _ fields, hp, v, h => fields.canon_held hp (Shape.check_record h).2 rfl
  | .enumeration e, _, v, h => by
    obtain ⟨name, value, rfl⟩ := Check.enumeration_eq_ok h
    rfl
  | .union _ variants, hp, v, h => by
    obtain ⟨cls, bases, fields, i, rfl, hi, hc⟩ := Shape.check_union h
    simp only [Shape.canon, hi]
    exact variants.canon_held hp (variants.lastIndex?_lt_size hi) hc
  | .errors name kinds, _, v, h => by
    obtain ⟨kind, message, rfl, -⟩ := Check.errors_eq_ok h
    rfl

theorem Fields.canon_held : (fs : Fields) → fs.isPlain → {v : Value} → fs.check v = .ok () →
    {sofar : List (String × Option Value)} → heldInFields sofar = [] → heldInFields (fs.canon v sofar) = []
  | .nil, _, _, _, _, hs => hs
  | .cons name shape rest, hp, v, h, sofar, hs => by
    obtain ⟨a, ha, hc, hr⟩ := Fields.check_cons h
    simp only [Fields.isPlain, Bool.and_eq_true] at hp
    simp only [Fields.canon, ha]
    exact rest.canon_held hp.2 hr (Value.heldInFields_put (shape.canon_held hp.1 hc) hs)

theorem Variants.canon_held : (vs : Variants) → vs.isPlain → {i : Nat} → i < vs.size →
    {v : Value} → vs.check i v = .ok () → (vs.canon i v).held = []
  | .cons cls fields rest, hp, 0, _, v, h => by
    simp only [Variants.isPlain, Bool.and_eq_true] at hp
    exact fields.canon_held hp.1 h rfl
  | .cons cls fields rest, hp, i + 1, hi, v, h => by
    simp only [Variants.isPlain, Bool.and_eq_true] at hp
    exact rest.canon_held hp.2 (Nat.lt_of_succ_lt_succ hi) h

end

theorem held_of_found {k old : Value} {entries : List (Value × Value)} (h : Value.entry? k entries = some old)
    (he : heldInEntries entries = []) : old.held = [] := by
  induction entries with
  | nil => cases h
  | cons e rest ih =>
    simp only [heldInEntries, List.append_eq_nil_iff] at he
    unfold Value.entry? at h
    split at h
    · cases h
      exact he.1.2
    · exact ih h he.2

theorem held_of_lookup {name : String} {old : Value} {fields : List (String × Option Value)}
    (h : (Value.lookup name fields).join = some old) (hf : heldInFields fields = []) : old.held = [] := by
  induction fields with
  | nil => cases h
  | cons f rest ih =>
    obtain ⟨n, w⟩ := f
    unfold Value.lookup at h
    split at h
    · cases h
      simp only [heldInFields, List.append_eq_nil_iff] at hf
      exact hf.1
    · cases w <;> simp_all [heldInFields]

/-- An entry is added without dropping anything if its key can be one and no handle is among the entries. -/
theorem addEntry_consumes {k v : Value} {sofar : List (Value × Value)} (hk : k.unhashable? = none)
    (hs : heldInEntries sofar = []) :
    (Read.addEntry k v sofar).Consumes [] (Value.insertEntry k v sofar) := by
  unfold Read.addEntry
  rw [hk]
  dsimp only
  split
  · rename_i old ho
    rw [held_of_found ho hs]
    exact .bind .drop_nil (.pure _)
  · exact .pure _

/-- A field is put without dropping anything if no handle is among the fields. -/
theorem addField_consumes {name : String} {v : Value} {sofar : List (String × Option Value)}
    (hs : heldInFields sofar = []) :
    (Read.addField name v sofar).Consumes [] (Value.put name (some v) sofar) := by
  unfold Read.addField
  split
  · rename_i old ho
    rw [held_of_lookup ho hs]
    exact .bind .drop_nil (.pure _)
  · exact .pure _

end ForeignBridge
