import ForeignBridge.Proofs.Value.Names
import ForeignBridge.Proofs.Wire.Check
import ForeignBridge.Wire.Codec

/-!
How the codec fails. A failure of a check, of a write after the check, or of a read is one of the codec's own,
never what someone raised, and its words have no halves if the names in the shape and the value have none.
Here are the words, and the failures of checks.
-/

namespace ForeignBridge

open Surrogate

/-- Whether a failure is what someone raised. -/
def Failure.isRaised : Failure → Bool
  | .raised _ => true
  | _ => false

/-- A failure that nobody raised, with a text that can be encoded. -/
structure Failure.Worded (f : Failure) : Prop where
  notRaised : ∀ v, f ≠ .raised v
  whole : Whole (f.className ++ ": " ++ f.message)

/-- A result that fails, if it does, in such a way. -/
def FailsAs {α : Type} (P : Failure → Prop) (r : Except Failure α) : Prop := ∀ f, r = .error f → P f

/-- A result that fails, if it does, in words. -/
def FailsInWords {α : Type} (r : Except Failure α) : Prop := ∀ f, r = .error f → f.Worded

mutual

/-- A shape whose names are without halves. -/
def Shape.Named : Shape → Prop
  | .optional inner | .sequence inner => inner.Named
  | .map key value => key.Named ∧ value.Named
  | .record cls label fields => Whole cls ∧ Whole label ∧ fields.Named
  | .enumeration e => Whole e.name ∧ ∀ m ∈ e.members, Whole m.1 ∧ m.2.Named
  | .union name variants => Whole name ∧ variants.Named
  | .errors name kinds => Whole name ∧ ∀ kind ∈ kinds, Whole kind
  | .object cls => Whole cls
  | .callback name _ _ => Whole name
  | _ => True

def Fields.Named : Fields → Prop
  | .nil => True
  | .cons name shape rest => Whole name ∧ shape.Named ∧ rest.Named

def Variants.Named : Variants → Prop
  | .nil => True
  | .cons cls fields rest => Whole cls ∧ fields.Named ∧ rest.Named

end

theorem IntKind.whole_name (k : IntKind) : Whole k.name := by
  cases k <;> decide

theorem Shape.whole_typeName : (s : Shape) → s.Named → Whole s.typeName
  | .integer k, _ => k.whole_name
  | .float32, _ | .float64, _ | .boolean, _ | .text, _ | .bytes, _ | .timestamp, _ | .duration, _ => by
    rw [typeName]
    decide
  | .optional inner, h | .sequence inner, h => by
    rw [typeName, whole_append, whole_append]
    exact ⟨⟨by decide, inner.whole_typeName h⟩, by decide⟩
  | .map key value, h => by
    simp only [typeName, whole_append, and_assoc]
    exact ⟨by decide, key.whole_typeName h.1, by decide, value.whole_typeName h.2, by decide⟩
  | .record _ _ _, h => h.2.1
  | .enumeration _, h | .union _ _, h | .errors _ _, h => h.1
  | .object _, h | .callback _ _ _, h => h

namespace Failure

theorem whole_className {f : Failure} (h : ∀ v, f ≠ .raised v) : Whole f.className := by
  cases f with
  | raised v => exact absurd rfl (h v)
  | contract why =>
    rw [className]
    cases why <;> (rw [ContractFailure.className]; decide)
  | _ =>
    rw [className]
    decide

namespace Worded

theorem of_message {f : Failure} (h : f.isRaised = false) (hm : Whole f.message) : f.Worded := by
  have hn : ∀ v, f ≠ .raised v := by
    rintro v rfl
    cases h
  exact ⟨hn, whole_append.mpr ⟨whole_append.mpr ⟨whole_className hn, by decide⟩, hm⟩⟩

variable {typeName what : String} {v : Value}

theorem mistyped (ht : Whole typeName) (hw : Whole what) (hv : v.Named) :
    (mistyped typeName what v).Worded := by
  refine .of_message rfl ?_
  change Whole (typeName ++ " expects " ++ what ++ ", got " ++ v.typeName)
  simp only [whole_append, and_assoc]
  exact ⟨ht, by decide, hw, by decide, Value.whole_typeName hv⟩

theorem tooLong (ht : Whole typeName) (n : Nat) : (unsendable (.tooLong typeName n)).Worded := by
  refine .of_message rfl ?_
  change Whole (typeName ++ " of length " ++ toString n ++ " exceeds the 32-bit length prefix")
  simp only [whole_append, and_assoc]
  exact ⟨ht, by decide, whole_nat n, by decide⟩

theorem noAttribute {owner name : String} (ho : Whole owner) (hn : Whole name) :
    (noAttribute owner name).Worded := by
  refine .of_message rfl ?_
  change Whole ("'" ++ owner ++ "' object has no attribute '" ++ name ++ "'")
  simp only [whole_append, and_assoc]
  exact ⟨by decide, ho, by decide, hn, by decide⟩

theorem packing {why : String} (h : Whole why) : (packing why).Worded := .of_message rfl h

end Worded

end Failure

namespace FailsAs

variable {α β : Type} {P : Failure → Prop}

theorem ok (a : α) : FailsAs P (.ok a) := nofun

theorem error {f : Failure} (h : P f) : FailsAs P (.error f : Except Failure α) := by
  intro g hg
  cases hg
  exact h

theorem bind {x : Except Failure α} {f : α → Except Failure β} (hx : FailsAs P x)
    (hf : ∀ a, x = .ok a → FailsAs P (f a)) : FailsAs P (x >>= f) := by
  cases x with
  | ok a => exact hf a rfl
  | error e => exact error (hx e rfl)

theorem forM {items : List α} {check : α → Except Failure Unit} (h : ∀ a ∈ items, FailsAs P (check a)) :
    FailsAs P (items.forM check) := by
  induction items with
  | nil => exact ok ()
  | cons a rest ih => exact bind (h a (by simp)) fun _ _ => ih fun b hb => h b (by simp [hb])

end FailsAs

namespace FailsInWords

variable {α β : Type}

theorem ok (a : α) : FailsInWords (.ok a) := FailsAs.ok a

theorem error {f : Failure} (h : f.Worded) : FailsInWords (.error f : Except Failure α) := FailsAs.error h

theorem bind {x : Except Failure α} {f : α → Except Failure β} (hx : FailsInWords x)
    (hf : ∀ a, x = .ok a → FailsInWords (f a)) : FailsInWords (x >>= f) := FailsAs.bind hx hf

theorem forM {items : List α} {check : α → Except Failure Unit} (h : ∀ a ∈ items, FailsInWords (check a)) :
    FailsInWords (items.forM check) := FailsAs.forM h

end FailsInWords

open FailsInWords Failure

variable {v : Value}

theorem checkLength_failsInWords (length : Int) {typeName : String} (h : Whole typeName) :
    FailsInWords (checkLength length typeName) := by
  unfold checkLength
  split
  · exact ok ()
  · exact error (.tooLong h _)

theorem ofShowing_failsInWords (hv : v.Named) : FailsInWords (ofShowing v) := by
  unfold ofShowing
  split
  · rename_i cls name h
    have hp := v.whole_lacking? hv _ h
    exact error (.noAttribute hp.1 hp.2)
  · exact ok ()

theorem attribute_failsInWords (hv : v.Named) {name : String} (hn : Whole name) : FailsInWords (v.attribute name) := by
  unfold Value.attribute
  split
  · exact ok _
  · exact error (.noAttribute (Value.whole_qualifiedTypeName hv) hn)

theorem Value.Named.attribute {a : Value} {name : String} (hv : v.Named) (h : v.attribute name = .ok a) : a.Named := by
  unfold Value.attribute at h
  split at h
  · rename_i b hb
    cases h
    exact hv.attribute? hb
  · cases h

namespace Check

theorem integer_failsInWords (k : IntKind) (hv : v.Named) : FailsInWords (integer k v) := by
  unfold integer
  split
  · split
    · exact ok ()
    · refine error (.of_message rfl ?_)
      change Whole (_ ++ " is out of range for " ++ k.name ++ " [" ++ _ ++ ", " ++ _ ++ "]")
      simp only [whole_append, and_assoc]
      exact ⟨whole_int _, by decide, k.whole_name, by decide, whole_int _, by decide, whole_int _, by decide⟩
  · exact error (.mistyped k.whole_name (by decide) hv)

theorem float32_failsInWords (hv : v.Named) : FailsInWords (float32 v) := by
  unfold float32
  split
  · rename_i x
    split
    · refine error (.of_message rfl ?_)
      change Whole (x.text ++ " is out of range for " ++ "Float32")
      simp only [whole_append, and_assoc]
      exact ⟨x.whole_text, by decide, by decide⟩
    · exact ok ()
  · split
    · exact error (.of_message rfl (by decide))
    · split
      · exact error (.packing (by decide))
      · exact ok ()
  · exact error (.mistyped (by decide) (by decide) hv)

theorem float64_failsInWords (hv : v.Named) : FailsInWords (float64 v) := by
  unfold float64
  split
  · exact ok ()
  · exact ok ()
  · exact error (.mistyped (by decide) (by decide) hv)

theorem boolean_failsInWords (hv : v.Named) : FailsInWords (boolean v) := by
  unfold boolean
  split
  · exact ok ()
  · exact error (.mistyped (by decide) (by decide) hv)

theorem text_failsInWords (hv : v.Named) : FailsInWords (text v) := by
  unfold text
  split
  · exact checkLength_failsInWords _ (by decide)
  · exact checkLength_failsInWords _ (by decide)
  · exact error (.mistyped (by decide) (by decide) hv)

theorem bytes_failsInWords (hv : v.Named) : FailsInWords (bytes v) := by
  unfold bytes
  split
  · exact checkLength_failsInWords _ (by decide)
  · exact error (.mistyped (by decide) (by decide) hv)

theorem timestamp_failsInWords (hv : v.Named) : FailsInWords (timestamp v) := by
  unfold timestamp
  split
  · split
    · exact ok ()
    · exact error (.of_message rfl (by decide))
  · exact error (.mistyped (by decide) (by decide) hv)

theorem duration_failsInWords (hv : v.Named) : FailsInWords (duration v) := by
  unfold duration
  split
  · split
    · exact error (.of_message rfl (by decide))
    · exact ok ()
  · exact error (.mistyped (by decide) (by decide) hv)

theorem enumeration_failsInWords {e : EnumType} (he : Whole e.name) (hv : v.Named) :
    FailsInWords (enumeration e v) := by
  have hr : FailsInWords (do
      Failure.ofShowing v
      throw (.mismatch (.expected e.name s!"a {e.name} member" v.quoted)) : Except Failure Unit) := by
    refine bind (ofShowing_failsInWords hv) fun _ _ => error (.of_message rfl ?_)
    change Whole (e.name ++ " expects " ++ ("a " ++ e.name ++ " member") ++ ", got " ++ v.quoted)
    simp only [whole_append, and_assoc]
    exact ⟨he, by decide, by decide, he, by decide, by decide, v.whole_quoted hv⟩
  unfold enumeration
  split
  · split
    · exact ok ()
    · exact hr
  · exact hr

theorem errors_failsInWords {name : String} {kinds : List String} (hn : Whole name) (hv : v.Named) :
    FailsInWords (errors name kinds v) := by
  have hk : ∀ {actual}, Whole actual → (mismatch (.notKind actual name)).Worded := by
    intro actual ha
    refine .of_message rfl ?_
    change Whole (actual ++ " is not a kind of " ++ name)
    simp only [whole_append, and_assoc]
    exact ⟨ha, by decide, hn⟩
  unfold errors
  split
  · split
    · exact text_failsInWords hv.2
    · exact error (hk hv.1)
  · exact error (hk (Value.whole_typeName hv))

end Check

/-- A value of no variant is told so by its class. -/
theorem notVariant_worded {actual name : String} (ha : Whole actual) (hn : Whole name) :
    (mismatch (.notVariant actual name)).Worded := by
  refine .of_message rfl ?_
  change Whole (actual ++ " is not a variant of " ++ name)
  simp only [whole_append, and_assoc]
  exact ⟨ha, by decide, hn⟩

mutual

/-- A check fails in words. -/
theorem Shape.check_failsInWords : (s : Shape) → s.isPlain → s.Named → {v : Value} → v.Named →
    FailsInWords (s.check v)
  | .integer k, _, _, _, hv => Check.integer_failsInWords k hv
  | .float32, _, _, _, hv => Check.float32_failsInWords hv
  | .float64, _, _, _, hv => Check.float64_failsInWords hv
  | .boolean, _, _, _, hv => Check.boolean_failsInWords hv
  | .text, _, _, _, hv => Check.text_failsInWords hv
  | .bytes, _, _, _, hv => Check.bytes_failsInWords hv
  | .timestamp, _, _, _, hv => Check.timestamp_failsInWords hv
  | .duration, _, _, _, hv => Check.duration_failsInWords hv
  | .optional inner, hp, hs, v, hv => by
    unfold Shape.check
    split
    · exact ok ()
    · exact inner.check_failsInWords hp hs hv
  | .sequence inner, hp, hs, v, hv => by
    have hn := (Shape.sequence inner).whole_typeName hs
    unfold Shape.check
    split
    · refine bind (checkLength_failsInWords _ hn) fun _ _ => forM fun a ha => ?_
      exact inner.check_failsInWords hp hs (namedAll_iff.mp hv a ha)
    · refine bind (checkLength_failsInWords _ hn) fun _ _ => forM fun a ha => ?_
      exact inner.check_failsInWords hp hs (namedAll_iff.mp hv a ha)
    · exact error (.mistyped hn (by decide) hv)
  | .map key value, hp, hs, v, hv => by
    have hn := (Shape.map key value).whole_typeName hs
    simp only [Shape.isPlain, Bool.and_eq_true] at hp
    unfold Shape.check
    split
    · refine bind (checkLength_failsInWords _ hn) fun _ _ => forM fun e he => ?_
      have hc := namedEntries_iff.mp hv e he
      exact bind (key.check_failsInWords hp.1 hs.1 hc.1) fun _ _ => value.check_failsInWords hp.2 hs.2 hc.2
    · exact error (.mistyped hn (by decide) hv)
  | .record cls label fields, hp, hs, v, hv => by
    unfold Shape.check
    split
    · exact fields.check_failsInWords hp hs.2.2 hv
    · exact error (.mistyped hs.2.1 hs.1 hv)
  | .enumeration e, _, hs, _, hv => Check.enumeration_failsInWords hs.1 hv
  | .union name variants, hp, hs, v, hv => by
    unfold Shape.check
    split
    · split
      · exact variants.check_failsInWords hp hs.2 _ hv
      · exact error (notVariant_worded hv.1 hs.1)
    · exact error (notVariant_worded (Value.whole_typeName hv) hs.1)
  | .errors _ _, _, hs, _, hv => Check.errors_failsInWords hs.1 hv

theorem Fields.check_failsInWords : (fs : Fields) → fs.isPlain → fs.Named → {v : Value} → v.Named →
    FailsInWords (fs.check v)
  | .nil, _, _, _, _ => ok ()
  | .cons name shape rest, hp, hs, v, hv => by
    simp only [Fields.isPlain, Bool.and_eq_true] at hp
    refine bind (attribute_failsInWords hv hs.1) fun a ha => ?_
    refine bind (shape.check_failsInWords hp.1 hs.2.1 (hv.attribute ha)) fun _ _ => ?_
    exact rest.check_failsInWords hp.2 hs.2.2 hv

theorem Variants.check_failsInWords : (vs : Variants) → vs.isPlain → vs.Named → (i : Nat) → {v : Value} →
    v.Named → FailsInWords (vs.check i v)
  | .nil, _, _, _, _, _ => ok ()
  | .cons _ fields _, hp, hs, 0, _, hv => by
    simp only [Variants.isPlain, Bool.and_eq_true] at hp
    exact fields.check_failsInWords hp.1 hs.2.1 hv
  | .cons _ _ rest, hp, hs, i + 1, _, hv => by
    simp only [Variants.isPlain, Bool.and_eq_true] at hp
    exact rest.check_failsInWords hp.2 hs.2.2 i hv

end

end ForeignBridge
