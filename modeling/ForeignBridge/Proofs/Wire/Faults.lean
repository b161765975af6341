import ForeignBridge.Proofs.Wire.Parts
import ForeignBridge.Proofs.Wire.Words.Check

/-!
Why a check fails. A part has the wrong type or is out of range, an instance lacks a field, or a whole number
in the place of a binary32 number is too large to be made one.
-/

namespace ForeignBridge

def Variants.namesAt : Variants → Nat → List String
  | .nil, _ => []
  | .cons _ fields _, 0 => fields.names
  | .cons _ _ rest, i + 1 => rest.namesAt i

/-- The fields that an instance must have in a shape. -/
def Shape.wanted : Shape → Value → List String
  | .record cls _ fields, v => if v.isRecordOf cls then fields.names else []
  | .union _ variants, .record cls _ _ =>
    match lastIndex? cls variants.classes with
    | some i => variants.namesAt i
    | none => []
  | _, _ => []

/-- The ways in which a check of these parts fails. -/
inductive CheckFault (parts : List (Shape × Value)) : Failure → Prop
  | mismatch (why : Mismatch) : CheckFault parts (.mismatch why)
  | unsendable (why : Unsendable) : CheckFault parts (.unsendable why)
  | lacking {s : Shape} {v : Value} {name : String} (h : (s, v) ∈ parts) (hn : name ∈ s.wanted v)
      (ha : v.attribute? name = none) : CheckFault parts (.noAttribute v.qualifiedTypeName name)
  -- the failure shows the value, which some instance in it keeps from being shown
  | unshown {e : EnumType} {v : Value} {owner name : String} (h : (.enumeration e, v) ∈ parts)
      (hl : v.lacking? = some (owner, name)) : CheckFault parts (.noAttribute owner name)
  | unconverted {i : Int} (h : (.float32, .int i) ∈ parts) (hi : Double.ofInt? i = none) :
      CheckFault parts .intTooLarge
  | unpacked {i : Int} {x : Double} (h : (.float32, .int i) ∈ parts) (hi : Double.ofInt? i = some x)
      (hx : x.toSingle? = none) : CheckFault parts (.packing Layout.tooLargeText)

namespace CheckFault

variable {parts : List (Shape × Value)} {f : Failure}

/-- The whole number that a refusal which is of none of the usual kinds is due to. -/
theorem className (h : CheckFault parts f) : f.className ∈ ["TypeError", "ValueError", "AttributeError"] ∨
    f.className ∈ ["OverflowError", "error"] ∧ ∃ i, (.float32, .int i) ∈ parts ∧
      ¬ ∃ x bits, Double.ofInt? i = some x ∧ x.toSingle? = some bits := by
  cases h with
  | mismatch | unsendable | lacking | unshown => simp [Failure.className]
  | unconverted h hi => exact .inr ⟨by simp [Failure.className], _, h, by simp [hi]⟩
  | unpacked h hi hx => exact .inr ⟨by simp [Failure.className], _, h, by simp [hi, hx]⟩

end CheckFault

/-- A check that fails for the parts it is about. -/
abbrev FailsOver (parts : List (Shape × Value)) (r : Except Failure Unit) : Prop := FailsAs (CheckFault parts) r

variable {parts : List (Shape × Value)}

theorem checkLength_failsOver (length : Int) (typeName : String) : FailsOver parts (checkLength length typeName) := by
  fun_cases checkLength length typeName
  · exact FailsAs.ok ()
  · exact FailsAs.error (.unsendable _)

theorem mistyped_failsOver (typeName what : String) (v : Value) :
    FailsOver parts (.error (mistyped typeName what v) : Except Failure Unit) :=
  FailsAs.error (.mismatch _)

namespace Check

theorem integer_failsOver (k : IntKind) (v : Value) : FailsOver parts (integer k v) := by
  fun_cases integer k v
  · exact FailsAs.ok ()
  · exact FailsAs.error (.unsendable _)
  · exact mistyped_failsOver _ _ _

theorem float32_failsOver {v : Value} (h : (.float32, v) ∈ parts) : FailsOver parts (float32 v) := by
  fun_cases float32 v
  · exact FailsAs.error (.unsendable _)
  · exact FailsAs.ok ()
  · exact FailsAs.error (.unconverted h (by assumption))
  · exact FailsAs.error (.unpacked h (by assumption) (by assumption))
  · exact FailsAs.ok ()
  · exact mistyped_failsOver _ _ _

theorem float64_failsOver (v : Value) : FailsOver parts (float64 v) := by
  fun_cases float64 v
  · exact FailsAs.ok ()
  · exact FailsAs.ok ()
  · exact mistyped_failsOver _ _ _

theorem boolean_failsOver (v : Value) : FailsOver parts (boolean v) := by
  fun_cases boolean v
  · exact FailsAs.ok ()
  · exact mistyped_failsOver _ _ _

theorem text_failsOver (v : Value) : FailsOver parts (text v) := by
  fun_cases text v
  · exact checkLength_failsOver _ _
  · exact checkLength_failsOver _ _
  · exact mistyped_failsOver _ _ _

theorem bytes_failsOver (v : Value) : FailsOver parts (bytes v) := by
  fun_cases bytes v
  · exact checkLength_failsOver _ _
  · exact mistyped_failsOver _ _ _

theorem timestamp_failsOver (v : Value) : FailsOver parts (timestamp v) := by
  fun_cases timestamp v
  · exact FailsAs.ok ()
  · exact FailsAs.error (.unsendable _)
  · exact mistyped_failsOver _ _ _

theorem duration_failsOver (v : Value) : FailsOver parts (duration v) := by
  fun_cases duration v
  · exact FailsAs.error (.unsendable _)
  · exact FailsAs.ok ()
  · exact mistyped_failsOver _ _ _

theorem enumeration_failsOver {e : EnumType} {v : Value} (h : (.enumeration e, v) ∈ parts) :
    FailsOver parts (enumeration e v) := by
  have hr : FailsOver parts (do
      Failure.ofShowing v
      throw (.mismatch (.expected e.name s!"a {e.name} member" v.quoted)) : Except Failure Unit) := by
    refine FailsAs.bind ?_ fun _ _ => FailsAs.error (.mismatch _)
    fun_cases Failure.ofShowing v
    · exact FailsAs.error (.unshown h (by assumption))
    · exact FailsAs.ok ()
  fun_cases enumeration e v
  · exact FailsAs.ok ()
  · exact hr
  · exact hr

theorem errors_failsOver (name : String) (kinds : List String) (v : Value) : FailsOver parts (errors name kinds v) := by
  fun_cases errors name kinds v
  · exact text_failsOver _
  · exact FailsAs.error (.mismatch _)
  · exact FailsAs.error (.mismatch _)

theorem object_failsOver (cls : String) (v : Value) : FailsOver parts (object cls v) := by
  fun_cases object cls v
  · exact FailsAs.ok ()
  · exact mistyped_failsOver _ _ _
  · exact FailsAs.ok ()
  · exact mistyped_failsOver _ _ _
  · exact mistyped_failsOver _ _ _

theorem callback_failsOver (name : String) (methods : List String) (v : Value) :
    FailsOver parts (callback name methods v) := by
  fun_cases callback name methods v
  · exact FailsAs.ok ()
  · exact FailsAs.error (.mismatch _)

end Check

theorem Shape.wanted_record {cls label : String} {fields : Fields} {v : Value} (h : v.isRecordOf cls) :
    (record cls label fields).wanted v = fields.names :=
  if_pos h

theorem Shape.wanted_union {name cls : String} {variants : Variants} {bases : List String}
    {named : List (String × Option Value)} {i : Nat} (hi : lastIndex? cls variants.classes = some i) :
    (union name variants).wanted (.record cls bases named) = variants.namesAt i := by
  simp only [wanted, hi]

/-- What an instance that lacks a wanted field fails with. -/
def Excuses (parts : List (Shape × Value)) (names : List String) (v : Value) : Prop :=
  ∀ name ∈ names, v.attribute? name = none → CheckFault parts (.noAttribute v.qualifiedTypeName name)

mutual

/-- A check fails for the parts of the value that it is given. -/
theorem Shape.check_failsOver : (s : Shape) → (v : Value) → s.parts v ⊆ parts → FailsOver parts (s.check v)
  | .integer k, v, _ => Check.integer_failsOver k v
  | .float32, v, hs => Check.float32_failsOver (hs (Shape.self_mem_parts rfl v))
  | .float64, v, _ => Check.float64_failsOver v
  | .boolean, v, _ => Check.boolean_failsOver v
  | .text, v, _ => Check.text_failsOver v
  | .bytes, v, _ => Check.bytes_failsOver v
  | .timestamp, v, _ => Check.timestamp_failsOver v
  | .duration, v, _ => Check.duration_failsOver v
  | .enumeration e, v, hs => Check.enumeration_failsOver (hs (Shape.self_mem_parts rfl v))
  | .errors name kinds, v, _ => Check.errors_failsOver name kinds v
  | .optional inner, v, hs => by
    by_cases hv : v = .null
    · subst hv
      exact FailsAs.ok ()
    · rw [Shape.parts_optional hv] at hs
      rw [Shape.check]
      · exact inner.check_failsOver v hs
      · exact hv
  | .sequence inner, v, hs => by
    cases v with
    | list items | tuple items =>
      rw [Shape.parts, List.cons_subset] at hs
      rw [Shape.check]
      refine FailsAs.bind (checkLength_failsOver _ _) fun _ _ => FailsAs.forM fun a ha => ?_
      exact inner.check_failsOver a fun p hp => hs.2 (List.mem_flatMap.mpr ⟨a, ha, hp⟩)
    | _ => exact mistyped_failsOver _ _ _
  | .map key value, v, hs => by
    cases v with
    | dict entries =>
      rw [Shape.parts, List.cons_subset] at hs
      rw [Shape.check]
      refine FailsAs.bind (checkLength_failsOver _ _) fun _ _ => FailsAs.forM fun e he => ?_
      obtain ⟨hk, hv⟩ := List.append_subset.mp fun p hp => hs.2 (List.mem_flatMap.mpr ⟨e, he, hp⟩)
      exact FailsAs.bind (key.check_failsOver e.1 hk) fun _ _ => value.check_failsOver e.2 hv
    | _ => exact mistyped_failsOver _ _ _
  | .record cls label fields, v, hs => by
    rw [Shape.parts, List.cons_subset] at hs
    rw [Shape.check]
    split
    · rename_i hr
      refine fields.check_failsOver v hs.2 fun name hn ha => .lacking hs.1 ?_ ha
      rwa [Shape.wanted_record hr]
    · exact mistyped_failsOver _ _ _
  | .union name variants, v, hs => by
    cases v with
    | record cls bases named =>
      rw [Shape.check]
      split
      · rename_i i hi
        simp only [Shape.parts, hi, List.cons_subset] at hs
        refine variants.check_failsOver i _ hs.2 fun name hn ha => .lacking hs.1 ?_ ha
        rwa [Shape.wanted_union hi]
      · exact FailsAs.error (.mismatch _)
    | _ => exact FailsAs.error (.mismatch _)
  | .object cls, v, _ => Check.object_failsOver cls v
  | .callback name methods _, v, _ => Check.callback_failsOver name methods v

theorem Fields.check_failsOver : (fs : Fields) → (v : Value) → fs.parts v ⊆ parts →
    Excuses parts fs.names v → FailsOver parts (fs.check v)
  | .nil, _, _, _ => FailsAs.ok ()
  | .cons name shape rest, v, hs, he => by
    have hrest : Excuses parts rest.names v := fun n hn => he n (List.mem_cons_of_mem _ hn)
    cases ha : v.attribute? name with
    | none =>
      simp only [Fields.check, Value.attribute, ha]
      exact FailsAs.error (he name List.mem_cons_self ha)
    | some a =>
      simp only [Fields.parts, ha, List.append_subset] at hs
      simp only [Fields.check, Value.attribute, ha]
      exact FailsAs.bind (FailsAs.ok a) fun b hb => by
        cases hb
        exact FailsAs.bind (shape.check_failsOver a hs.1) fun _ _ => rest.check_failsOver v hs.2 hrest

theorem Variants.check_failsOver : (vs : Variants) → (i : Nat) → (v : Value) → vs.parts i v ⊆ parts →
    Excuses parts (vs.namesAt i) v → FailsOver parts (vs.check i v)
  | .nil, _, _, _, _ => FailsAs.ok ()
  | .cons _ fields _, 0, v, hs, he => fields.check_failsOver v hs he
  | .cons _ _ rest, i + 1, v, hs, he => rest.check_failsOver i v hs he

end

end ForeignBridge
