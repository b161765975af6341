import ForeignBridge.Proofs.Text.Whole
import ForeignBridge.Proofs.Wire.Canon
import ForeignBridge.Proofs.Wire.Grammar

/-!
The parts of a value as a shape sees them: the value itself with the shape, and each part of it with the shape
that is used for the part. What is asked of a value is asked of its parts one by one.
-/

namespace ForeignBridge

def Shape.isOptional : Shape → Bool
  | .optional _ => true
  | _ => false

def Fields.names (fs : Fields) : List String := fs.toList.map Prod.fst

mutual

/-- The parts of a value, each with the shape that is used for it. An option is no part of its own. -/
def Shape.parts : Shape → Value → List (Shape × Value)
  | .optional inner, v =>
    match v with
    | .null => []
    | v => inner.parts v
  | .sequence inner, v =>
    (.sequence inner, v) ::
      match v with
      | .list items | .tuple items => items.flatMap inner.parts
      | _ => []
  | .map key value, v =>
    (.map key value, v) ::
      match v with
      | .dict entries => entries.flatMap fun e => key.parts e.1 ++ value.parts e.2
      | _ => []
  | .record cls label fields, v => (.record cls label fields, v) :: fields.parts v
  | .union name variants, v =>
    (.union name variants, v) ::
      match v with
      | .record cls _ _ =>
        match lastIndex? cls variants.classes with
        | some i => variants.parts i v
        | none => []
      | _ => []
  | s, v => [(s, v)]

def Fields.parts : Fields → Value → List (Shape × Value)
  | .nil, _ => []
  | .cons name shape rest, v =>
    match v.attribute? name with
    | some a => shape.parts a ++ rest.parts v
    | none => rest.parts v

def Variants.parts : Variants → Nat → Value → List (Shape × Value)
  | .nil, _, _ => []
  | .cons _ fields _, 0, v => fields.parts v
  | .cons _ _ rest, i + 1, v => rest.parts i v

end

/-- Whether a condition holds of every part of a value. -/
def Shape.Throughout (P : Shape → Value → Prop) (s : Shape) (v : Value) : Prop := ∀ p ∈ s.parts v, P p.1 p.2

def Fields.Throughout (P : Shape → Value → Prop) (fs : Fields) (v : Value) : Prop := ∀ p ∈ fs.parts v, P p.1 p.2

def Variants.Throughout (P : Shape → Value → Prop) (vs : Variants) (i : Nat) (v : Value) : Prop :=
  ∀ p ∈ vs.parts i v, P p.1 p.2

namespace Shape

variable {P Q : Shape → Value → Prop} {v : Value}

theorem Throughout.imp {s : Shape} (hq : ∀ s v, P s v → Q s v) (h : s.Throughout P v) : s.Throughout Q v :=
  fun p hp => hq _ _ (h p hp)

theorem parts_optional {inner : Shape} (hv : v ≠ .null) : (optional inner).parts v = inner.parts v := by
  rw [parts]
  exact hv

theorem throughout_optional {inner : Shape} (hv : v ≠ .null) :
    (optional inner).Throughout P v ↔ inner.Throughout P v := by
  rw [Throughout, parts_optional hv, Throughout]

theorem throughout_sequence {inner : Shape} {items : List Value} (hv : v = .list items ∨ v = .tuple items) :
    (sequence inner).Throughout P v ↔ P (.sequence inner) v ∧ ∀ a ∈ items, inner.Throughout P a := by
  have hp : (sequence inner).parts v = (.sequence inner, v) :: items.flatMap inner.parts := by
    obtain rfl | rfl := hv <;> rw [parts]
  rw [Throughout, hp, List.forall_mem_cons, List.forall_mem_flatMap]
  rfl

theorem throughout_map {key value : Shape} {entries : List (Value × Value)} :
    (map key value).Throughout P (.dict entries) ↔
      P (.map key value) (.dict entries) ∧ ∀ e ∈ entries, key.Throughout P e.1 ∧ value.Throughout P e.2 := by
  rw [Throughout, parts, List.forall_mem_cons, List.forall_mem_flatMap]
  simp only [List.forall_mem_append]
  rfl

theorem throughout_record {cls label : String} {fields : Fields} :
    (record cls label fields).Throughout P v ↔ P (.record cls label fields) v ∧ fields.Throughout P v := by
  rw [Throughout, parts, List.forall_mem_cons]
  rfl

theorem throughout_union {name cls : String} {variants : Variants} {bases : List String}
    {named : List (String × Option Value)} {i : Nat} (hi : lastIndex? cls variants.classes = some i) :
    (union name variants).Throughout P (.record cls bases named) ↔
      P (.union name variants) (.record cls bases named) ∧ variants.Throughout P i (.record cls bases named) := by
  have hp : (union name variants).parts (.record cls bases named) =
      (.union name variants, .record cls bases named) :: variants.parts i (.record cls bases named) := by
    simp only [parts, hi]
  rw [Throughout, hp, List.forall_mem_cons]
  rfl

/-- A value is its own part, unless the shape is an option. -/
theorem self_mem_parts {s : Shape} (ho : s.isOptional = false) (v : Value) : (s, v) ∈ s.parts v := by
  cases s with
  | optional => cases ho
  | _ => simp [parts]

theorem Throughout.self {s : Shape} (h : s.Throughout P v) (ho : s.isOptional = false) : P s v :=
  h (s, v) (self_mem_parts ho v)

end Shape

theorem Fields.throughout_cons {P : Shape → Value → Prop} {name : String} {shape : Shape} {rest : Fields} {v a : Value}
    (ha : v.attribute? name = some a) :
    (Fields.cons name shape rest).Throughout P v ↔ shape.Throughout P a ∧ rest.Throughout P v := by
  have hp : (Fields.cons name shape rest).parts v = shape.parts a ++ rest.parts v := by
    rw [parts, ha]
  rw [Throughout, hp, List.forall_mem_append]
  rfl

end ForeignBridge
