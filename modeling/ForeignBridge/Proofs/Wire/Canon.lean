import ForeignBridge.Proofs.Calendar
import ForeignBridge.Proofs.Value.Lookup
import ForeignBridge.Wire.Codec

/-!
The canonical form of a value: what is left of it once it has crossed the boundary. Numbers in a
floating-point shape become the doubles that their layout holds, bytes lose their holder, moments move to
UTC, tuples become lists, and records are of the declared class. `Shape.Carries` says what a round trip
needs of a value that passed the check.
-/

namespace ForeignBridge

namespace Canon

def float32 (v : Value) : Value :=
  match Layout.doubleOf v with
  | .error _ => v
  | .ok x =>
    match x.toSingle? with
    | some bits => .float (.ofSingle bits)
    | none => v

def float64 (v : Value) : Value :=
  match Layout.doubleOf v with
  | .error _ => v
  | .ok x => .float x

def bytes (v : Value) : Value :=
  match v with
  | .bytes _ data => .bytes .frozen data
  | v => v

/-- The same instant in UTC. -/
def timestamp (v : Value) : Value :=
  match v with
  | .moment t =>
    match t.instant?.bind Moment.ofInstant? with
    | some u => .moment u
    | none => v
  | v => v

end Canon

mutual

/-- The value that the encoding of a value is read back as. -/
def Shape.canon : Shape → Value → Value
  | .float32, v => Canon.float32 v
  | .float64, v => Canon.float64 v
  | .bytes, v => Canon.bytes v
  | .timestamp, v => Canon.timestamp v
  | .optional inner, v =>
    match v with
    | .null => .null
    | v => inner.canon v
  | .sequence inner, v =>
    match v with
    | .list items | .tuple items => .list (items.map inner.canon)
    | v => v
  | .map key value, v =>
    match v with
    | .dict entries => .ofEntries (entries.map fun e => (key.canon e.1, value.canon e.2))
    | v => v
  | .record cls _ fields, v => .record cls [] (fields.canon v [])
  | .union _ variants, v =>
    match v with
    | .record cls _ _ =>
      match lastIndex? cls variants.classes with
      | some i => variants.canon i v
      | none => v
    | v => v
  | _, v => v

/-- The attributes of a value in their canonical forms, put under the names of the fields. -/
def Fields.canon : Fields → Value → List (String × Option Value) → List (String × Option Value)
  | .nil, _, sofar => sofar
  | .cons name shape rest, v, sofar =>
    match v.attribute? name with
    | some a => rest.canon v (Value.put name (some (shape.canon a)) sofar)
    | none => rest.canon v sofar

def Variants.canon : Variants → Nat → Value → Value
  | .nil, _, v => v
  | .cons cls fields _, 0, v => .record cls [] (fields.canon v [])
  | .cons _ _ rest, i + 1, v => rest.canon i v

end

namespace Carries

/-- A text without halves of surrogate pairs, whose encoding has a length that a count holds. -/
def text (v : Value) : Prop :=
  match v with
  | .text s => (Utf8.encode s).length ≤ maxLength
  | _ => False

/-- Elements that take no bytes are limited in number. -/
def count (n width : Nat) : Prop := width = 0 → n ≤ maxZeroWidthCount

end Carries

mutual

/-- What the round trip of a value needs that the check does not see. -/
def Shape.Carries : Shape → Value → Prop
  | .float64, v => ∃ x, Layout.doubleOf v = .ok x
  | .text, v => Carries.text v
  | .timestamp, v => ∃ t u, v = .moment t ∧ t.instant?.bind Moment.ofInstant? = some u
  | .duration, v => ∃ s, v = .span s ∧ s.InRange
  | .optional inner, v =>
    match v with
    | .null => True
    | v => inner.Carries v
  | .sequence inner, v =>
    match v with
    | .list items | .tuple items =>
      Carries.count items.length inner.minWidth ∧ ∀ a ∈ items, inner.Carries a
    | _ => True
  | .map key value, v =>
    match v with
    | .dict entries =>
      Carries.count entries.length (key.minWidth + value.minWidth) ∧
        ∀ e ∈ entries, (key.Carries e.1 ∧ (key.canon e.1).unhashable? = none) ∧ value.Carries e.2
    | _ => True
  | .record _ _ fields, v => fields.Carries v
  | .enumeration e, v =>
    e.members.length ≤ maxLength ∧
      ∃ name value, v = .member e.name name value ∧ Value.lookup name e.members = some value
  | .union _ variants, v =>
    variants.size ≤ maxLength ∧
      match v with
      | .record cls _ _ => ∀ i, lastIndex? cls variants.classes = some i → variants.Carries i v
      | _ => True
  | .errors _ kinds, v =>
    kinds.length ≤ maxLength ∧ ∃ kind message, v = .declared kind message ∧ Carries.text message
  | _, _ => True

def Fields.Carries : Fields → Value → Prop
  | .nil, _ => True
  | .cons name shape rest, v => (∀ a, v.attribute? name = some a → shape.Carries a) ∧ rest.Carries v

def Variants.Carries : Variants → Nat → Value → Prop
  | .nil, _, _ => True
  | .cons _ fields _, 0, v => fields.Carries v
  | .cons _ _ rest, i + 1, v => rest.Carries i v

end

theorem Shape.write_optional {inner : Shape} {v : Value} (hv : v ≠ .null) :
    (optional inner).write v = .raw [1] ++ inner.write v := by
  rw [write]
  exact hv

theorem Shape.canon_optional {inner : Shape} {v : Value} (hv : v ≠ .null) :
    (optional inner).canon v = inner.canon v := by
  rw [canon]
  exact hv

/-- A moment becomes the moment in UTC at the same instant. -/
theorem Canon.timestamp_instant {t : Moment} {i : Int} (ht : t.instant? = some i)
    (hl : Calendar.firstInstant ≤ i) (hh : i ≤ Calendar.lastInstant) :
    ∃ u, timestamp (.moment t) = .moment u ∧ u.offset = some 0 ∧ u.instant? = t.instant? := by
  obtain ⟨u, hu⟩ := Moment.ofInstant?_of_mem hl hh
  obtain ⟨ho, hi⟩ := Moment.instant?_ofInstant? hu
  refine ⟨u, ?_, ho, hi.trans ht.symm⟩
  simp only [timestamp, ht, Option.bind_some, hu]

namespace Value

theorem insertEntry_of_new {k v : Value} {entries : List (Value × Value)}
    (h : ∀ e ∈ entries, e.1.same k = false) : insertEntry k v entries = entries ++ [(k, v)] := by
  induction entries with
  | nil => rfl
  | cons e rest ih =>
    have he := h e (by simp)
    have hr := ih fun d hd => h d (by simp [hd])
    simp [insertEntry, he, hr]

theorem foldl_insertEntry_of_distinct {entries sofar : List (Value × Value)}
    (h : (sofar ++ entries).Pairwise fun a b => a.1.same b.1 = false) :
    entries.foldl (fun es e => insertEntry e.1 e.2 es) sofar = sofar ++ entries := by
  induction entries generalizing sofar with
  | nil => simp
  | cons e rest ih =>
    have hn : ∀ d ∈ sofar, d.1.same e.1 = false :=
      fun d hd => (List.pairwise_append.mp h).2.2 d hd e (by simp)
    rw [List.foldl_cons, insertEntry_of_new hn, ih (by simpa using h), List.append_assoc, List.singleton_append]

end Value

/-- Entries keep their order if their keys stay apart. -/
theorem Shape.canon_map_of_distinct {key value : Shape} {entries : List (Value × Value)}
    (h : entries.Pairwise fun a b => (key.canon a.1).same (key.canon b.1) = false) :
    (map key value).canon (.dict entries) = .dict (entries.map fun e => (key.canon e.1, value.canon e.2)) := by
  have hd : List.Pairwise (fun a b : Value × Value => a.1.same b.1 = false)
      ([] ++ entries.map fun e => (key.canon e.1, value.canon e.2)) := by
    simpa [List.pairwise_map] using h
  simpa [canon, Value.ofEntries] using Value.foldl_insertEntry_of_distinct hd

/-- Fields with different names stand in their order. -/
theorem Fields.canon_of_nodup : (fs : Fields) → {v : Value} → {sofar : List (String × Option Value)} →
    (∀ f ∈ fs.toList, (v.attribute? f.1).isSome) → (sofar.map Prod.fst ++ fs.toList.map Prod.fst).Nodup →
    fs.canon v sofar = sofar ++ fs.toList.map fun f => (f.1, (v.attribute? f.1).map f.2.canon)
  | .nil, _, _, _, _ => by simp [canon, toList]
  | .cons name shape rest, v, sofar, hv, h => by
    obtain ⟨a, ha⟩ := Option.isSome_iff_exists.mp (hv (name, shape) (by simp [toList]))
    have hn : name ∉ sofar.map Prod.fst := fun hm => (List.nodup_append'.mp h).2.2 hm (by simp [toList])
    have hd : ((sofar ++ [(name, some (shape.canon a))]).map Prod.fst ++ rest.toList.map Prod.fst).Nodup := by
      simpa [toList] using h
    have hr := rest.canon_of_nodup (fun f hf => hv f (by simp [toList, hf])) hd
    simp only [canon, ha, Value.put_of_new hn, hr]
    simp [toList, ha]

end ForeignBridge
