import ForeignBridge.Proofs.Wire.Sound

/-!
What is in the grammar is read: a shape takes the bytes of each of its values, whatever stands around them,
and gives the value. A map does so where all that can be read as a key can be one.
-/

namespace ForeignBridge

open Reading

namespace Read

variable {impls : Implementations}

/-! ### Leaves -/

theorem int_takes {l : Layout} {i : Int} (h : l.Holds i) : (Reading.int l).Takes (l.numeral i) i := by
  have ht := (Takes.takeScalar (l.numeral_length i)).map l.unpackInt
  rwa [Layout.unpackInt_numeral h] at ht

theorem length_takes {n : Nat} (h : n ≤ maxLength) (typeName : String) :
    (length typeName).Takes (lengthNumeral n) n := by
  refine .finish (int_takes (Layout.i32_holds_iff.mpr h)) ?_
  rw [if_neg (by omega)]
  exact .pure n

theorem discriminant_takes {i count : Nat} (hi : i < count) (h : i + 1 ≤ maxLength) (typeName : String) :
    (discriminant typeName count).Takes (lengthNumeral (i + 1)) i := by
  refine .finish (int_takes (Layout.i32_holds_iff.mpr h)) ?_
  have hn : (((i + 1 : Nat) : Int) - 1).toNat = i := by omega
  rw [if_pos (by omega), hn]
  exact .pure i

theorem integer_takes {k : IntKind} {i : Int} (h : k.layout.Holds i) :
    (Reading.scalar k.layout).Takes (k.layout.numeral i) (.int i) := by
  have ht := (Takes.takeScalar (k.layout.numeral_length i)).map k.layout.unpack
  rwa [IntKind.unpack_layout, Layout.unpackInt_numeral h] at ht

theorem float32_takes (bits : UInt32) :
    (Reading.scalar .f32).Takes (bigEndian 4 bits.toNat) (.float (.ofSingle bits)) := by
  have ht := (Takes.takeScalar (l := .f32) (bigEndian_length 4 bits.toNat)).map (Layout.unpack .f32)
  have hb : ofBigEndian (bigEndian 4 bits.toNat) = bits.toNat := by
    rw [ofBigEndian_bigEndian]
    exact Nat.mod_eq_of_lt bits.toNat_lt
  rwa [Layout.unpack, hb, UInt32.ofNat_toNat] at ht

theorem float64_takes (x : Double) : (Reading.scalar .f64).Takes (bigEndian 8 x.bits.toNat) (.float x) := by
  have ht := (Takes.takeScalar (l := .f64) (bigEndian_length 8 x.bits.toNat)).map (Layout.unpack .f64)
  have hb : ofBigEndian (bigEndian 8 x.bits.toNat) = x.bits.toNat := by
    rw [ofBigEndian_bigEndian]
    exact Nat.mod_eq_of_lt x.bits.toNat_lt
  rwa [Layout.unpack, hb, UInt64.ofNat_toNat] at ht

theorem no_takes : boolean.Takes [0] (.bool false) :=
  .finish (int_takes (l := .i8) (i := 0) (by decide)) (.pure _)

theorem yes_takes : boolean.Takes [1] (.bool true) :=
  .finish (int_takes (l := .i8) (i := 1) (by decide)) (.pure _)

theorem text_takes {s : String} (h : (Utf8.encode s).length ≤ maxLength) :
    text.Takes (lengthNumeral (Utf8.encode s).length ++ Utf8.encode s) (.text s) := by
  refine .bind (length_takes h "String") (.finish .take ?_)
  rw [Utf8.decode_encode]
  exact .pure _

theorem bytes_takes {data : Bytes} (h : data.length ≤ maxLength) :
    bytes.Takes (lengthNumeral data.length ++ data) (.bytes .frozen data) :=
  .bind (length_takes h "Bytes") (.finish .take (.pure _))

theorem nanos_takes {n : Nat} (h : n < nanosPerSecond) (typeName : String) :
    (nanos typeName).Takes (Layout.u32.numeral n) n := by
  have hb : Layout.u32.Holds n := by
    change (0 : Int) ≤ n ∧ (n : Int) ≤ 4294967295
    unfold nanosPerSecond at h
    omega
  refine .finish (int_takes hb) ?_
  rw [if_neg (by omega)]
  exact .pure n

theorem timestamp_takes {seconds : Int} {n : Nat} {t : Moment} (hs : Layout.i64.Holds seconds)
    (hn : n < nanosPerSecond) (ht : t.IsAt (seconds * Calendar.microsPerSecond + (n / 1000 : Nat))) :
    timestamp.Takes (Layout.i64.numeral seconds ++ Layout.u32.numeral n) (.moment t) := by
  refine .bind (int_takes hs) (.finish (nanos_takes hn "Timestamp") ?_)
  rw [Moment.ofInstant?_eq_some_iff.mpr ht]
  exact .pure _

theorem duration_takes {seconds : Int} {n : Nat} {s : Span} (hs : Layout.u64.Holds seconds)
    (hn : n < nanosPerSecond) (hm : s.micros = seconds * Calendar.microsPerSecond + (n / 1000 : Nat))
    (hr : s.InRange) :
    duration.Takes (Layout.u64.numeral seconds ++ Layout.u32.numeral n) (.span s) := by
  have hp : Span.ofParts 0 seconds (n / 1000 : Nat) = s := by
    rw [Span.ofParts, Int.zero_mul, Int.zero_add, ← hm]
  refine .bind (int_takes hs) (.finish (nanos_takes hn "Duration") ?_)
  rw [hp]
  dsimp only
  rw [if_pos hr]
  exact .pure _

theorem enumeration_takes {e : EnumType} {i : Nat} {name : String} {value : Value}
    (h : e.members[i]? = some (name, value)) (hi : i + 1 ≤ maxLength) :
    (enumeration e).Takes (lengthNumeral (i + 1)) (.member e.name name value) := by
  have hl := (List.getElem?_eq_some_iff.mp h).1
  refine .finish (discriminant_takes hl hi e.name) ?_
  rw [h]
  exact .pure _

theorem errors_takes {name : String} {kinds : List String} {i : Nat} {kind : String} {bs : Bytes} {message : Value}
    (h : kinds[i]? = some kind) (hi : i + 1 ≤ maxLength) (hm : text.Takes bs message) :
    (errors name kinds).Takes (lengthNumeral (i + 1) ++ bs) (.declared kind message) := by
  have hl := (List.getElem?_eq_some_iff.mp h).1
  refine .bind (discriminant_takes hl hi name) ?_
  rw [h]
  exact .finish hm (.pure _)

/-! ### Composites -/

variable {inner key value : Shape}

theorem elements_takes (hx : ∀ {bs v}, inner.Denotes impls bs v → (inner.read impls).Takes bs v)
    {bs : Bytes} {items : List Value} (h : Shape.DenoteAll impls inner bs items) (sofar : List Value) :
    (elements (inner.read impls) items.length sofar).Takes bs (sofar.reverse ++ items) := by
  induction items generalizing bs sofar with
  | nil =>
    cases h
    rw [List.append_nil]
    exact .pure _
  | cons v rest ih =>
    cases h with
    | cons h hr =>
      have hrest := ih hr (v :: sofar)
      rw [List.reverse_cons, List.append_assoc, List.singleton_append] at hrest
      exact .bind ((hx h).orDrop _) hrest

theorem addEntry_takes {k : Value} (hk : k.unhashable? = none) (v : Value) (sofar : List (Value × Value)) :
    (addEntry k v sofar).Takes [] (Value.insertEntry k v sofar) := by
  unfold addEntry
  rw [hk]
  dsimp only
  split
  · exact .after (.drop _) (.pure _)
  · exact .pure _

theorem entries_takes (hx : ∀ {bs k}, key.Denotes impls bs k → (key.read impls).Takes bs k)
    (hy : ∀ {bs v}, value.Denotes impls bs v → (value.read impls).Takes bs v)
    (hk : ∀ {bs k}, key.Denotes impls bs k → k.unhashable? = none) {bs : Bytes} {pairs : List (Value × Value)}
    (h : Shape.DenoteEntries impls key value bs pairs) (sofar : List (Value × Value)) :
    (entries (key.read impls) (value.read impls) pairs.length sofar).Takes bs
      (pairs.foldl (fun es e => Value.insertEntry e.1 e.2 es) sofar) := by
  induction pairs generalizing bs sofar with
  | nil =>
    cases h
    exact .pure _
  | cons e rest ih =>
    cases h with
    | cons hkey hvalue hr =>
      exact .bind ((hx hkey).orDrop _) (.bind ((hy hvalue).orDrop _) (.after (addEntry_takes (hk hkey) _ _) (ih hr _)))

theorem sequence_takes (hx : ∀ {bs v}, inner.Denotes impls bs v → (inner.read impls).Takes bs v)
    {bs : Bytes} {items : List Value} (h : Shape.DenoteAll impls inner bs items) (hl : items.length ≤ maxLength)
    (hz : inner.minWidth = 0 → items.length ≤ maxZeroWidthCount) (typeName : String) :
    (do
      let count ← length typeName
      checkCount count inner.minWidth typeName
      return Value.list (← elements (inner.read impls) count []) : Reading Value).Takes
      (lengthNumeral items.length ++ bs) (.list items) := by
  have hi : (do return Value.list (← elements (inner.read impls) items.length []) : Reading Value).Takes bs
      (.list items) := .finish (elements_takes hx h []) (.pure _)
  exact .bind (length_takes hl typeName) (hi.checkCount h.mul_minWidth_le hz typeName)

theorem map_takes (hx : ∀ {bs k}, key.Denotes impls bs k → (key.read impls).Takes bs k)
    (hy : ∀ {bs v}, value.Denotes impls bs v → (value.read impls).Takes bs v)
    (hk : ∀ {bs k}, key.Denotes impls bs k → k.unhashable? = none) {bs : Bytes} {pairs : List (Value × Value)}
    (h : Shape.DenoteEntries impls key value bs pairs) (hl : pairs.length ≤ maxLength)
    (hz : key.minWidth + value.minWidth = 0 → pairs.length ≤ maxZeroWidthCount) (typeName : String) :
    (do
      let count ← length typeName
      checkCount count (key.minWidth + value.minWidth) typeName
      return Value.dict (← entries (key.read impls) (value.read impls) count []) : Reading Value).Takes
      (lengthNumeral pairs.length ++ bs) (.ofEntries pairs) := by
  have hp : (do return Value.dict (← entries (key.read impls) (value.read impls) pairs.length []) :
      Reading Value).Takes bs (.ofEntries pairs) := .finish (entries_takes hx hy hk h []) (.pure _)
  exact .bind (length_takes hl typeName) (hp.checkCount h.mul_minWidth_le hz typeName)

end Read

/-! ### Every shape -/

namespace Shape

/-- What a shape takes is read with nothing left behind it. -/
theorem readAll_of_takes {s : Shape} {impls : Implementations} {bs : Bytes} {v : Value}
    (h : (s.read impls).Takes bs v) : ∃ r, s.readAll impls (.ofBytes bs) = .ok v r := by
  obtain ⟨ds, hr⟩ := h.all
  exact ⟨_, (bind_of_ok hr).trans (Read.requireEnd_ok s.typeName v bs ds)⟩

theorem decode_of_takes {s : Shape} {bs : Bytes} {v : Value} (h : (s.read .none).Takes bs v) :
    s.decode bs = .ok v := by
  obtain ⟨r, hr⟩ := readAll_of_takes h
  rw [decode, hr]

end Shape

mutual

/-- Whether all that can be decoded as a key of a map in a shape can be one. -/
def Shape.HashableKeys : Shape → Prop
  | .optional inner | .sequence inner => inner.HashableKeys
  | .map key value => key.HashableKeys ∧ value.HashableKeys ∧
      ∀ data k, key.decode data = .ok k → k.unhashable? = none
  | .record _ _ fields => fields.HashableKeys
  | .union _ variants => variants.HashableKeys
  | _ => True

def Fields.HashableKeys : Fields → Prop
  | .nil => True
  | .cons _ shape rest => shape.HashableKeys ∧ rest.HashableKeys

def Variants.HashableKeys : Variants → Prop
  | .nil => True
  | .cons _ fields rest => fields.HashableKeys ∧ rest.HashableKeys

end

mutual

/-- A shape takes the bytes of each of its values, and gives the value. -/
theorem Shape.read_takes : (s : Shape) → s.HashableKeys → {bs : Bytes} → {v : Value} → s.Denotes .none bs v →
    (s.read .none).Takes bs v
  | .integer k, _, _, _, h => by
    cases h with
    | integer h => exact Read.integer_takes h
  | .float32, _, _, _, h => by
    cases h with
    | float32 bits => exact Read.float32_takes bits
  | .float64, _, _, _, h => by
    cases h with
    | float64 x => exact Read.float64_takes x
  | .boolean, _, _, _, h => by
    cases h with
    | no => exact Read.no_takes
    | yes => exact Read.yes_takes
  | .text, _, _, _, h => by
    cases h with
    | text h => exact Read.text_takes h
  | .bytes, _, _, _, h => by
    cases h with
    | bytes h => exact Read.bytes_takes h
  | .timestamp, _, _, _, h => by
    cases h with
    | timestamp hs hn ht =>
      obtain ⟨n, rfl⟩ := Int.eq_ofNat_of_zero_le hn.1
      exact Read.timestamp_takes hs (by omega) (by exact_mod_cast ht)
  | .duration, _, _, _, h => by
    cases h with
    | duration hs hn hm hr =>
      obtain ⟨n, rfl⟩ := Int.eq_ofNat_of_zero_le hn.1
      exact Read.duration_takes hs (by omega) (by exact_mod_cast hm) hr
  | .optional inner, hk, _, _, h => by
    cases h with
    | absent => exact .finish (Read.int_takes (l := .u8) (i := 0) (by decide)) (.pure _)
    | present h => exact .bind (Read.int_takes (l := .u8) (i := 1) (by decide)) (inner.read_takes hk h)
  | .sequence inner, hk, _, _, h => by
    cases h with
    | sequence h hl hz => exact Read.sequence_takes (inner.read_takes hk) h hl hz _
  | .map key value, hk, _, _, h => by
    obtain ⟨hkey, hvalue, hh⟩ := hk
    cases h with
    | map h hl hz =>
      refine Read.map_takes (key.read_takes hkey) (value.read_takes hvalue) (fun hd => ?_) h hl hz _
      exact hh _ _ (Shape.decode_of_takes (key.read_takes hkey hd))
  | .record _ _ fields, hk, _, _, h => by
    cases h with
    | record h => exact .finish (fields.read_takes hk h []) (.pure _)
  | .enumeration _, _, _, _, h => by
    cases h with
    | enumeration h hi => exact Read.enumeration_takes h hi
  | .union name variants, hk, _, _, h => by
    cases h with
    | union h hi =>
      obtain ⟨hs, ht⟩ := variants.read_takes hk h
      exact .bind (Read.discriminant_takes hs hi name) ht
  | .errors _ _, _, _, _, h => by
    cases h with
    | errors h hi hm =>
      cases hm with
      | text hm => exact Read.errors_takes h hi (Read.text_takes hm)
  | .object _, _, _, _, h => by
    cases h with
    | object h => exact .finish (Read.int_takes h) (.pure _)
  | .callback _ _ _, _, _, _, h => by
    cases h with
    | callback _ hv => cases hv

theorem Fields.read_takes : (fs : Fields) → fs.HashableKeys → {bs : Bytes} → {named : List (String × Value)} →
    fs.Denote .none bs named → (sofar : List (String × Option Value)) →
    (fs.read .none sofar).Takes bs (named.foldl (fun fs f => Value.put f.1 (some f.2) fs) sofar)
  | .nil, _, _, _, h, _ => by
    cases h
    exact .pure _
  | .cons name shape rest, hk, _, _, h, sofar => by
    cases h with
    | cons h hr =>
      have hfield := (shape.read_takes hk.1 h).orDrop fun _ => heldInFields sofar
      exact .bind hfield (.after (Read.addField_takes name _ sofar) (rest.read_takes hk.2 hr _))

theorem Variants.read_takes : (vs : Variants) → vs.HashableKeys → {i : Nat} → {bs : Bytes} → {v : Value} →
    vs.Denotes .none i bs v → i < vs.size ∧ (vs.read .none i).Takes bs v
  | .cons _ fields rest, hk, _, _, _, h => by
    cases h with
    | here h => exact ⟨Nat.succ_pos _, .finish (fields.read_takes hk.1 h []) (.pure _)⟩
    | later h =>
      obtain ⟨hs, ht⟩ := rest.read_takes hk.2 h
      exact ⟨Nat.succ_lt_succ hs, ht⟩

end

end ForeignBridge
