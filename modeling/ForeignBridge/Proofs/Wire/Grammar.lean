import ForeignBridge.Proofs.Calendar.Dates
import ForeignBridge.Proofs.Wire.Layout
import ForeignBridge.Wire.Check
import ForeignBridge.Wire.Read

/-!
The wire format as a grammar, without a reader: which bytes stand for which value of a shape. Bytes of a
composite are the bytes of its parts one after the other, cut anywhere; only the counts, lengths and
discriminants in front of them say how many parts there are and which.
-/

namespace ForeignBridge

/-- A whole number at the width of a layout, its most significant byte first. -/
def Layout.numeral (l : Layout) (i : Int) : Bytes := bigEndian l.size (residueOf l.size i)

/-- Whether a whole number is in the range of a layout. -/
def Layout.Holds (l : Layout) (i : Int) : Prop := l.least ≤ i ∧ i ≤ l.greatest

instance (l : Layout) (i : Int) : Decidable (l.Holds i) := inferInstanceAs (Decidable (_ ∧ _))

/-- A length, a count or a discriminant. -/
def lengthNumeral (n : Nat) : Bytes := Layout.i32.numeral n

/-- The fields of a record built from values by name, in order; a name that comes again replaces its value. -/
def Value.fieldsOf (named : List (String × Value)) : List (String × Option Value) :=
  named.foldl (fun fields f => put f.1 (some f.2) fields) []

mutual

/-- The bytes of a value of a shape. Implementations say what a handle stands for. -/
inductive Shape.Denotes (impls : Implementations) : Shape → Bytes → Value → Prop
  | integer {k : IntKind} {i : Int} (h : k.layout.Holds i) :
      Shape.Denotes impls (.integer k) (k.layout.numeral i) (.int i)
  | float32 (bits : UInt32) :
      Shape.Denotes impls .float32 (bigEndian 4 bits.toNat) (.float (.ofSingle bits))
  | float64 (x : Double) :
      Shape.Denotes impls .float64 (bigEndian 8 x.bits.toNat) (.float x)
  | no : Shape.Denotes impls .boolean [0] (.bool false)
  | yes : Shape.Denotes impls .boolean [1] (.bool true)
  | text {s : String} (h : (Utf8.encode s).length ≤ maxLength) :
      Shape.Denotes impls .text (lengthNumeral (Utf8.encode s).length ++ Utf8.encode s) (.text s)
  | bytes {data : Bytes} (h : data.length ≤ maxLength) :
      Shape.Denotes impls .bytes (lengthNumeral data.length ++ data) (.bytes .frozen data)
  -- digits of the nanoseconds below a microsecond are dropped
  | timestamp {seconds nanos : Int} {t : Moment} (hs : Layout.i64.Holds seconds)
      (hn : 0 ≤ nanos ∧ nanos < nanosPerSecond)
      (ht : t.IsAt (seconds * Calendar.microsPerSecond + nanos / 1000)) :
      Shape.Denotes impls .timestamp (Layout.i64.numeral seconds ++ Layout.u32.numeral nanos) (.moment t)
  | duration {seconds nanos : Int} {s : Span} (hs : Layout.u64.Holds seconds)
      (hn : 0 ≤ nanos ∧ nanos < nanosPerSecond)
      (hm : s.micros = seconds * Calendar.microsPerSecond + nanos / 1000) (hr : s.InRange) :
      Shape.Denotes impls .duration (Layout.u64.numeral seconds ++ Layout.u32.numeral nanos) (.span s)
  | absent {inner : Shape} : Shape.Denotes impls (.optional inner) [0] .null
  | present {inner : Shape} {bs : Bytes} {v : Value} (h : inner.Denotes impls bs v) :
      Shape.Denotes impls (.optional inner) (1 :: bs) v
  | sequence {inner : Shape} {bs : Bytes} {items : List Value} (h : Shape.DenoteAll impls inner bs items)
      (hl : items.length ≤ maxLength) (hz : inner.minWidth = 0 → items.length ≤ maxZeroWidthCount) :
      Shape.Denotes impls (.sequence inner) (lengthNumeral items.length ++ bs) (.list items)
  -- entries are inserted from the left: a key that comes again keeps its place and takes the later value
  | map {key value : Shape} {bs : Bytes} {entries : List (Value × Value)}
      (h : Shape.DenoteEntries impls key value bs entries) (hl : entries.length ≤ maxLength)
      (hz : key.minWidth + value.minWidth = 0 → entries.length ≤ maxZeroWidthCount) :
      Shape.Denotes impls (.map key value) (lengthNumeral entries.length ++ bs) (.ofEntries entries)
  | record {cls label : String} {fields : Fields} {bs : Bytes} {named : List (String × Value)}
      (h : fields.Denote impls bs named) :
      Shape.Denotes impls (.record cls label fields) bs (.record cls [] (Value.fieldsOf named))
  | enumeration {e : EnumType} {i : Nat} {name : String} {value : Value}
      (h : e.members[i]? = some (name, value)) (hi : i + 1 ≤ maxLength) :
      Shape.Denotes impls (.enumeration e) (lengthNumeral (i + 1)) (.member e.name name value)
  | union {name : String} {variants : Variants} {i : Nat} {bs : Bytes} {v : Value}
      (h : variants.Denotes impls i bs v) (hi : i + 1 ≤ maxLength) :
      Shape.Denotes impls (.union name variants) (lengthNumeral (i + 1) ++ bs) v
  | errors {name : String} {kinds : List String} {i : Nat} {kind : String} {bs : Bytes} {message : Value}
      (h : kinds[i]? = some kind) (hi : i + 1 ≤ maxLength) (hm : Shape.text.Denotes impls bs message) :
      Shape.Denotes impls (.errors name kinds) (lengthNumeral (i + 1) ++ bs) (.declared kind message)
  | object {cls : String} {p : Nat} (h : Layout.u64.Holds p) :
      Shape.Denotes impls (.object cls) (Layout.u64.numeral p) (.received cls p)
  | callback {name : String} {methods : List String} {registry : Nat} {handle : Int} {v : Value}
      (h : Layout.u64.Holds handle) (hv : impls registry handle = .ok v) :
      Shape.Denotes impls (.callback name methods registry) (Layout.u64.numeral handle) v

/-- The bytes of values of one shape, one after the other. -/
inductive Shape.DenoteAll (impls : Implementations) : Shape → Bytes → List Value → Prop
  | nil {inner : Shape} : Shape.DenoteAll impls inner [] []
  | cons {inner : Shape} {bs cs : Bytes} {v : Value} {items : List Value} (h : inner.Denotes impls bs v)
      (hr : Shape.DenoteAll impls inner cs items) : Shape.DenoteAll impls inner (bs ++ cs) (v :: items)

/-- The bytes of entries, each a key and then its value. -/
inductive Shape.DenoteEntries (impls : Implementations) :
    Shape → Shape → Bytes → List (Value × Value) → Prop
  | nil {key value : Shape} : Shape.DenoteEntries impls key value [] []
  | cons {key value : Shape} {bs cs ds : Bytes} {k v : Value} {entries : List (Value × Value)}
      (hk : key.Denotes impls bs k) (hv : value.Denotes impls cs v)
      (hr : Shape.DenoteEntries impls key value ds entries) :
      Shape.DenoteEntries impls key value (bs ++ (cs ++ ds)) ((k, v) :: entries)

/-- The bytes of a value for each field, in the order of the fields. -/
inductive Fields.Denote (impls : Implementations) : Fields → Bytes → List (String × Value) → Prop
  | nil : Fields.Denote impls .nil [] []
  | cons {name : String} {shape : Shape} {rest : Fields} {bs cs : Bytes} {v : Value}
      {named : List (String × Value)} (h : shape.Denotes impls bs v) (hr : rest.Denote impls cs named) :
      Fields.Denote impls (.cons name shape rest) (bs ++ cs) ((name, v) :: named)

/-- The bytes of a record of the class at a place among the variants. -/
inductive Variants.Denotes (impls : Implementations) : Variants → Nat → Bytes → Value → Prop
  | here {cls : String} {fields : Fields} {rest : Variants} {bs : Bytes} {named : List (String × Value)}
      (h : fields.Denote impls bs named) :
      Variants.Denotes impls (.cons cls fields rest) 0 bs (.record cls [] (Value.fieldsOf named))
  | later {cls : String} {fields : Fields} {rest : Variants} {i : Nat} {bs : Bytes} {v : Value}
      (h : rest.Denotes impls i bs v) : Variants.Denotes impls (.cons cls fields rest) (i + 1) bs v

end

namespace Layout

@[simp] theorem numeral_length (l : Layout) (i : Int) : (l.numeral i).length = l.size :=
  bigEndian_length _ _

theorem unpackInt_numeral {l : Layout} {i : Int} (h : l.Holds i) : l.unpackInt (l.numeral i) = i :=
  unpackInt_packInt h.1 h.2

theorem holds_unpackInt {l : Layout} {bs : Bytes} (h : bs.length = l.size) : l.Holds (l.unpackInt bs) :=
  unpackInt_bounds h

theorem numeral_unpackInt {l : Layout} {bs : Bytes} (h : bs.length = l.size) :
    l.numeral (l.unpackInt bs) = bs :=
  packed_unpackInt h

/-- The lengths that there are. -/
theorem i32_holds_iff {n : Nat} : i32.Holds n ↔ n ≤ maxLength := by
  change (-2147483648 : Int) ≤ n ∧ (n : Int) ≤ 2147483647 ↔ n ≤ 2147483647
  omega

end Layout

@[simp] theorem lengthNumeral_length (n : Nat) : (lengthNumeral n).length = 4 :=
  Layout.i32.numeral_length n

variable {impls : Implementations}

mutual

/-- The least width of a shape is a bound for all the bytes of its values. -/
theorem Shape.Denotes.minWidth_le {s : Shape} {bs : Bytes} {v : Value} (h : s.Denotes impls bs v) :
    s.minWidth ≤ bs.length := by
  cases h with
  | integer =>
    rw [Layout.numeral_length]
    exact Nat.le_refl _
  | object | callback =>
    rw [Layout.numeral_length]
    exact Nat.le_refl 8
  | float32 | float64 =>
    rw [bigEndian_length]
    exact Nat.le_refl _
  | no | yes | absent => exact Nat.le_refl 1
  | timestamp | duration =>
    rw [List.length_append, Layout.numeral_length, Layout.numeral_length]
    exact Nat.le_refl 12
  | enumeration =>
    rw [lengthNumeral_length]
    exact Nat.le_refl 4
  | present => exact Nat.succ_le_succ (Nat.zero_le _)
  | record h => exact h.minWidth_le
  | text | bytes | sequence | map | union | errors =>
    rw [List.length_append, lengthNumeral_length]
    exact Nat.le_add_right 4 _

theorem Fields.Denote.minWidth_le {fs : Fields} {bs : Bytes} {named : List (String × Value)}
    (h : fs.Denote impls bs named) : fs.minWidth ≤ bs.length := by
  cases h with
  | nil => exact Nat.zero_le _
  | cons h hr =>
    rw [List.length_append]
    exact Nat.add_le_add h.minWidth_le hr.minWidth_le

end

namespace Shape

/-- Values of a shape take at least its least width each. -/
theorem DenoteAll.mul_minWidth_le {inner : Shape} {bs : Bytes} {items : List Value}
    (h : DenoteAll impls inner bs items) : items.length * inner.minWidth ≤ bs.length := by
  induction items generalizing bs with
  | nil => simp
  | cons v rest ih =>
    cases h with
    | cons h hr =>
      have hv := h.minWidth_le
      have hrest := ih hr
      rw [List.length_cons, Nat.succ_mul, List.length_append]
      omega

theorem DenoteEntries.mul_minWidth_le {key value : Shape} {bs : Bytes} {entries : List (Value × Value)}
    (h : DenoteEntries impls key value bs entries) :
    entries.length * (key.minWidth + value.minWidth) ≤ bs.length := by
  induction entries generalizing bs with
  | nil => simp
  | cons e rest ih =>
    cases h with
    | cons hk hv hr =>
      have hkey := hk.minWidth_le
      have hvalue := hv.minWidth_le
      have hrest := ih hr
      rw [List.length_cons, Nat.succ_mul, List.length_append, List.length_append]
      omega

end Shape

end ForeignBridge
