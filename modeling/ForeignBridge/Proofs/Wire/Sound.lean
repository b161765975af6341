import ForeignBridge.Proofs.Text.Utf8
import ForeignBridge.Proofs.Wire.Exact
import ForeignBridge.Proofs.Wire.Grammar
import ForeignBridge.Wire.Codec

/-!
What a shape reads is in the grammar: from any bytes it takes the bytes of a value of the shape, and gives
that value, or it fails. The failure shows that the bytes are malformed if the shape holds no handle and
its keys are built of scalars; in general it may be any.
-/

namespace ForeignBridge

open Reading

/-- Ways to fail that include what may happen besides malformed bytes: a key that cannot be hashed, and a handle that
is not found. -/
structure Implementations.Excuses (impls : Implementations) (E : Failure → Prop) : Prop where
  unhashable : ∀ name, E (.mismatch (.unhashable name))
  unknown : ∀ registry handle f, impls registry handle = .error f → E f

theorem IntKind.unpack_layout (k : IntKind) (bs : Bytes) :
    k.layout.unpack bs = .int (k.layout.unpackInt bs) := by
  cases k <;> rfl

namespace Read

variable {E : Failure → Prop} {impls : Implementations}

/-! ### Leaves -/

section

variable (hE : ∀ e, e.IsMalformed → E e)
include hE

theorem int_exact (l : Layout) : (Reading.int l).Exact E fun bs i => l.Holds i ∧ bs = l.numeral i := by
  refine (Exact.takeScalar hE l).map _ ?_
  rintro bs _ ⟨hl, rfl⟩
  exact ⟨Layout.holds_unpackInt hl, (Layout.numeral_unpackInt hl).symm⟩

theorem length_exact (typeName : String) :
    (length typeName).Exact E fun bs n => n ≤ maxLength ∧ bs = lengthNumeral n := by
  refine .bind (int_exact hE .i32) fun bs i hi => ?_
  obtain ⟨hh, rfl⟩ := hi
  split
  · exact .bind (P := fun _ _ => False) (.throw (hE _ trivial)) fun _ _ h => h.elim
  · obtain ⟨n, rfl⟩ := Int.eq_ofNat_of_zero_le (a := i) (by omega)
    exact .pure ⟨Layout.i32_holds_iff.mp hh, List.append_nil _⟩

theorem discriminant_exact (typeName : String) (count : Nat) : (discriminant typeName count).Exact E fun bs i =>
    i < count ∧ i + 1 ≤ maxLength ∧ bs = lengthNumeral (i + 1) := by
  refine .bind (int_exact hE .i32) fun bs d hd => ?_
  obtain ⟨hh, rfl⟩ := hd
  split
  · rename_i hc
    obtain ⟨n, rfl⟩ := Int.eq_ofNat_of_zero_le (a := d) (by omega)
    obtain ⟨i, rfl⟩ : ∃ i, n = i + 1 := ⟨n - 1, by omega⟩
    have hi : (((i + 1 : Nat) : Int) - 1).toNat = i := by omega
    rw [hi]
    exact .pure ⟨by omega, Layout.i32_holds_iff.mp hh, List.append_nil _⟩
  · exact .throw (hE _ trivial)

theorem integer_exact (k : IntKind) : (Reading.scalar k.layout).Exact E ((Shape.integer k).Denotes impls) := by
  refine (Exact.takeScalar hE k.layout).map _ ?_
  rintro bs _ ⟨hl, rfl⟩
  have h : (Shape.integer k).Denotes impls _ _ := .integer (Layout.holds_unpackInt hl)
  rwa [Layout.numeral_unpackInt hl, ← IntKind.unpack_layout] at h

theorem float32_exact : (Reading.scalar .f32).Exact E (Shape.float32.Denotes impls) := by
  refine (Exact.takeScalar hE .f32).map _ ?_
  rintro _ bs ⟨hl, rfl⟩
  have hb := ofBigEndian_lt bs
  have hd := bigEndian_ofBigEndian bs
  have h : Shape.float32.Denotes impls _ _ := .float32 (UInt32.ofNat (ofBigEndian bs))
  rw [hl] at hb hd
  rwa [UInt32.toNat_ofNat_of_lt' hb, show (4 : Nat) = Layout.f32.size from rfl, hd] at h

theorem float64_exact : (Reading.scalar .f64).Exact E (Shape.float64.Denotes impls) := by
  refine (Exact.takeScalar hE .f64).map _ ?_
  rintro _ bs ⟨hl, rfl⟩
  have hb := ofBigEndian_lt bs
  have hd := bigEndian_ofBigEndian bs
  have h : Shape.float64.Denotes impls _ _ := .float64 ⟨UInt64.ofNat (ofBigEndian bs)⟩
  rw [hl] at hb hd
  rwa [UInt64.toNat_ofNat_of_lt' hb, show (8 : Nat) = Layout.f64.size from rfl, hd] at h

theorem boolean_exact : boolean.Exact E (Shape.boolean.Denotes impls) := by
  refine .bind (int_exact hE .i8) fun bs b hb => ?_
  obtain ⟨-, rfl⟩ := hb
  split
  · rename_i h₀
    subst h₀
    exact .pure .no
  split
  · rename_i h₁
    subst h₁
    exact .pure .yes
  · exact .throw (hE _ trivial)

/-- A text is read only from the bytes that encode it. -/
theorem text_exact : text.Exact E (Shape.text.Denotes impls) := by
  refine .bind (length_exact hE "String") fun bs n hn => ?_
  obtain ⟨hm, rfl⟩ := hn
  refine .bind (.take hE n) fun raw r hr => ?_
  obtain ⟨rfl, rfl⟩ := hr
  split
  · rename_i s hs
    obtain rfl := Utf8.encode_of_decode hs
    refine .pure ?_
    rw [List.append_nil]
    exact .text hm
  · exact .throw (hE _ trivial)

theorem bytes_exact : bytes.Exact E (Shape.bytes.Denotes impls) := by
  refine .bind (length_exact hE "Bytes") fun bs n hn => ?_
  obtain ⟨hm, rfl⟩ := hn
  refine .bind (.take hE n) fun raw r hr => ?_
  obtain ⟨rfl, rfl⟩ := hr
  refine .pure ?_
  rw [List.append_nil]
  exact .bytes hm

theorem nanos_exact (typeName : String) :
    (nanos typeName).Exact E fun bs n => n < nanosPerSecond ∧ bs = Layout.u32.numeral n := by
  refine .bind (int_exact hE .u32) fun bs i hi => ?_
  obtain ⟨hh, rfl⟩ := hi
  obtain ⟨n, rfl⟩ := Int.eq_ofNat_of_zero_le (a := i) hh.1
  extract_lets m finish
  split
  · exact .bind (P := fun _ _ => False) (.throw (hE _ trivial)) fun _ _ h => h.elim
  · rename_i hn
    exact .pure ⟨Nat.lt_of_not_le hn, List.append_nil _⟩

theorem timestamp_exact : timestamp.Exact E (Shape.timestamp.Denotes impls) := by
  refine .bind (int_exact hE .i64) fun bs seconds hs => ?_
  obtain ⟨hs, rfl⟩ := hs
  refine .bind (nanos_exact hE "Timestamp") fun cs n hn => ?_
  obtain ⟨hn, rfl⟩ := hn
  split
  · rename_i t ht
    refine .pure ?_
    rw [List.append_nil]
    exact .timestamp hs ⟨by omega, by omega⟩ (by exact_mod_cast Moment.ofInstant?_eq_some_iff.mp ht)
  · exact .throw (hE _ trivial)

theorem duration_exact : duration.Exact E (Shape.duration.Denotes impls) := by
  refine .bind (int_exact hE .u64) fun bs seconds hs => ?_
  obtain ⟨hs, rfl⟩ := hs
  refine .bind (nanos_exact hE "Duration") fun cs n hn => ?_
  obtain ⟨hn, rfl⟩ := hn
  extract_lets s
  split
  · rename_i hr
    refine .pure ?_
    rw [List.append_nil]
    exact .duration hs ⟨by omega, by omega⟩ (by simp [s, Span.ofParts]) hr
  · exact .throw (hE _ trivial)

theorem enumeration_exact (e : EnumType) : (enumeration e).Exact E ((Shape.enumeration e).Denotes impls) := by
  refine .bind (discriminant_exact hE e.name e.members.length) fun bs i hi => ?_
  obtain ⟨-, hm, rfl⟩ := hi
  split
  · rename_i name value h
    refine .pure ?_
    rw [List.append_nil]
    exact .enumeration h hm
  · exact .throw (hE _ trivial)

theorem errors_exact (name : String) (kinds : List String) :
    (errors name kinds).Exact E ((Shape.errors name kinds).Denotes impls) := by
  refine .bind (discriminant_exact hE name kinds.length) fun bs i hi => ?_
  obtain ⟨-, hm, rfl⟩ := hi
  split
  · rename_i kind h
    have ht : text.Exact E (Shape.text.Denotes impls) := text_exact hE
    refine ht.bind fun cs message ht => .pure ?_
    rw [List.append_nil]
    exact .errors h hm ht
  · exact .throw (hE _ trivial)

end

/-! ### Composites -/

variable {inner key value : Shape}

/-- Elements are added behind those already read, which `sofar` holds from the last. -/
theorem elements_exact (hx : (inner.read impls).Exact E (inner.Denotes impls)) (n : Nat) (sofar : List Value) :
    (elements (inner.read impls) n sofar).Exact E fun bs vs =>
      ∃ items, items.length = n ∧ Shape.DenoteAll impls inner bs items ∧ vs = sofar.reverse ++ items := by
  induction n generalizing sofar with
  | zero => exact .pure ⟨[], rfl, .nil, (List.append_nil _).symm⟩
  | succ n ih =>
    refine .bind (hx.orDrop _) fun bs v hv => (ih (v :: sofar)).mono ?_
    rintro cs _ ⟨items, hn, hi, rfl⟩
    exact ⟨v :: items, by rw [List.length_cons, hn], .cons hv hi, by simp⟩

theorem addEntry_exact {k : Value} (hk : k.unhashable? = none ∨ impls.Excuses E) (v : Value)
    (sofar : List (Value × Value)) :
    (addEntry k v sofar).Exact E fun bs es => bs = [] ∧ es = Value.insertEntry k v sofar := by
  unfold addEntry
  split
  · rename_i name hn
    obtain h | h := hk
    · rw [h] at hn
      cases hn
    · exact .bind (P := fun _ _ => True) (.of_takes (.drop _) trivial) fun _ _ _ => .throw (h.unhashable name)
  · extract_lets finish
    split
    · exact .of_takes (.after (.drop _) (.pure _)) ⟨rfl, rfl⟩
    · exact .pure ⟨rfl, rfl⟩

theorem entries_exact (hx : (key.read impls).Exact E (key.Denotes impls))
    (hy : (value.read impls).Exact E (value.Denotes impls))
    (hk : ∀ bs k, key.Denotes impls bs k → k.unhashable? = none ∨ impls.Excuses E) (n : Nat)
    (sofar : List (Value × Value)) :
    (entries (key.read impls) (value.read impls) n sofar).Exact E fun bs es =>
      ∃ pairs, pairs.length = n ∧ Shape.DenoteEntries impls key value bs pairs ∧
        es = pairs.foldl (fun es e => Value.insertEntry e.1 e.2 es) sofar := by
  induction n generalizing sofar with
  | zero => exact .pure ⟨[], rfl, .nil, rfl⟩
  | succ n ih =>
    refine .bind (hx.orDrop _) fun bs k hkey => .bind (hy.orDrop _) fun cs v hvalue => ?_
    refine .bind (addEntry_exact (hk bs k hkey) v sofar) fun ds es hes => ?_
    obtain ⟨rfl, rfl⟩ := hes
    refine (ih _).mono ?_
    rintro ds _ ⟨pairs, hn, hp, rfl⟩
    exact ⟨(k, v) :: pairs, by rw [List.length_cons, hn], .cons hkey hvalue hp, rfl⟩

theorem addField_takes (name : String) (v : Value) (sofar : List (String × Option Value)) :
    (addField name v sofar).Takes [] (Value.put name (some v) sofar) := by
  unfold addField
  extract_lets finish
  split
  · exact .after (.drop _) (.pure _)
  · exact .pure _

section

variable (hE : ∀ e, e.IsMalformed → E e)
include hE

theorem sequence_exact (hx : (inner.read impls).Exact E (inner.Denotes impls)) (typeName : String) :
    (do
      let count ← length typeName
      checkCount count inner.minWidth typeName
      return Value.list (← elements (inner.read impls) count []) : Reading Value).Exact E
      ((Shape.sequence inner).Denotes impls) := by
  refine .bind (length_exact hE typeName) fun bs n hn => ?_
  obtain ⟨hm, rfl⟩ := hn
  have hs : (do return Value.list (← elements (inner.read impls) n []) : Reading Value).Exact E fun bs v =>
      ∃ items, items.length = n ∧ Shape.DenoteAll impls inner bs items ∧ v = .list items := by
    refine .bind (elements_exact hx n []) fun bs vs hvs => ?_
    obtain ⟨items, hn, hi, rfl⟩ := hvs
    exact .pure ⟨_, hn, by rwa [List.append_nil], rfl⟩
  refine (hs.checkCount hE ?_ typeName).mono ?_
  · rintro bs _ ⟨items, rfl, hi, -⟩
    exact hi.mul_minWidth_le
  · rintro bs _ ⟨⟨items, rfl, hi, rfl⟩, hz⟩
    exact .sequence hi hm hz

theorem map_exact (hx : (key.read impls).Exact E (key.Denotes impls))
    (hy : (value.read impls).Exact E (value.Denotes impls))
    (hk : ∀ bs k, key.Denotes impls bs k → k.unhashable? = none ∨ impls.Excuses E) (typeName : String) :
    (do
      let count ← length typeName
      checkCount count (key.minWidth + value.minWidth) typeName
      return Value.dict (← entries (key.read impls) (value.read impls) count []) : Reading Value).Exact E
      ((Shape.map key value).Denotes impls) := by
  refine .bind (length_exact hE typeName) fun bs n hn => ?_
  obtain ⟨hm, rfl⟩ := hn
  have hs : (do return Value.dict (← entries (key.read impls) (value.read impls) n []) : Reading Value).Exact E
      fun bs v => ∃ pairs, pairs.length = n ∧ Shape.DenoteEntries impls key value bs pairs ∧
        v = .ofEntries pairs := by
    refine .bind (entries_exact hx hy hk n []) fun bs es hes => ?_
    obtain ⟨pairs, hn, hp, rfl⟩ := hes
    exact .pure ⟨pairs, hn, by rwa [List.append_nil], rfl⟩
  refine (hs.checkCount hE ?_ typeName).mono ?_
  · rintro bs _ ⟨pairs, rfl, hp, -⟩
    exact hp.mul_minWidth_le
  · rintro bs _ ⟨⟨pairs, rfl, hp, rfl⟩, hz⟩
    exact .map hp hm hz

end

end Read

/-! ### Every shape -/

/-- Whether a shape holds neither a handle nor a composite other than options, so that its values can be keys. -/
def Shape.isKey : Shape → Bool
  | .optional inner => inner.isKey
  | .sequence _ | .map _ _ | .record .. | .union .. | .object _ | .callback .. => false
  | _ => true

mutual

/-- Whether all keys of the maps in a shape are such. -/
def Shape.hasKeys : Shape → Bool
  | .optional inner | .sequence inner => inner.hasKeys
  | .map key value => key.isKey && value.hasKeys
  | .record _ _ fields => fields.hasKeys
  | .union _ variants => variants.hasKeys
  | _ => true

def Fields.hasKeys : Fields → Bool
  | .nil => true
  | .cons _ shape rest => shape.hasKeys && rest.hasKeys

def Variants.hasKeys : Variants → Bool
  | .nil => true
  | .cons _ fields rest => fields.hasKeys && rest.hasKeys

end

theorem Shape.hashable_of_isKey {impls : Implementations} : {s : Shape} → s.isKey → {bs : Bytes} → {v : Value} →
    s.Denotes impls bs v → v.unhashable? = none
  | .optional inner, hs, _, _, h => by
    cases h with
    | absent => rfl
    | present h => exact hashable_of_isKey (s := inner) hs h
  | .errors .., _, _, _, h => by
    cases h with
    | errors _ _ hm =>
      cases hm
      rfl
  | .integer _, _, _, _, h | .float32, _, _, _, h | .float64, _, _, _, h | .boolean, _, _, _, h
  | .text, _, _, _, h | .bytes, _, _, _, h | .timestamp, _, _, _, h | .duration, _, _, _, h
  | .enumeration _, _, _, _, h => by
    cases h <;> rfl

/-- A key of keys is one itself. -/
theorem Shape.hasKeys_of_isKey : {s : Shape} → s.isKey → s.hasKeys
  | .optional inner, h => hasKeys_of_isKey (s := inner) h
  | .integer _, _ | .float32, _ | .float64, _ | .boolean, _ | .text, _ | .bytes, _ | .timestamp, _
  | .duration, _ | .enumeration _, _ | .errors .., _ => rfl

/-- What is asked of two parts, unless nothing is asked, is asked of each. -/
theorem both_of_and {P : Prop} {a b c d : Bool} (h : P ∨ (a && b) ∧ (c && d)) :
    (P ∨ a ∧ c) ∧ (P ∨ b ∧ d) := by
  simp only [Bool.and_eq_true] at h
  tauto

variable {E : Failure → Prop}

mutual

/-- A shape takes the bytes of one of its values and gives the value, or else it fails. -/
theorem Shape.read_exact (hE : ∀ e, e.IsMalformed → E e) (impls : Implementations) : (s : Shape) →
    impls.Excuses E ∨ s.isPlain ∧ s.hasKeys → (s.read impls).Exact E (s.Denotes impls)
  | .integer k, _ => Read.integer_exact hE k
  | .float32, _ => Read.float32_exact hE
  | .float64, _ => Read.float64_exact hE
  | .boolean, _ => Read.boolean_exact hE
  | .text, _ => Read.text_exact hE
  | .bytes, _ => Read.bytes_exact hE
  | .timestamp, _ => Read.timestamp_exact hE
  | .duration, _ => Read.duration_exact hE
  | .optional inner, h => by
    refine .bind (Read.int_exact hE .u8) fun bs flag hf => ?_
    obtain ⟨-, rfl⟩ := hf
    split
    · rename_i h₀
      subst h₀
      exact .pure .absent
    split
    · rename_i h₁
      subst h₁
      exact (inner.read_exact hE impls h).mono fun bs v hv => .present hv
    · exact .throw (hE _ trivial)
  | .sequence inner, h => Read.sequence_exact hE (inner.read_exact hE impls h) _
  | .map key value, h => by
    obtain ⟨hkey, hvalue⟩ := both_of_and h
    have hkeys : impls.Excuses E ∨ key.isPlain ∧ key.hasKeys :=
      hkey.imp_right fun hk => ⟨hk.1, Shape.hasKeys_of_isKey hk.2⟩
    refine Read.map_exact hE (key.read_exact hE impls hkeys) (value.read_exact hE impls hvalue)
      (fun bs k hd => ?_) _
    exact (hkey.imp_right fun hk => Shape.hashable_of_isKey hk.2 hd).symm
  | .record cls label fields, h => by
    refine .bind (fields.read_exact hE impls h []) fun bs fs hfs => ?_
    obtain ⟨named, hn, rfl⟩ := hfs
    refine .pure ?_
    rw [List.append_nil]
    exact .record hn
  | .enumeration e, _ => Read.enumeration_exact hE e
  | .union name variants, h => by
    refine .bind (Read.discriminant_exact hE name variants.size) fun bs i hi => ?_
    obtain ⟨hs, hm, rfl⟩ := hi
    exact (variants.read_exact hE impls h hs).mono fun bs v hv => .union hv hm
  | .errors name kinds, _ => Read.errors_exact hE name kinds
  | .object cls, h => by
    refine .bind (Read.int_exact hE .u64) fun bs p hp => ?_
    obtain ⟨hh, rfl⟩ := hp
    obtain ⟨p, rfl⟩ := Int.eq_ofNat_of_zero_le (a := p) hh.1
    refine .pure ?_
    rw [List.append_nil]
    exact .object hh
  | .callback name methods registry, h => by
    refine .bind (Read.int_exact hE .u64) fun bs handle hp => ?_
    obtain ⟨hh, rfl⟩ := hp
    split
    · rename_i v hv
      refine .pure ?_
      rw [List.append_nil]
      exact .callback hh hv
    · rename_i f hf
      obtain h | ⟨hp, -⟩ := h
      · exact .throw (h.unknown registry _ f hf)
      · cases hp

/-- Fields are put behind those already read. -/
theorem Fields.read_exact (hE : ∀ e, e.IsMalformed → E e) (impls : Implementations) : (fs : Fields) →
    impls.Excuses E ∨ fs.isPlain ∧ fs.hasKeys → (sofar : List (String × Option Value)) →
    (fs.read impls sofar).Exact E fun bs fields => ∃ named, fs.Denote impls bs named ∧
      fields = named.foldl (fun fs f => Value.put f.1 (some f.2) fs) sofar
  | .nil, _, sofar => .pure ⟨[], .nil, rfl⟩
  | .cons name shape rest, h, sofar => by
    obtain ⟨hshape, hrest⟩ := both_of_and h
    refine .bind ((shape.read_exact hE impls hshape).orDrop _) fun bs v hv => ?_
    have hadd : (Read.addField name v sofar).Exact E fun cs fields =>
        cs = [] ∧ fields = Value.put name (some v) sofar :=
      .of_takes (Read.addField_takes name v sofar) ⟨rfl, rfl⟩
    refine .bind hadd fun cs fields hf => ?_
    obtain ⟨rfl, rfl⟩ := hf
    refine (rest.read_exact hE impls hrest _).mono ?_
    rintro cs _ ⟨named, hn, rfl⟩
    exact ⟨(name, v) :: named, .cons hv hn, rfl⟩

theorem Variants.read_exact (hE : ∀ e, e.IsMalformed → E e) (impls : Implementations) : (vs : Variants) →
    impls.Excuses E ∨ vs.isPlain ∧ vs.hasKeys → {i : Nat} → i < vs.size →
    (vs.read impls i).Exact E (vs.Denotes impls i)
  | .cons cls fields rest, h, 0, _ => by
    refine .bind (fields.read_exact hE impls (both_of_and h).1 []) fun bs fs hfs => ?_
    obtain ⟨named, hn, rfl⟩ := hfs
    refine .pure ?_
    rw [List.append_nil]
    exact .here hn
  | .cons cls fields rest, h, i + 1, hi =>
    (rest.read_exact hE impls (both_of_and h).2 (Nat.lt_of_succ_lt_succ hi)).mono fun bs v hv => .later hv

end

end ForeignBridge
