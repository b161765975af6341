import ForeignBridge.Proofs.Wire.Parts
import ForeignBridge.Proofs.Wire.Resend

/-!
Shapes of which every value has one encoding. Without floating-point numbers, times, maps and flags around
flags nothing in the bytes is lost when they are decoded, so that encoding gives them back.
-/

namespace ForeignBridge

mutual

/-- Whether a shape keeps to the parts of the format that leave no choice. -/
def Shape.Strict : Shape → Prop
  | .integer _ | .boolean | .text | .bytes => True
  | .optional inner => inner.isOptional = false ∧ inner.Strict
  | .sequence inner => inner.Strict
  | .record _ _ fields => fields.names.Nodup ∧ fields.Strict
  | .enumeration e => (e.members.map Prod.fst).Nodup
  | .union _ variants => variants.classes.Nodup ∧ variants.Strict
  | .errors _ kinds => kinds.Nodup
  | .float32 | .float64 | .timestamp | .duration | .map _ _ | .object _ | .callback .. => False

def Fields.Strict : Fields → Prop
  | .nil => True
  | .cons _ shape rest => shape.Strict ∧ rest.Strict

def Variants.Strict : Variants → Prop
  | .nil => True
  | .cons _ fields rest => fields.names.Nodup ∧ fields.Strict ∧ rest.Strict

end

mutual

theorem Shape.Strict.plain : (s : Shape) → s.Strict → s.isPlain ∧ s.hasKeys ∧ s.Distinct
  | .integer _, _ | .boolean, _ | .text, _ | .bytes, _ => ⟨rfl, rfl, trivial⟩
  | .optional inner, h => Shape.Strict.plain inner h.2
  | .sequence inner, h => Shape.Strict.plain inner h
  | .record _ _ fields, h => by
    obtain ⟨hp, hk, hd⟩ := Fields.Strict.plain fields h.2
    exact ⟨hp, hk, h.1, hd⟩
  | .enumeration _, h => ⟨rfl, rfl, h⟩
  | .union _ variants, h => by
    obtain ⟨hp, hk, hd⟩ := Variants.Strict.plain variants h.2
    exact ⟨hp, hk, h.1, hd⟩
  | .errors _ _, h => ⟨rfl, rfl, .inl h⟩

theorem Fields.Strict.plain : (fs : Fields) → fs.Strict → fs.isPlain ∧ fs.hasKeys ∧ fs.Distinct
  | .nil, _ => ⟨rfl, rfl, trivial⟩
  | .cons _ shape rest, h => by
    obtain ⟨hp, hk, hd⟩ := Shape.Strict.plain shape h.1
    obtain ⟨hps, hks, hds⟩ := Fields.Strict.plain rest h.2
    simp only [Fields.isPlain, Fields.hasKeys, Bool.and_eq_true]
    exact ⟨⟨hp, hps⟩, ⟨hk, hks⟩, hd, hds⟩

theorem Variants.Strict.plain : (vs : Variants) → vs.Strict → vs.isPlain ∧ vs.hasKeys ∧ vs.Distinct
  | .nil, _ => ⟨rfl, rfl, trivial⟩
  | .cons _ fields rest, h => by
    obtain ⟨hp, hk, hd⟩ := Fields.Strict.plain fields h.2.1
    obtain ⟨hps, hks, hds⟩ := Variants.Strict.plain rest h.2.2
    simp only [Variants.isPlain, Variants.hasKeys, Bool.and_eq_true]
    exact ⟨⟨hp, hps⟩, ⟨hk, hks⟩, h.1, hd, hds⟩

end

variable {impls : Implementations}

/-- Only an option means nothing. -/
theorem Shape.Strict.ne_null {s : Shape} (hs : s.Strict) (ho : s.isOptional = false) {bs : Bytes} {v : Value}
    (h : s.Denotes impls bs v) : v ≠ .null := by
  cases h with
  | absent | present => cases ho
  | union h =>
    obtain ⟨cls, named, -, rfl⟩ := h.class
    nofun
  | callback => exact hs.elim
  | _ => nofun

theorem Value.eq_null_of_same {v : Value} (h : v.same .null) : v = .null := by
  cases v with
  | null => rfl
  | _ => simp [same] at h

/-- The fields of a decoded record, in order. -/
theorem Fields.Denote.fieldsOf {fs : Fields} {bs : Bytes} {named : List (String × Value)} (hn : fs.names.Nodup)
    (h : fs.Denote impls bs named) : Value.fieldsOf named = named.map fun f => (f.1, some f.2) :=
  Value.foldl_put_of_nodup (by simpa using h.names ▸ hn)

namespace Shape

theorem DenoteAll.eq_of_same {inner : Shape}
    (hx : ∀ {bs cs v w}, inner.Denotes impls bs v → inner.Denotes impls cs w → v.same w → bs = cs)
    {bs cs : Bytes} {items others : List Value} (h : DenoteAll impls inner bs items)
    (h' : DenoteAll impls inner cs others) (he : Value.sameAll items others) :
    items.length = others.length ∧ bs = cs := by
  induction items generalizing bs cs others with
  | nil =>
    cases others with
    | nil =>
      cases h
      cases h'
      exact ⟨rfl, rfl⟩
    | cons => simp [Value.sameAll] at he
  | cons v rest ih =>
    cases others with
    | nil => simp [Value.sameAll] at he
    | cons w others =>
      rw [Value.sameAll, Bool.and_eq_true] at he
      cases h with
      | cons h hr =>
        cases h' with
        | cons h' hr' =>
          obtain ⟨hl, hb⟩ := ih hr hr' he.2
          exact ⟨congrArg Nat.succ hl, by rw [hx h h' he.1, hb]⟩

theorem DenoteAll.same_self {inner : Shape} (hx : ∀ {bs v}, inner.Denotes impls bs v → v.same v) {bs : Bytes}
    {items : List Value} (h : DenoteAll impls inner bs items) : Value.sameAll items items := by
  induction items generalizing bs with
  | nil => simp [Value.sameAll]
  | cons v rest ih =>
    cases h with
    | cons h hr => rw [Value.sameAll, hx h, ih hr, Bool.and_self]

end Shape

theorem Value.sameFields_cons {f g : String × Value} {named others : List (String × Value)} :
    sameFields ((f :: named).map fun f => (f.1, some f.2)) ((g :: others).map fun f => (f.1, some f.2)) =
      (f.1 == g.1 && f.2.same g.2 &&
        sameFields (named.map fun f => (f.1, some f.2)) (others.map fun f => (f.1, some f.2))) := by
  rw [List.map_cons, List.map_cons, sameFields]

mutual

/-- Equal values of a strict shape come from the same bytes. -/
theorem Shape.Denotes.eq_of_same : (s : Shape) → s.Strict → {bs cs : Bytes} → {v w : Value} →
    s.Denotes impls bs v → s.Denotes impls cs w → v.same w → bs = cs
  | .integer _, _, _, _, _, _, h, h', he => by
    cases h
    cases h'
    rw [Value.same, beq_iff_eq] at he
    rw [he]
  | .boolean, _, _, _, _, _, h, h', he => by
    cases h <;> cases h' <;> simp [Value.same] at he ⊢
  | .text, _, _, _, _, _, h, h', he => by
    cases h
    cases h'
    rw [Value.same, beq_iff_eq] at he
    rw [he]
  | .bytes, _, _, _, _, _, h, h', he => by
    cases h
    cases h'
    rw [Value.same, beq_iff_eq] at he
    rw [he]
  | .optional inner, hs, _, _, _, w, h, h', he => by
    cases h with
    | absent =>
      cases h' with
      | absent => rfl
      | present h' =>
        have hw := Shape.Strict.ne_null hs.2 hs.1 h'
        cases w with
        | null => exact absurd rfl hw
        | _ => simp [Value.same] at he
    | present h =>
      cases h' with
      | absent => exact absurd (Value.eq_null_of_same he) (Shape.Strict.ne_null hs.2 hs.1 h)
      | present h' => rw [Shape.Denotes.eq_of_same inner hs.2 h h' he]
  | .sequence inner, hs, _, _, _, _, h, h', he => by
    cases h with
    | sequence h =>
      cases h' with
      | sequence h' =>
        rw [Value.same] at he
        obtain ⟨hl, hb⟩ := h.eq_of_same (Shape.Denotes.eq_of_same inner hs) h' he
        rw [hl, hb]
  | .record _ _ fields, hs, _, _, _, _, h, h', he => by
    cases h with
    | record h =>
      cases h' with
      | record h' =>
        rw [Value.same, beq_self_eq_true, Bool.true_and, h.fieldsOf hs.1, h'.fieldsOf hs.1] at he
        exact Fields.Denote.eq_of_same fields hs.2 h h' he
  | .enumeration e, hs, _, _, _, _, h, h', he => by
    cases h with
    | enumeration h =>
      cases h' with
      | enumeration h' =>
        rw [Value.same, beq_self_eq_true, Bool.true_and, beq_iff_eq] at he
        subst he
        have hi := EnumType.index?_of_nodup hs h
        rw [EnumType.index?_of_nodup hs h'] at hi
        cases hi
        rfl
  | .union _ variants, hs, _, _, _, _, h, h', he => by
    cases h with
    | union h =>
      cases h' with
      | union h' =>
        obtain ⟨cls, named, hcls, rfl⟩ := h.class
        obtain ⟨cls', named', hcls', rfl⟩ := h'.class
        rw [Value.same, Bool.and_eq_true, beq_iff_eq] at he
        obtain ⟨rfl, he⟩ := he
        obtain rfl := position_unique hs.1 hcls hcls'
        rw [Variants.Denotes.eq_of_same variants hs.2 h h' (by rw [Value.same, beq_self_eq_true, he, Bool.and_self])]
  | .errors _ kinds, hs, _, _, _, _, h, h', he => by
    cases h with
    | errors h _ hm =>
      cases h' with
      | errors h' _ hm' =>
        rw [Value.same, Bool.and_eq_true, beq_iff_eq] at he
        obtain ⟨rfl, he⟩ := he
        obtain rfl := position_unique hs h h'
        cases hm
        cases hm'
        rw [Value.same, beq_iff_eq] at he
        rw [he]

theorem Fields.Denote.eq_of_same : (fs : Fields) → fs.Strict → {bs cs : Bytes} → {named others : List (String × Value)} →
    fs.Denote impls bs named → fs.Denote impls cs others →
    Value.sameFields (named.map fun f => (f.1, some f.2)) (others.map fun f => (f.1, some f.2)) → bs = cs
  | .nil, _, _, _, _, _, h, h', _ => by
    cases h
    cases h'
    rfl
  | .cons _ shape rest, hs, _, _, _, _, h, h', he => by
    cases h with
    | cons h hr =>
      cases h' with
      | cons h' hr' =>
        rw [Value.sameFields_cons, Bool.and_eq_true, Bool.and_eq_true] at he
        rw [Shape.Denotes.eq_of_same shape hs.1 h h' he.1.2, Fields.Denote.eq_of_same rest hs.2 hr hr' he.2]

theorem Variants.Denotes.eq_of_same : (vs : Variants) → vs.Strict → {i : Nat} → {bs cs : Bytes} → {v w : Value} →
    vs.Denotes impls i bs v → vs.Denotes impls i cs w → v.same w → bs = cs
  | .cons _ fields rest, hs, _, _, _, _, _, h, h', he => by
    cases h with
    | here h =>
      cases h' with
      | here h' =>
        rw [Value.same, beq_self_eq_true, Bool.true_and, h.fieldsOf hs.1, h'.fieldsOf hs.1] at he
        exact Fields.Denote.eq_of_same fields hs.2.1 h h' he
    | later h =>
      cases h' with
      | later h' => exact Variants.Denotes.eq_of_same rest hs.2.2 h h' he

end

mutual

/-- No value of a strict shape differs from itself. -/
theorem Shape.Denotes.same_self : (s : Shape) → s.Strict → {bs : Bytes} → {v : Value} → s.Denotes impls bs v → v.same v
  | .integer _, _, _, _, h | .boolean, _, _, _, h | .text, _, _, _, h | .bytes, _, _, _, h
  | .enumeration _, _, _, _, h => by
    cases h <;> simp [Value.same]
  | .optional inner, hs, _, _, h => by
    cases h with
    | absent => simp [Value.same]
    | present h => exact Shape.Denotes.same_self inner hs.2 h
  | .sequence inner, hs, _, _, h => by
    cases h with
    | sequence h =>
      rw [Value.same]
      exact h.same_self (Shape.Denotes.same_self inner hs)
  | .record _ _ fields, hs, _, _, h => by
    cases h with
    | record h =>
      rw [Value.same, beq_self_eq_true, h.fieldsOf hs.1]
      exact Fields.Denote.same_self fields hs.2 h
  | .union _ variants, hs, _, _, h => by
    cases h with
    | union h => exact Variants.Denotes.same_self variants hs.2 h
  | .errors _ _, _, _, _, h => by
    cases h with
    | errors _ _ hm =>
      cases hm
      simp [Value.same]

theorem Fields.Denote.same_self : (fs : Fields) → fs.Strict → {bs : Bytes} → {named : List (String × Value)} →
    fs.Denote impls bs named →
    Value.sameFields (named.map fun f => (f.1, some f.2)) (named.map fun f => (f.1, some f.2))
  | .nil, _, _, _, h => by
    cases h
    simp [Value.sameFields]
  | .cons _ shape rest, hs, _, _, h => by
    cases h with
    | cons h hr =>
      rw [Value.sameFields_cons, Shape.Denotes.same_self shape hs.1 h, Fields.Denote.same_self rest hs.2 hr,
        beq_self_eq_true, Bool.and_self, Bool.and_self]

theorem Variants.Denotes.same_self : (vs : Variants) → vs.Strict → {i : Nat} → {bs : Bytes} → {v : Value} →
    vs.Denotes impls i bs v → v.same v
  | .cons _ fields rest, hs, _, _, _, h => by
    cases h with
    | here h =>
      rw [Value.same, beq_self_eq_true, h.fieldsOf hs.1]
      exact Fields.Denote.same_self fields hs.2.1 h
    | later h => exact Variants.Denotes.same_self rest hs.2.2 h

end

namespace Shape

/-- Bytes that are decoded in a strict shape are the encoding of what they are decoded to, and only they are decoded
to anything equal to it. -/
theorem encode_decoded {s : Shape} (hs : s.Strict) {data : Bytes} {v : Value} (h : s.decode data = .ok v) :
    s.encode v = .ok data ∧
      ∀ other w, s.decode other = .ok w → (v.same w = true ↔ other = data) := by
  obtain ⟨hp, hk, hd⟩ := Strict.plain s hs
  have hden := (takes_of_decode h).2
  constructor
  · obtain ⟨hc, bs, hw, hbs⟩ := Denotes.sends s hp hd hden
    have hsame := Denotes.eq_of_same s hs hden hbs (Denotes.same_self s hs hden)
    subst hsame
    simp only [encode, hc, bind, Except.bind, hw.1, hw.2]
  · intro other w hw
    constructor
    · intro he
      exact (Denotes.eq_of_same s hs hden (takes_of_decode hw).2 he).symm
    · rintro rfl
      rw [h] at hw
      cases hw
      exact Denotes.same_self s hs hden

/-- The shape of an entry of a log: what happened, and to which names. -/
def logEntry : Shape :=
  .union "Entry" (.cons "Note" (.cons "text" .text .nil)
    (.cons "Change" (.cons "count" (.integer .uint16) (.cons "names" (.sequence (.optional .text)) .nil)) .nil))

/-- A change of 3 to one name, and another that is not known. -/
def change : Bytes := [0, 0, 0, 2, 0, 3, 0, 0, 0, 2, 1, 0, 0, 0, 1, 97, 0]

theorem encode_decoded_change : logEntry.Strict ∧ ∃ v, logEntry.decode change = .ok v ∧ logEntry.encode v = .ok change := by
  have hs : logEntry.Strict := by
    simp [logEntry, Strict, Variants.Strict, Fields.Strict, Fields.names, Variants.classes, Fields.toList,
      Variants.toList, isOptional]
  have h : logEntry.decode change = .ok (.record "Change" []
      [("count", some (.int 3)), ("names", some (.list [.text "a", .null]))]) := by
    with_unfolding_all rfl
  exact ⟨hs, _, h, (encode_decoded hs h).1⟩

end Shape

end ForeignBridge
