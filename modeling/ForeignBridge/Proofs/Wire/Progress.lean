import ForeignBridge.Proofs.Wire.Reader

/-!
How readings move a reader. No reading of a shape moves one backwards or past the end of its bytes, whatever state
the reader is in and whether or not it succeeds; where it succeeds, the least width of the shape bounds how far the
reader moved.
-/

namespace ForeignBridge

namespace Reader

/-- One reader became another over the same bytes, so many of them further on at least, and no further than to the
end. -/
structure Onward (r : Reader) (n : Nat) (r' : Reader) : Prop where
  source : r'.source = r.source
  released : r'.released = r.released
  moved : r.position + n ≤ r'.position
  -- a reader past the end stays where it is, so the end bounds all others
  inside : r'.position ≤ max r.position r.size

namespace Onward

variable {r r' r'' : Reader} {m n : Nat}

theorem refl (r : Reader) : r.Onward 0 r :=
  ⟨rfl, rfl, by omega, le_max_left _ _⟩

theorem size (h : r.Onward n r') : r'.size = r.size :=
  congrArg Array.size h.source

theorem trans (h : r.Onward m r') (h' : r'.Onward n r'') : r.Onward (m + n) r'' := by
  have hm := h.moved
  have hm' := h'.moved
  have hi := h.inside
  have hi' := h'.inside
  rw [h.size] at hi'
  constructor
  · exact h'.source.trans h.source
  · exact h'.released.trans h.released
  · omega
  · omega

theorem weaken (h : r.Onward n r') (hm : m ≤ n) : r.Onward m r' := by
  have := h.moved
  exact ⟨h.source, h.released, by omega, h.inside⟩

/-- Where a reader moved at all it is inside its bytes. -/
theorem within (h : r.Onward n r') (hn : 0 < n) : r'.position ≤ r'.size := by
  have hm := h.moved
  have hi := h.inside
  rw [h.size]
  omega

/-- What a reader moved over was left before. -/
theorem le_remaining (h : r.Onward n r') (hr : r.position ≤ r.size) : (n : Int) ≤ r.remaining := by
  have hm := h.moved
  have hi := h.inside
  unfold remaining
  omega

end Onward

/-- What came of a reading moved the reader onward, by so many bytes at least if it succeeded. -/
def Reaches {α : Type} (r : Reader) (n : Nat) : EStateM.Result Failure Reader α → Prop
  | .ok _ r' => r.Onward n r'
  | .error _ r' => r.Onward 0 r'

theorem Onward.reaches {α : Type} {r r' : Reader} {m n : Nat} {x : EStateM.Result Failure Reader α}
    (h : r.Onward m r') (hx : r'.Reaches n x) : r.Reaches (m + n) x := by
  cases x with
  | ok a r'' => exact h.trans hx
  | error e r'' => exact (h.trans hx).weaken (Nat.zero_le m)

end Reader

namespace Reading

variable {α β : Type}

/-- A reading moves every reader onward, by so many bytes at least if it succeeds. -/
def Advances (x : Reading α) (n : Nat) : Prop := ∀ r : Reader, r.Reaches n (x r)

namespace Advances

variable {x : Reading α} {f : α → Reading β} {m n : Nat} {r r' : Reader} {a : α}

theorem ok (hx : x.Advances n) (h : x r = .ok a r') : r.Onward n r' := by
  have hr := hx r
  rwa [h] at hr

theorem weaken (hx : x.Advances n) (hm : m ≤ n) : x.Advances m := by
  intro r
  have hr := hx r
  cases hxr : x r with
  | ok a r' =>
    rw [hxr] at hr
    exact hr.weaken hm
  | error e r' =>
    rw [hxr] at hr
    exact hr

theorem pure (a : α) : (Pure.pure a : Reading α).Advances 0 :=
  fun r => .refl r

theorem throw (e : Failure) : (MonadExcept.throw e : Reading α).Advances n :=
  fun r => .refl r

theorem bind (hx : x.Advances m) (hf : ∀ a, (f a).Advances n) : (x >>= f).Advances (m + n) := by
  intro r
  have hr := hx r
  cases hxr : x r with
  | ok a r' =>
    rw [hxr] at hr
    rw [bind_of_ok hxr]
    exact hr.reaches (hf a r')
  | error e r' =>
    rw [hxr] at hr
    rw [bind_of_error hxr]
    exact hr

/-- What follows a reading may fail, or give something without reading on. -/
theorem finish (hx : x.Advances n) (hf : ∀ a, (f a).Advances 0) : (x >>= f).Advances n :=
  hx.bind hf

theorem map (g : α → β) (hx : x.Advances n) : (g <$> x).Advances n :=
  hx.finish fun a => .pure (g a)

theorem drop (pointers : List Nat) : (Reading.drop pointers).Advances 0 :=
  fun r => ⟨rfl, rfl, Int.le_of_eq (Int.add_zero r.position), le_max_left _ _⟩

theorem orDrop (held : Unit → List Nat) (hx : x.Advances n) : (x.orDrop held).Advances n := by
  intro r
  have hr := hx r
  rw [Reading.orDrop]
  cases hxr : x r with
  | ok a r' =>
    rw [hxr] at hr
    exact hr
  | error e r' =>
    rw [hxr] at hr
    exact ⟨hr.source, hr.released, hr.moved, hr.inside⟩

theorem remaining : Reading.remaining.Advances 0 := by
  intro r
  rw [Reading.remaining]
  split
  · exact .refl r
  · exact .refl r

theorem take (n : Nat) : (Reading.take n).Advances n := by
  intro r
  rw [Reading.take]
  split
  · exact .refl r
  split
  · exact .refl r
  · rename_i hl
    unfold Reader.remaining at hl
    exact ⟨rfl, rfl, le_refl _, by dsimp only; omega⟩

theorem takeScalar (l : Layout) : (Reading.takeScalar l).Advances l.size := by
  intro r
  rw [Reading.takeScalar]
  split
  · exact .refl r
  split
  · exact .refl r
  · rename_i hl
    unfold Reader.remaining at hl
    extract_lets start
    split
    · exact .refl r
    · exact ⟨rfl, rfl, le_refl _, by dsimp only; omega⟩

theorem int (l : Layout) : (Reading.int l).Advances l.size :=
  (takeScalar l).map _

theorem scalar (l : Layout) : (Reading.scalar l).Advances l.size :=
  (takeScalar l).map _

end Advances

end Reading

open Reading

namespace Read

variable {impls : Implementations}

/-! ### Leaves -/

theorem length_advances (typeName : String) : (length typeName).Advances 4 := by
  apply (Advances.int .i32).finish
  intro n
  split
  · exact .throw _
  · exact .pure _

theorem discriminant_advances (typeName : String) (count : Nat) : (discriminant typeName count).Advances 4 := by
  apply (Advances.int .i32).finish
  intro d
  split
  · exact .pure _
  · exact .throw _

theorem boolean_advances : boolean.Advances 1 := by
  apply (Advances.int .i8).finish
  intro b
  split
  · exact .pure _
  split
  · exact .pure _
  · exact .throw _

theorem text_advances : text.Advances 4 := by
  apply (length_advances "String").finish
  intro n
  refine ((Advances.take n).weaken (Nat.zero_le n)).finish fun raw => ?_
  split
  · exact .pure _
  · exact .throw _

theorem bytes_advances : bytes.Advances 4 := by
  apply (length_advances "Bytes").finish
  intro n
  exact ((Advances.take n).weaken (Nat.zero_le n)).finish fun raw => .pure _

theorem nanos_advances (typeName : String) : (nanos typeName).Advances 4 := by
  apply (Advances.int .u32).finish
  intro i
  extract_lets n
  split
  · exact .throw _
  · exact .pure _

theorem timestamp_advances : timestamp.Advances 12 := by
  apply Advances.bind (m := 8) (n := 4) (Advances.int .i64)
  intro seconds
  apply (nanos_advances "Timestamp").finish
  intro n
  split
  · exact .pure _
  · exact .throw _

theorem duration_advances : duration.Advances 12 := by
  apply Advances.bind (m := 8) (n := 4) (Advances.int .u64)
  intro seconds
  apply (nanos_advances "Duration").finish
  intro n
  extract_lets s
  split
  · exact .pure _
  · exact .throw _

theorem enumeration_advances (e : EnumType) : (enumeration e).Advances 4 := by
  apply (discriminant_advances e.name e.members.length).finish
  intro i
  split
  · exact .pure _
  · exact .throw _

theorem errors_advances (name : String) (kinds : List String) : (errors name kinds).Advances 4 := by
  apply (discriminant_advances name kinds.length).finish
  intro i
  split
  · exact (text_advances.weaken (Nat.zero_le 4)).finish fun message => .pure _
  · exact .throw _

/-! ### Composites -/

theorem checkCount_advances (count width : Nat) (typeName : String) : (checkCount count width typeName).Advances 0 := by
  unfold checkCount
  split
  · apply (Advances.pure 0).finish
    intro left
    dsimp only
    split
    · exact .throw _
    · exact .pure _
  · apply Advances.remaining.finish
    intro left
    dsimp only
    split
    · exact .throw _
    · exact .pure _

theorem elements_advances {element : Reading Value} {width : Nat} (hx : element.Advances width) (count : Nat)
    (sofar : List Value) : (elements element count sofar).Advances (count * width) := by
  induction count generalizing sofar with
  | zero =>
    rw [Nat.zero_mul]
    exact .pure _
  | succ n ih =>
    rw [Nat.succ_mul, Nat.add_comm (n * width)]
    exact (hx.orDrop _).bind fun v => ih (v :: sofar)

theorem addEntry_advances (k v : Value) (sofar : List (Value × Value)) : (addEntry k v sofar).Advances 0 := by
  unfold addEntry
  split
  · exact (Advances.drop _).finish fun _ => .throw _
  · split
    · exact (Advances.drop _).finish fun _ => .pure _
    · exact .pure _

theorem entries_advances {key value : Reading Value} {m n : Nat} (hk : key.Advances m) (hv : value.Advances n)
    (count : Nat) (sofar : List (Value × Value)) : (entries key value count sofar).Advances (count * (m + n)) := by
  induction count generalizing sofar with
  | zero =>
    rw [Nat.zero_mul]
    exact .pure _
  | succ c ih =>
    rw [Nat.succ_mul, Nat.add_comm (c * (m + n)), Nat.add_assoc]
    apply (hk.orDrop _).bind
    intro k
    apply (hv.orDrop _).bind
    intro v
    rw [← Nat.zero_add (c * (m + n))]
    exact (addEntry_advances k v sofar).bind ih

theorem addField_advances (name : String) (v : Value) (sofar : List (String × Option Value)) :
    (addField name v sofar).Advances 0 := by
  unfold addField
  split
  · exact (Advances.drop _).finish fun _ => .pure _
  · exact .pure _

end Read

mutual

/-- Reading a shape moves any reader onward, and over at least the least width of the shape if it succeeds. -/
theorem Shape.read_advances (impls : Implementations) : (s : Shape) → (s.read impls).Advances s.minWidth
  | .integer k => .scalar k.layout
  | .float32 => .scalar .f32
  | .float64 => .scalar .f64
  | .boolean => Read.boolean_advances
  | .text => Read.text_advances
  | .bytes => Read.bytes_advances
  | .timestamp => Read.timestamp_advances
  | .duration => Read.duration_advances
  | .optional inner => by
    apply (Advances.int .u8).finish
    intro flag
    split
    · exact .pure _
    split
    · exact (inner.read_advances impls).weaken (Nat.zero_le _)
    · exact .throw _
  | .sequence inner => by
    apply (Read.length_advances _).finish
    intro count
    apply (Read.checkCount_advances count inner.minWidth _).finish
    intro _
    apply Advances.finish
    · exact (Read.elements_advances (inner.read_advances impls) count []).weaken (Nat.zero_le _)
    · exact fun items => .pure _
  | .map key value => by
    apply (Read.length_advances _).finish
    intro count
    apply (Read.checkCount_advances count (key.minWidth + value.minWidth) _).finish
    intro _
    apply Advances.finish
    · exact (Read.entries_advances (key.read_advances impls) (value.read_advances impls) count []).weaken
        (Nat.zero_le _)
    · exact fun pairs => .pure _
  | .record _ _ fields => (fields.read_advances impls []).finish fun _ => .pure _
  | .enumeration e => Read.enumeration_advances e
  | .union name variants => (Read.discriminant_advances name variants.size).finish (variants.read_advances impls)
  | .errors name kinds => Read.errors_advances name kinds
  | .object _ => (Advances.int .u64).finish fun p => .pure _
  | .callback _ _ registry => by
    apply (Advances.int .u64).finish
    intro handle
    split
    · exact .pure _
    · exact .throw _

theorem Fields.read_advances (impls : Implementations) :
    (fs : Fields) → (sofar : List (String × Option Value)) → (fs.read impls sofar).Advances fs.minWidth
  | .nil, _ => .pure _
  | .cons name shape rest, sofar => by
    apply ((shape.read_advances impls).orDrop _).bind
    intro v
    rw [← Nat.zero_add rest.minWidth]
    exact (Read.addField_advances name v sofar).bind (rest.read_advances impls)

theorem Variants.read_advances (impls : Implementations) :
    (vs : Variants) → (i : Nat) → (vs.read impls i).Advances 0
  | .nil, _ => .pure _
  | .cons _ fields _, 0 => ((fields.read_advances impls []).weaken (Nat.zero_le _)).finish fun _ => .pure _
  | .cons _ _ rest, i + 1 => rest.read_advances impls i

end

end ForeignBridge
