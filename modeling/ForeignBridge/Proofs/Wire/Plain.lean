import ForeignBridge.Exchange.Send
import ForeignBridge.Proofs.Frame

/-!
Plain shapes hold no handle. Reading in one of them needs no implementations, and sending a value in one
of them is encoding it: the world stays as it is.
-/

namespace ForeignBridge

mutual

theorem Shape.read_plain (impls impls' : Implementations) : (s : Shape) → s.isPlain → s.read impls = s.read impls'
  | .integer _, _ | .float32, _ | .float64, _ | .boolean, _ | .text, _ | .bytes, _ | .timestamp, _
  | .duration, _ | .enumeration _, _ | .errors _ _, _ => rfl
  | .optional inner, h => by
    simp only [Shape.read, inner.read_plain impls impls' h]
  | .sequence inner, h => by
    simp only [Shape.read, inner.read_plain impls impls' h]
  | .map key value, h => by
    simp only [Shape.isPlain, Bool.and_eq_true] at h
    simp only [Shape.read, key.read_plain impls impls' h.1, value.read_plain impls impls' h.2]
  | .record _ _ fields, h => by
    simp only [Shape.read, fields.read_plain impls impls' h]
  | .union _ variants, h => by
    simp only [Shape.read, variants.read_plain impls impls' h]

theorem Fields.read_plain (impls impls' : Implementations) :
    (fs : Fields) → fs.isPlain → fs.read impls = fs.read impls'
  | .nil, _ => rfl
  | .cons name shape rest, h => by
    simp only [Fields.isPlain, Bool.and_eq_true] at h
    funext sofar
    simp only [Fields.read, shape.read_plain impls impls' h.1, rest.read_plain impls impls' h.2]

theorem Variants.read_plain (impls impls' : Implementations) :
    (vs : Variants) → vs.isPlain → vs.read impls = vs.read impls'
  | .nil, _ => rfl
  | .cons cls fields rest, h => by
    simp only [Variants.isPlain, Bool.and_eq_true] at h
    funext i
    cases i with
    | zero => simp only [Variants.read, fields.read_plain impls impls' h.1]
    | succ i => simp only [Variants.read, rest.read_plain impls impls' h.2]

end

theorem Shape.readAll_plain {s : Shape} (h : s.isPlain) (impls impls' : Implementations) :
    s.readAll impls = s.readAll impls' := by
  rw [readAll, readAll, s.read_plain impls impls' h]

/-- A script of bytes only. -/
def Script.IsRaw (s : Script) : Prop := ∀ p ∈ s.pieces, ∃ data, p = .raw data

namespace Script.IsRaw

variable {a b : Script}

theorem fail (f : Failure) : (Script.fail f).IsRaw := nofun

theorem empty : Script.empty.IsRaw := nofun

theorem raw (data : Bytes) : (Script.raw data).IsRaw := by
  intro p hp
  cases List.mem_singleton.mp hp
  exact ⟨data, rfl⟩

theorem ofExcept (r : Except Failure Bytes) : (Script.ofExcept r).IsRaw := by
  cases r with
  | ok data => exact raw data
  | error f => exact fail f

theorem append (ha : a.IsRaw) (hb : b.IsRaw) : (a ++ b).IsRaw := by
  change (a.andThen b).IsRaw
  unfold andThen
  split
  · exact ha
  · intro p hp
    exact (List.mem_append.mp hp).elim (ha p) (hb p)

theorem all {scripts : List Script} (h : ∀ s ∈ scripts, s.IsRaw) : (Script.all scripts).IsRaw := by
  induction scripts with
  | nil => exact empty
  | cons s rest ih => exact append (h s (by simp)) (ih fun t ht => h t (by simp [ht]))

end Script.IsRaw

open Script

theorem countBytes_isRaw (n : Nat) : (countBytes n).IsRaw := .ofExcept _

theorem discriminantBytes_isRaw (i : Nat) : (discriminantBytes i).IsRaw := .ofExcept _

namespace Write

theorem encodedText_isRaw (encoded : Bytes) : (encodedText encoded).IsRaw :=
  ((IsRaw.ofExcept _).append (countBytes_isRaw _)).append (.raw _)

theorem text_isRaw (v : Value) : (text v).IsRaw := by
  unfold text
  split
  · exact encodedText_isRaw _
  · split
    · exact .fail _
    · exact encodedText_isRaw _
  · exact .fail _

theorem bytes_isRaw (v : Value) : (bytes v).IsRaw := by
  unfold bytes
  split
  · exact .fail _
  · refine (countBytes_isRaw _).append ?_
    split
    · exact .raw _
    · exact .fail _

theorem timestamp_isRaw (v : Value) : (timestamp v).IsRaw := by
  unfold timestamp
  split
  · split
    · exact (IsRaw.ofExcept _).append (.ofExcept _)
    · exact .fail _
  · exact .fail _

theorem duration_isRaw (v : Value) : (duration v).IsRaw := by
  unfold duration
  split
  · exact (IsRaw.ofExcept _).append (.ofExcept _)
  · exact .fail _

theorem enumeration_isRaw (e : EnumType) (v : Value) : (enumeration e v).IsRaw := by
  unfold enumeration
  lift_lets
  intro known
  split
  · exact discriminantBytes_isRaw _
  · exact .fail _
  · exact .fail _

theorem errors_isRaw (kinds : List String) (v : Value) : (errors kinds v).IsRaw := by
  unfold errors
  split
  · split
    · exact (discriminantBytes_isRaw _).append (text_isRaw _)
    · exact .fail _
  · exact .fail _

end Write

mutual

theorem Shape.write_isRaw : (s : Shape) → s.isPlain → (v : Value) → (s.write v).IsRaw
  | .integer _, _, _ | .float32, _, _ | .float64, _, _ | .boolean, _, _ => .ofExcept _
  | .text, _, v => Write.text_isRaw v
  | .bytes, _, v => Write.bytes_isRaw v
  | .timestamp, _, v => Write.timestamp_isRaw v
  | .duration, _, v => Write.duration_isRaw v
  | .optional inner, h, v => by
    unfold Shape.write
    split
    · exact .raw _
    · exact (IsRaw.raw _).append (inner.write_isRaw h _)
  | .sequence inner, h, v => by
    unfold Shape.write
    split
    · exact .fail _
    · refine (countBytes_isRaw _).append (.all fun s hs => ?_)
      obtain ⟨a, -, rfl⟩ := List.mem_map.mp hs
      exact inner.write_isRaw h a
  | .map key value, h, v => by
    simp only [Shape.isPlain, Bool.and_eq_true] at h
    unfold Shape.write
    split
    · exact .fail _
    · refine (countBytes_isRaw _).append ?_
      split
      · refine .all fun s hs => ?_
        obtain ⟨e, -, rfl⟩ := List.mem_map.mp hs
        exact (key.write_isRaw h.1 e.1).append (value.write_isRaw h.2 e.2)
      · exact .fail _
  | .record _ _ fields, h, v => fields.write_isRaw h v
  | .enumeration e, _, v => Write.enumeration_isRaw e v
  | .union _ variants, h, v => by
    unfold Shape.write
    split
    · split
      · exact (discriminantBytes_isRaw _).append (variants.write_isRaw h _ _)
      · exact .fail _
    · exact .fail _
  | .errors _ kinds, _, v => Write.errors_isRaw kinds v

theorem Fields.write_isRaw : (fs : Fields) → fs.isPlain → (v : Value) → (fs.write v).IsRaw
  | .nil, _, _ => .empty
  | .cons name shape rest, h, v => by
    simp only [Fields.isPlain, Bool.and_eq_true] at h
    unfold Fields.write
    split
    · exact .fail _
    · exact (shape.write_isRaw h.1 _).append (rest.write_isRaw h.2 v)

theorem Variants.write_isRaw : (vs : Variants) → vs.isPlain → (i : Nat) → (v : Value) → (vs.write i v).IsRaw
  | .nil, _, _, _ => .empty
  | .cons _ fields _, h, 0, v => by
    simp only [Variants.isPlain, Bool.and_eq_true] at h
    exact fields.write_isRaw h.1 v
  | .cons _ _ rest, h, i + 1, v => by
    simp only [Variants.isPlain, Bool.and_eq_true] at h
    exact rest.write_isRaw h.2 i v

end

theorem runPieces_raw (types : ObjectTypes) {pieces : List Piece} (h : ∀ p ∈ pieces, ∃ data, p = .raw data)
    (w : World) : runPieces types pieces w = .ok (Script.mk pieces none).leadingBytes w := by
  induction pieces with
  | nil => rfl
  | cons p rest ih =>
    obtain ⟨data, rfl⟩ := h p (by simp)
    have hr := ih fun q hq => h q (by simp [hq])
    refine (Act.bind_of_ok (v := w) rfl).trans ((Act.bind_of_ok hr).trans ?_)
    rfl

theorem Script.IsRaw.run {s : Script} (h : s.IsRaw) (types : ObjectTypes) (w : World) :
    s.run types w = match s.failure with
      | some f => .error f w
      | none => .ok s.leadingBytes w := by
  refine (Act.bind_of_ok (runPieces_raw types h w)).trans ?_
  cases s.failure <;> rfl

/-- Sending in a plain shape is encoding. -/
theorem Shape.send_plain {s : Shape} (h : s.isPlain) (types : ObjectTypes) (v : Value) (w : World) :
    s.send types v w = match s.encode v with
      | .ok data => .ok data w
      | .error f => .error f w := by
  unfold encode
  cases hc : s.check v with
  | error f =>
    refine Act.bind_of_error ?_
    rw [hc]
    rfl
  | ok u =>
    refine (Act.bind_of_ok (a := u) (v := w) ?_).trans ?_
    · rw [hc]
      rfl
    · rw [(s.write_isRaw h v).run]
      dsimp only [bind, Except.bind]
      cases (s.write v).failure <;> rfl

end ForeignBridge
