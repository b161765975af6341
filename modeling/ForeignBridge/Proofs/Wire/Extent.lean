import ForeignBridge.Exchange.Send
import ForeignBridge.Proofs.Frame
import ForeignBridge.Proofs.Wire.Width
import ForeignBridge.Proofs.Wire.Writes

/-!
How long an encoding can be. The limits on lengths and counts bound what is written of a value: every shape has a
greatest width, and whatever is sent in it takes at most so many bytes.
-/

namespace ForeignBridge

mutual

/-- The most bytes that a value of a shape takes where all its lengths and counts are as great as they may be. -/
def Shape.greatestWidth : Shape → Nat
  | .integer k => k.layout.size
  | .float32 => 4
  | .float64 => 8
  | .boolean => 1
  | .text | .bytes => 4 + maxLength
  | .timestamp | .duration => 12
  | .optional inner => 1 + inner.greatestWidth
  | .sequence inner => 4 + maxLength * inner.greatestWidth
  | .map key value => 4 + maxLength * (key.greatestWidth + value.greatestWidth)
  | .record _ _ fields => fields.greatestWidth
  | .enumeration _ => 4
  | .union _ variants => 4 + variants.greatestWidth
  | .errors _ _ => 4 + (4 + maxLength)
  | .object _ | .callback _ _ _ => 8

def Fields.greatestWidth : Fields → Nat
  | .nil => 0
  | .cons _ shape rest => shape.greatestWidth + rest.greatestWidth

def Variants.greatestWidth : Variants → Nat
  | .nil => 0
  | .cons _ fields rest => max fields.greatestWidth rest.greatestWidth

end

/-- The bytes that a piece comes to; a handle is a word of 64 bits. -/
def Piece.width : Piece → Nat
  | .raw data => data.length
  | .object _ | .callback _ _ => 8

namespace Script

variable {a b : Script} {m n : Nat}

def width (s : Script) : Nat := (s.pieces.map Piece.width).sum

theorem width_raw (data : Bytes) : (raw data).width = data.length := rfl

theorem width_append (h : a.failure = none) : (a ++ b).width = a.width + b.width := by
  change (a.andThen b).width = _
  rw [andThen, h]
  simp [width]

/-- A script that takes at most so many bytes, unless it fails. -/
def AtMost (s : Script) (n : Nat) : Prop := s.failure = none → s.width ≤ n

namespace AtMost

theorem empty (n : Nat) : Script.empty.AtMost n := fun _ => Nat.zero_le n

theorem fail (f : Failure) (n : Nat) : (Script.fail f).AtMost n := nofun

theorem mono (h : a.AtMost m) (hm : m ≤ n) : a.AtMost n := fun hf => (h hf).trans hm

theorem raw (data : Bytes) : (Script.raw data).AtMost data.length := fun _ => le_refl _

theorem append (ha : a.AtMost m) (hb : b.AtMost n) : (a ++ b).AtMost (m + n) := by
  intro h
  obtain ⟨hfa, hfb⟩ := append_ok h
  rw [width_append hfa]
  exact Nat.add_le_add (ha hfa) (hb hfb)

theorem ofExcept {r : Except Failure Bytes} (h : ∀ bs, r = .ok bs → bs.length = n) :
    (Script.ofExcept r).AtMost n := by
  cases r with
  | error f => exact fail f n
  | ok bs => exact (raw bs).mono (h bs rfl).le

theorem packInt (l : Layout) (i : Int) : (Script.ofExcept (l.packInt i)).AtMost l.size :=
  .ofExcept fun _ h => (Layout.packInt_eq_ok h).1

theorem all {scripts : List Script} (h : ∀ s ∈ scripts, s.AtMost n) :
    (Script.all scripts).AtMost (scripts.length * n) := by
  induction scripts with
  | nil => exact empty _
  | cons s rest ih =>
    have hs := h s (by simp)
    have hr := ih fun t ht => h t (by simp [ht])
    exact (hs.append hr).mono (by simp only [List.length_cons]; lia)

/-- A count goes before what it counts, and fails if it is too great. -/
theorem counted {k : Nat} {rest : Script} (h : rest.AtMost (k * n)) :
    (countBytes k ++ rest).AtMost (4 + maxLength * n) := by
  intro hf
  have hk : k ≤ maxLength := Layout.i32_holds_iff.mp (packInt_failure_iff.mp (append_ok hf).1)
  have hrest : rest.AtMost (maxLength * n) := h.mono (Nat.mul_le_mul_right n hk)
  exact (AtMost.packInt .i32 k).append hrest hf

end AtMost

end Script

open Script

theorem Value.length_elements {v : Value} {n : Nat} (h : v.length? = some n) : v.elements.length = n := by
  cases v <;> cases h <;> simp [Value.elements, String.length_toList]

theorem countBytes_width {n : Nat} (h : (countBytes n).failure = none) : (countBytes n).width = 4 := by
  obtain ⟨bs, hbs⟩ := ofExcept_failure_iff.mp h
  unfold countBytes
  rw [hbs]
  exact (Layout.packInt_eq_ok hbs).1

theorem discriminantBytes_atMost (i : Nat) : (discriminantBytes i).AtMost 4 := .packInt .i32 (i + 1)

namespace Write

theorem encodedText_atMost (encoded : Bytes) : (encodedText encoded).AtMost (4 + maxLength) := by
  have hraw : (Script.raw encoded).AtMost (encoded.length * 1) := by
    rw [Nat.mul_one]
    exact .raw encoded
  have hcheck : (Script.ofExcept (checkLength encoded.length "String" *> .ok [])).AtMost 0 := by
    apply AtMost.ofExcept
    intro bs h
    cases hc : checkLength encoded.length "String" with
    | error f =>
      rw [hc] at h
      cases h
    | ok u =>
      rw [hc] at h
      cases h
      rfl
  rw [encodedText, append_assoc]
  exact (hcheck.append (.counted hraw)).mono (by omega)

theorem text_atMost (v : Value) : (text v).AtMost (4 + maxLength) := by
  unfold text
  split
  · exact encodedText_atMost _
  · split
    · exact .fail _ _
    · exact encodedText_atMost _
  · exact .fail _ _

theorem bytes_atMost (v : Value) : (bytes v).AtMost (4 + maxLength) := by
  unfold bytes
  split
  · exact .fail _ _
  · rename_i n hn
    have hrest : ∀ rest : Script, rest.AtMost (n * 1) → (countBytes n ++ rest).AtMost (4 + maxLength) := by
      intro rest h
      exact (AtMost.counted h).mono (by omega)
    apply hrest
    split
    · cases hn
      rw [Nat.mul_one]
      exact .raw _
    · exact .fail _ _

theorem timestamp_atMost (v : Value) : (timestamp v).AtMost 12 := by
  unfold timestamp
  split
  · split
    · exact (AtMost.packInt .i64 _).append (.packInt .u32 _)
    · exact .fail _ _
  · exact .fail _ _

theorem duration_atMost (v : Value) : (duration v).AtMost 12 := by
  unfold duration
  split
  · exact (AtMost.packInt .u64 _).append (.packInt .u32 _)
  · exact .fail _ _

theorem enumeration_atMost (e : EnumType) (v : Value) : (enumeration e v).AtMost 4 := by
  unfold enumeration
  lift_lets
  intro known
  split
  · exact discriminantBytes_atMost _
  · exact .fail _ _
  · exact .fail _ _

theorem errors_atMost (kinds : List String) (v : Value) : (errors kinds v).AtMost (4 + (4 + maxLength)) := by
  unfold errors
  split
  · split
    · exact (discriminantBytes_atMost _).append (text_atMost _)
    · exact .fail _ _
  · exact .fail _ _

end Write

mutual

/-- What is written of a value takes at most the greatest width of its shape. -/
theorem Shape.write_atMost : (s : Shape) → (v : Value) → (s.write v).AtMost s.greatestWidth
  | .integer k, v => .ofExcept fun _ h => Layout.pack_length h
  | .float32, v => .ofExcept fun _ h => Layout.pack_length (l := .f32) h
  | .float64, v => .ofExcept fun _ h => Layout.pack_length (l := .f64) h
  | .boolean, v => .packInt .i8 _
  | .text, v => Write.text_atMost v
  | .bytes, v => Write.bytes_atMost v
  | .timestamp, v => Write.timestamp_atMost v
  | .duration, v => Write.duration_atMost v
  | .optional inner, v => by
    unfold Shape.write Shape.greatestWidth
    split
    · exact (AtMost.raw [0]).mono (Nat.le_add_right 1 _)
    · exact (AtMost.raw [1]).append (inner.write_atMost _)
  | .sequence inner, v => by
    unfold Shape.write Shape.greatestWidth
    split
    · exact .fail _ _
    · rename_i n hn
      have hall : (Script.all (v.elements.map inner.write)).AtMost (n * inner.greatestWidth) := by
        rw [← Value.length_elements hn, ← List.length_map inner.write]
        apply AtMost.all
        intro s hs
        obtain ⟨a, -, rfl⟩ := List.mem_map.mp hs
        exact inner.write_atMost a
      exact .counted hall
  | .map key value, v => by
    unfold Shape.write Shape.greatestWidth
    split
    · exact .fail _ _
    · rename_i n hn
      apply AtMost.counted
      split
      · rename_i entries
        cases hn
        rw [← List.length_map fun e : Value × Value => key.write e.1 ++ value.write e.2]
        apply AtMost.all
        intro s hs
        obtain ⟨e, -, rfl⟩ := List.mem_map.mp hs
        exact (key.write_atMost e.1).append (value.write_atMost e.2)
      · exact .fail _ _
  | .record _ _ fields, v => fields.write_atMost v
  | .enumeration e, v => Write.enumeration_atMost e v
  | .union _ variants, v => by
    unfold Shape.write Shape.greatestWidth
    split
    · split
      · exact (discriminantBytes_atMost _).append (variants.write_atMost _ _)
      · exact .fail _ _
    · exact .fail _ _
  | .errors _ kinds, v => Write.errors_atMost kinds v
  | .object _, v => by
    unfold Shape.write Shape.greatestWidth
    split
    · exact fun _ => le_refl 8
    · exact fun _ => le_refl 8
    · exact .fail _ _
  | .callback _ _ _, _ => fun _ => le_refl 8

theorem Fields.write_atMost : (fs : Fields) → (v : Value) → (fs.write v).AtMost fs.greatestWidth
  | .nil, _ => .empty _
  | .cons name shape rest, v => by
    unfold Fields.write Fields.greatestWidth
    split
    · exact .fail _ _
    · exact (shape.write_atMost _).append (rest.write_atMost v)

theorem Variants.write_atMost : (vs : Variants) → (i : Nat) → (v : Value) →
    (vs.write i v).AtMost vs.greatestWidth
  | .nil, _, _ => .empty _
  | .cons _ fields _, 0, v => (fields.write_atMost v).mono (Nat.le_max_left _ _)
  | .cons _ _ rest, i + 1, v => (rest.write_atMost i v).mono (Nat.le_max_right _ _)

end

/-! ### What a script sends -/

variable {types : ObjectTypes} {w w' : World} {data : Bytes}

theorem handleBytes_length {i : Int} (h : handleBytes i w = .ok data w') : data.length = 8 := by
  unfold handleBytes at h
  cases hp : Layout.u64.packInt i with
  | ok bs =>
    rw [hp] at h
    cases h
    exact (Layout.packInt_eq_ok hp).1
  | error f =>
    rw [hp] at h
    cases h

theorem Piece.run_length {p : Piece} (h : p.run types w = .ok data w') : data.length = p.width := by
  cases p with
  | raw bs =>
    cases h
    rfl
  | object v =>
    cases v with
    | wrapper cls id =>
      simp only [Piece.run, withReference] at h
      cases htype : types cls with
      | none =>
        rw [htype] at h
        cases h
      | some t =>
        rw [htype] at h
        obtain ⟨p, w₁, -, hrest⟩ := Act.bind_eq_ok h
        obtain ⟨v, huse, -⟩ := Act.andFinally_eq_ok hrest
        exact handleBytes_length huse
    | _ => cases h
  | callback registry v =>
    obtain ⟨handle, w₁, -, hbytes⟩ := Act.bind_eq_ok h
    exact handleBytes_length hbytes

theorem runPieces_length {pieces : List Piece} (h : runPieces types pieces w = .ok data w') :
    data.length = (pieces.map Piece.width).sum := by
  induction pieces generalizing w data with
  | nil =>
    cases h
    rfl
  | cons p rest ih =>
    obtain ⟨front, w₁, hfront, h⟩ := Act.bind_eq_ok h
    obtain ⟨back, w₂, hback, h⟩ := Act.bind_eq_ok h
    cases h
    rw [List.length_append, List.map_cons, List.sum_cons, Piece.run_length hfront, ih hback]

/-- What is sent has the width of what is written, if nothing failed. -/
theorem Shape.send_width {s : Shape} {v : Value} (h : s.send types v w = .ok data w') :
    (s.write v).failure = none ∧ data.length = (s.write v).width := by
  obtain ⟨_, w₁, -, hrun⟩ := Act.bind_eq_ok h
  obtain ⟨sent, w₂, hpieces, hend⟩ := Act.bind_eq_ok hrun
  cases hf : (s.write v).failure with
  | some f =>
    rw [hf] at hend
    cases hend
  | none =>
    rw [hf] at hend
    cases hend
    exact ⟨rfl, runPieces_length hpieces⟩

theorem Shape.send_length_le {s : Shape} {v : Value} (h : s.send types v w = .ok data w') :
    data.length ≤ s.greatestWidth := by
  obtain ⟨hf, hlength⟩ := Shape.send_width h
  rw [hlength]
  exact s.write_atMost v hf

end ForeignBridge
