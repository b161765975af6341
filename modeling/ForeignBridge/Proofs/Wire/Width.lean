import ForeignBridge.Proofs.Wire.Script

/-!
A shape's least width is a bound: what is written of a value takes at least so many bytes.
-/

namespace ForeignBridge

namespace Script

/-- A script that takes at least so many bytes, unless it fails. -/
def AtLeast (s : Script) (n : Nat) : Prop := s.failure = none → n ≤ s.leadingBytes.length

namespace AtLeast

variable {a b : Script} {m n : Nat}

theorem zero (s : Script) : s.AtLeast 0 := fun _ => Nat.zero_le _

theorem fail (f : Failure) (n : Nat) : (Script.fail f).AtLeast n := nofun

theorem mono (h : a.AtLeast n) (hm : m ≤ n) : a.AtLeast m := fun hf => hm.trans (h hf)

theorem append (ha : a.AtLeast m) (hb : b.AtLeast n) : (a ++ b).AtLeast (m + n) := by
  intro hf
  obtain ⟨hfa, hfb⟩ := append_ok hf
  rw [append_leadingBytes hfa, List.length_append]
  exact Nat.add_le_add (ha hfa) (hb hfb)

theorem append_left (ha : a.AtLeast m) (b : Script) : (a ++ b).AtLeast m := ha.append (.zero b)

theorem raw (bs : Bytes) : (Script.raw bs).AtLeast bs.length := by
  intro _
  rw [raw_leadingBytes]

theorem ofExcept {r : Except Failure Bytes} (h : ∀ bs, r = .ok bs → bs.length = n) :
    (Script.ofExcept r).AtLeast n := by
  cases r with
  | error f => exact fail f n
  | ok bs => exact (raw bs).mono (h bs rfl).ge

theorem packInt (l : Layout) (i : Int) : (Script.ofExcept (l.packInt i)).AtLeast l.size :=
  .ofExcept fun _ h => (Layout.packInt_eq_ok h).1

theorem all {scripts : List Script} (h : ∀ s ∈ scripts, s.AtLeast n) :
    (Script.all scripts).AtLeast (scripts.length * n) := by
  induction scripts with
  | nil => simpa using zero (Script.all [])
  | cons s rest ih =>
    have hs := h s (by simp)
    have hr := ih fun s hm => h s (by simp [hm])
    exact (hs.append hr).mono (by simp only [List.length_cons]; lia)

end AtLeast

end Script

open Script

namespace Layout

/-- What a layout packs has its size. -/
theorem pack_length {l : Layout} {v : Value} {bs : Bytes} (h : l.pack v = .ok bs) :
    bs.length = l.size := by
  cases l with
  | f32 =>
    simp only [pack, bind, Except.bind] at h
    split at h
    · cases h
    · split at h
      · cases h
        exact bigEndian_length _ _
      · cases h
      · cases h
  | f64 =>
    simp only [pack, bind, Except.bind] at h
    split at h
    · cases h
    · cases h
      exact bigEndian_length _ _
  | _ =>
    simp only [pack] at h
    split at h
    · exact (packInt_eq_ok h).1
    · cases h

end Layout

theorem countBytes_atLeast (n : Nat) : (countBytes n).AtLeast 4 := .packInt .i32 n

theorem discriminantBytes_atLeast (i : Nat) : (discriminantBytes i).AtLeast 4 := .packInt .i32 (i + 1)

namespace Write

theorem encodedText_atLeast (encoded : Bytes) : (encodedText encoded).AtLeast 4 :=
  (((AtLeast.zero _).append (countBytes_atLeast encoded.length)).append_left _).mono (by decide)

theorem text_atLeast (v : Value) : (text v).AtLeast 4 := by
  unfold text
  split
  · exact encodedText_atLeast _
  · split
    · exact .fail _ _
    · exact encodedText_atLeast _
  · exact .fail _ _

theorem bytes_atLeast (v : Value) : (bytes v).AtLeast 4 := by
  unfold bytes
  split
  · exact .fail _ _
  · exact (countBytes_atLeast _).append_left _

theorem timestamp_atLeast (v : Value) : (timestamp v).AtLeast 12 := by
  unfold timestamp
  split
  · split
    · exact (AtLeast.packInt .i64 _).append (.packInt .u32 _)
    · exact .fail _ _
  · exact .fail _ _

theorem duration_atLeast (v : Value) : (duration v).AtLeast 12 := by
  unfold duration
  split
  · exact (AtLeast.packInt .u64 _).append (.packInt .u32 _)
  · exact .fail _ _

theorem enumeration_atLeast (e : EnumType) (v : Value) : (enumeration e v).AtLeast 4 := by
  unfold enumeration
  lift_lets
  intro known
  split
  · exact discriminantBytes_atLeast _
  · exact .fail _ _
  · exact .fail _ _

theorem errors_atLeast (kinds : List String) (v : Value) : (errors kinds v).AtLeast 4 := by
  unfold errors
  split
  · split
    · exact (discriminantBytes_atLeast _).append_left _
    · exact .fail _ _
  · exact .fail _ _

end Write

mutual

/-- What is written of a value takes at least the least width of its shape. -/
theorem Shape.write_atLeast : (s : Shape) → s.isPlain → (v : Value) → (s.write v).AtLeast s.minWidth
  | .integer k, _, v => .ofExcept fun _ h => Layout.pack_length h
  | .float32, _, v => .ofExcept fun _ h => Layout.pack_length (l := .f32) h
  | .float64, _, v => .ofExcept fun _ h => Layout.pack_length (l := .f64) h
  | .boolean, _, v => .packInt .i8 _
  | .text, _, v => Write.text_atLeast v
  | .bytes, _, v => Write.bytes_atLeast v
  | .timestamp, _, v => Write.timestamp_atLeast v
  | .duration, _, v => Write.duration_atLeast v
  | .optional inner, _, v => by
    unfold Shape.write
    split
    · exact .raw _
    · exact (AtLeast.raw [1]).append_left _
  | .sequence inner, _, v => by
    unfold Shape.write
    split
    · exact .fail _ _
    · exact (countBytes_atLeast _).append_left _
  | .map key value, _, v => by
    unfold Shape.write
    split
    · exact .fail _ _
    · exact (countBytes_atLeast _).append_left _
  | .record _ _ fields, h, v => fields.write_atLeast h v
  | .enumeration e, _, v => Write.enumeration_atLeast e v
  | .union _ _, _, v => by
    unfold Shape.write
    split
    · split
      · exact (discriminantBytes_atLeast _).append_left _
      · exact .fail _ _
    · exact .fail _ _
  | .errors _ kinds, _, v => Write.errors_atLeast kinds v

theorem Fields.write_atLeast : (fs : Fields) → fs.isPlain → (v : Value) → (fs.write v).AtLeast fs.minWidth
  | .nil, _, _ => .zero _
  | .cons name shape rest, h, v => by
    simp only [Fields.isPlain, Bool.and_eq_true] at h
    unfold Fields.write
    split
    · exact .fail _ _
    · exact (shape.write_atLeast h.1 _).append (rest.write_atLeast h.2 v)

end

end ForeignBridge
