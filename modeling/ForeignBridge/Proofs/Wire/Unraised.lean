import ForeignBridge.Proofs.Wire.Exact
import ForeignBridge.Proofs.Wire.Faults
import ForeignBridge.Proofs.Wire.Words.Write

/-!
Whose failures the codec's are. Whatever the shape and the value, a check or a write fails with a failure of its own,
never with one that someone raised.
-/

namespace ForeignBridge

/-- A failure that nobody raised. -/
def Failure.Unraised (f : Failure) : Prop := f.isRaised = false

namespace Failure

variable {f : Failure}

theorem Worded.unraised (h : f.Worded) : f.Unraised := by
  cases f with
  | raised v => exact absurd rfl (h.notRaised v)
  | _ => rfl

theorem IsMalformed.unraised (h : f.IsMalformed) : f.Unraised := by
  cases f with
  | underflow | trailing | discriminant | invalidValue => rfl
  | _ => exact absurd h id

theorem Unraised.caught (h : f.Unraised) : f.family ≠ .unwinding := by
  cases f with
  | raised v => cases h
  | _ => nofun

theorem Unraised.told (h : f.Unraised) : f.ofTelling = .ok () := by
  cases f with
  | raised v => cases h
  | _ => rfl

theorem Unraised.undeclared (h : f.Unraised) : f.declared? = none := by
  cases f with
  | raised v => cases h
  | _ => rfl

end Failure

open Failure FailsAs

theorem FailsInWords.unraised {α : Type} {r : Except Failure α} (h : FailsInWords r) : FailsAs Unraised r :=
  fun f hf => (h f hf).unraised

theorem Script.FailsInWords.unraised {s : Script} (h : s.FailsInWords) : s.FailsAs Unraised :=
  fun f hf => (h f hf).unraised

theorem attribute_unraised (v : Value) (name : String) : FailsAs Unraised (v.attribute name) := by
  fun_cases Value.attribute v name
  · exact ok _
  · exact error rfl

/-! ### Checks -/

theorem CheckFault.unraised {parts : List (Shape × Value)} {f : Failure} (h : CheckFault parts f) : f.Unraised := by
  cases h <;> rfl

theorem Shape.check_unraised (s : Shape) (v : Value) : FailsAs Unraised (s.check v) :=
  fun f hf => (s.check_failsOver v (List.Subset.refl _) f hf).unraised

/-! ### Writes -/

theorem countBytes_unraised (n : Nat) : (countBytes n).FailsAs Unraised := (countBytes_failsInWords n).unraised

theorem discriminantBytes_unraised (i : Nat) : (discriminantBytes i).FailsAs Unraised :=
  (discriminantBytes_failsInWords i).unraised

theorem packed_unraised (l : Layout) (i : Int) : (Script.ofExcept (l.packInt i)).FailsAs Unraised :=
  .ofExcept (Layout.packInt_failsInWords l i).unraised

namespace Write

open Script.FailsAs

theorem text_unraised (v : Value) : (text v).FailsAs Unraised := by
  have hencoded (encoded : Bytes) : (encodedText encoded).FailsAs Unraised :=
    (encodedText_failsInWords encoded).unraised
  fun_cases text v
  · exact hencoded _
  · rename_i f hf
    exact .fail (ofEncoding_failsInWords _ f hf).unraised
  · exact hencoded _
  · exact .fail rfl

theorem bytes_unraised (v : Value) : (bytes v).FailsAs Unraised := by
  unfold bytes
  cases v.length? with
  | none => exact .fail rfl
  | some n =>
    apply append (countBytes_unraised n)
    split
    · exact .raw _
    · exact .fail rfl

theorem timestamp_unraised (v : Value) : (timestamp v).FailsAs Unraised := by
  fun_cases timestamp v
  · exact append (packed_unraised _ _) (packed_unraised _ _)
  · exact .fail rfl
  · exact .fail rfl

theorem duration_unraised (v : Value) : (duration v).FailsAs Unraised := by
  fun_cases duration v
  · exact append (packed_unraised _ _) (packed_unraised _ _)
  · exact .fail rfl

theorem enumeration_unraised (e : EnumType) (v : Value) : (enumeration e v).FailsAs Unraised := by
  fun_cases enumeration e v
  · exact discriminantBytes_unraised _
  · exact .fail rfl
  · exact .fail rfl

theorem errors_unraised (kinds : List String) (v : Value) : (errors kinds v).FailsAs Unraised := by
  fun_cases errors kinds v
  · exact append (discriminantBytes_unraised _) (text_unraised _)
  · exact .fail rfl
  · exact .fail rfl

end Write

mutual

/-- A write fails with a failure of its own, even where the value has not been checked. -/
theorem Shape.write_unraised : (s : Shape) → (v : Value) → (s.write v).FailsAs Unraised
  | .integer _, _ | .float32, _ | .float64, _ => .ofExcept (Layout.pack_failsInWords _ _).unraised
  | .boolean, _ => packed_unraised _ _
  | .text, v => Write.text_unraised v
  | .bytes, v => Write.bytes_unraised v
  | .timestamp, v => Write.timestamp_unraised v
  | .duration, v => Write.duration_unraised v
  | .optional inner, v => by
    unfold Shape.write
    split
    · exact .raw _
    · exact .append (.raw _) (inner.write_unraised _)
  | .sequence inner, v => by
    unfold Shape.write
    cases v.length? with
    | none => exact .fail rfl
    | some n =>
      apply Script.FailsAs.append (countBytes_unraised n)
      apply Script.FailsAs.all
      intro script h
      obtain ⟨a, -, rfl⟩ := List.mem_map.mp h
      exact inner.write_unraised a
  | .map key value, v => by
    unfold Shape.write
    cases v.length? with
    | none => exact .fail rfl
    | some n =>
      apply Script.FailsAs.append (countBytes_unraised n)
      split
      · apply Script.FailsAs.all
        intro script h
        obtain ⟨e, -, rfl⟩ := List.mem_map.mp h
        exact .append (key.write_unraised e.1) (value.write_unraised e.2)
      · exact .fail rfl
  | .record _ _ fields, v => fields.write_unraised v
  | .enumeration e, v => Write.enumeration_unraised e v
  | .union name variants, v => by
    unfold Shape.write
    split
    · split
      · exact .append (discriminantBytes_unraised _) (variants.write_unraised _ _)
      · exact .fail rfl
    · exact .fail rfl
  | .errors _ kinds, v => Write.errors_unraised kinds v
  | .object _, v => by
    unfold Shape.write
    split
    · exact nofun
    · exact nofun
    · exact .fail rfl
  | .callback .., _ => nofun

theorem Fields.write_unraised : (fs : Fields) → (v : Value) → (fs.write v).FailsAs Unraised
  | .nil, _ => .empty
  | .cons name shape rest, v => by
    have ha := attribute_unraised v name
    rw [Fields.write]
    cases h : v.attribute name with
    | error f => exact .fail (ha f h)
    | ok a => exact .append (shape.write_unraised a) (rest.write_unraised v)

theorem Variants.write_unraised : (vs : Variants) → (i : Nat) → (v : Value) → (vs.write i v).FailsAs Unraised
  | .nil, _, _ => .empty
  | .cons _ fields _, 0, v => fields.write_unraised v
  | .cons _ _ rest, i + 1, v => rest.write_unraised i v

end

end ForeignBridge
