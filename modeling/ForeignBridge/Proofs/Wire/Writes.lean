import ForeignBridge.Proofs.Wire.Grammar
import ForeignBridge.Proofs.Wire.Script

/-!
When a script comes to its end, and which bytes it has written by then.
-/

namespace ForeignBridge

/-- A script that comes to its end and has written some bytes by then. -/
def Script.Writes (s : Script) (bs : Bytes) : Prop := s.failure = none ∧ s.leadingBytes = bs

namespace Script.Writes

variable {a b : Script} {bs cs : Bytes}

theorem empty : Script.empty.Writes [] := ⟨rfl, rfl⟩

theorem raw (bs : Bytes) : (Script.raw bs).Writes bs := ⟨rfl, raw_leadingBytes bs⟩

theorem append (ha : a.Writes bs) (hb : b.Writes cs) : (a ++ b).Writes (bs ++ cs) := by
  refine ⟨(append_failure ha.1).trans hb.1, ?_⟩
  rw [append_leadingBytes ha.1, ha.2, hb.2]

theorem ofExcept {r : Except Failure Bytes} (h : r = .ok bs) : (Script.ofExcept r).Writes bs := by
  rw [h]
  exact raw bs

theorem packInt {l : Layout} {i : Int} (h : l.Holds i) : (Script.ofExcept (l.packInt i)).Writes (l.numeral i) :=
  ofExcept (if_pos h)

end Script.Writes

open Script

theorem countBytes_writes {n : Nat} (h : n ≤ maxLength) : (countBytes n).Writes (lengthNumeral n) :=
  .packInt (Layout.i32_holds_iff.mpr h)

theorem discriminantBytes_writes {i : Nat} (h : i + 1 ≤ maxLength) :
    (discriminantBytes i).Writes (lengthNumeral (i + 1)) :=
  .packInt (Layout.i32_holds_iff.mpr h)

theorem checkLength_of_le {n : Nat} (h : n ≤ maxLength) (typeName : String) :
    checkLength n typeName = .ok () :=
  if_pos (Int.ofNat_le.mpr h)

namespace Script

variable {a b : Script}

theorem append_failure_iff : (a ++ b).failure = none ↔ a.failure = none ∧ b.failure = none := by
  constructor
  · exact append_ok
  · rintro ⟨ha, hb⟩
    exact (append_failure ha).trans hb

theorem all_failure_iff {scripts : List Script} :
    (Script.all scripts).failure = none ↔ ∀ s ∈ scripts, s.failure = none := by
  induction scripts with
  | nil => simp [Script.all, empty]
  | cons s rest ih => rw [Script.all, append_failure_iff, ih, List.forall_mem_cons]

theorem ofExcept_failure_iff {r : Except Failure Bytes} : (ofExcept r).failure = none ↔ ∃ bs, r = .ok bs := by
  cases r with
  | ok bs => simp [ofExcept]
  | error f => simp [ofExcept, fail]

theorem packInt_failure_iff {l : Layout} {i : Int} : (ofExcept (l.packInt i)).failure = none ↔ l.Holds i := by
  rw [ofExcept_failure_iff]
  constructor
  · rintro ⟨bs, h⟩
    unfold Layout.packInt at h
    split at h
    · assumption
    · cases h
  · intro h
    exact Layout.packInt_ok h.1 h.2

theorem discriminantBytes_failure_iff {i : Nat} : (discriminantBytes i).failure = none ↔ i + 1 ≤ maxLength := by
  rw [← Layout.i32_holds_iff]
  exact packInt_failure_iff

end Script

end ForeignBridge
