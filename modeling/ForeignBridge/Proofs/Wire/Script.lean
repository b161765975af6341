import ForeignBridge.Wire.Codec
import ForeignBridge.Proofs.Wire.Layout
import ForeignBridge.Proofs.Wire.Reader

/-!
Scripts against readings: what a script writes, a reading takes back. The relation is built up along
the order of the script, so that a round trip follows the shape of what is written.
-/

namespace ForeignBridge

namespace Script

variable {a b : Script}

theorem append_failure (h : a.failure = none) : (a ++ b).failure = b.failure := by
  change (a.andThen b).failure = _
  rw [andThen, h]

theorem append_leadingBytes (h : a.failure = none) :
    (a ++ b).leadingBytes = a.leadingBytes ++ b.leadingBytes := by
  change (a.andThen b).leadingBytes = _
  rw [andThen, h]
  simp [leadingBytes]

theorem append_ok (h : (a ++ b).failure = none) : a.failure = none ∧ b.failure = none := by
  change (a.andThen b).failure = none at h
  unfold andThen at h
  split at h
  · rename_i he
    rw [he] at h
    cases h
  · rename_i he
    exact ⟨he, h⟩

theorem append_assoc (a b c : Script) : a ++ b ++ c = a ++ (b ++ c) := by
  change (a.andThen b).andThen c = a.andThen (b.andThen c)
  obtain ⟨pieces, failure⟩ := a
  cases failure with
  | some f => rfl
  | none =>
    obtain ⟨pieces', failure⟩ := b
    cases failure <;> simp [andThen]

@[simp] theorem raw_failure (bs : Bytes) : (raw bs).failure = none := rfl

@[simp] theorem raw_leadingBytes (bs : Bytes) : (raw bs).leadingBytes = bs := by
  simp [raw, leadingBytes]

/-- A script that comes to its end, and of whose bytes a reading makes a value. -/
def Restores {α : Type} (s : Script) (x : Reading α) (a : α) : Prop :=
  s.failure = none ∧ x.Consumes s.leadingBytes a

namespace Restores

variable {α β : Type} {x : Reading α} {f : α → Reading β} {u : α} {v : β}

theorem empty (u : α) : Script.empty.Restores (pure u) u := ⟨rfl, .pure u⟩

theorem bind (hx : a.Restores x u) (hf : b.Restores (f u) v) : (a ++ b).Restores (x >>= f) v := by
  refine ⟨(append_failure hx.1).trans hf.1, ?_⟩
  rw [append_leadingBytes hx.1]
  exact hx.2.bind hf.2

theorem behind (hx : a.Restores x u) : (Script.raw [] ++ a).Restores x u := by
  refine ⟨(append_failure rfl).trans hx.1, ?_⟩
  rw [append_leadingBytes rfl, raw_leadingBytes]
  exact hx.2

/-- A last step that takes no bytes. -/
theorem finish (hx : a.Restores x u) (hf : (f u).Consumes [] v) : a.Restores (x >>= f) v :=
  ⟨hx.1, by simpa using hx.2.bind hf⟩

theorem raw {bs : Bytes} (h : x.Consumes bs u) : (Script.raw bs).Restores x u := by
  refine ⟨rfl, ?_⟩
  rwa [raw_leadingBytes]

theorem ofExcept {bs : Bytes} {r : Except Failure Bytes} (hr : r = .ok bs) (h : x.Consumes bs u) :
    (Script.ofExcept r).Restores x u := by
  rw [hr]
  exact raw h

/-- A number that its layout holds. -/
theorem packInt {l : Layout} {i : Int} (hl : l.least ≤ i) (hh : i ≤ l.greatest) :
    (Script.ofExcept (l.packInt i)).Restores (Reading.int l) i := by
  obtain ⟨bs, hb⟩ := Layout.packInt_ok hl hh
  obtain ⟨hn, hi⟩ := Layout.packInt_eq_ok hb
  refine ofExcept hb ?_
  simpa only [hi] using Reading.Consumes.int hn

end Restores

end Script

/-- A count of at most 31 bits is read back. -/
theorem countBytes_restores {n : Nat} (h : n ≤ maxLength) (typeName : String) :
    (countBytes n).Restores (Read.length typeName) n := by
  have hn : ¬ ((n : Int) < 0) := by omega
  have hi : (countBytes n).Restores (Reading.int .i32) n := by
    refine .packInt ?_ ?_
    · simp [Layout.least, Layout.signed, Layout.size]
    · simp [Layout.greatest, Layout.signed, Layout.size, maxLength] at *
      omega
  refine hi.finish ?_
  rw [if_neg hn]
  exact .pure n

end ForeignBridge
