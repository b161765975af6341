import ForeignBridge.Wire.Read
import Mathlib.Tactic

/-!
Readers seen from the bytes: what stands before the position and what stands after it. A reading that
takes certain bytes takes them wherever they stand.
-/

namespace ForeignBridge

/-- A reader between the bytes that it has read and those that are left. -/
def Reader.between (front back : Bytes) (dropped : List Nat) : Reader :=
  ⟨(front ++ back).toArray, front.length, false, dropped⟩

namespace Reader

variable (front bs back : Bytes) (dropped : List Nat)

@[simp] theorem between_position : (between front back dropped).position = front.length := rfl

@[simp] theorem between_released : (between front back dropped).released = false := rfl

@[simp] theorem between_size :
    (between front back dropped).size = front.length + back.length := by
  simp [between, size]

@[simp] theorem between_remaining : (between front back dropped).remaining = back.length := by
  simp [remaining]

theorem between_slice :
    (between front (bs ++ back) dropped).slice front.length (front.length + bs.length) = bs := by
  have h₀ : ¬ ((front.length : Int) < 0) := by omega
  have h₁ : ¬ ((front.length : Int) + bs.length < 0) := by omega
  have h₂ : ((front.length : Int) + bs.length).toNat = front.length + bs.length := by omega
  simp [between, slice, clamp, size, h₀, h₁, h₂]

theorem between_moved {n : Int} (h : n = bs.length) :
    (⟨(between front (bs ++ back) dropped).source, front.length + n, false,
      (between front (bs ++ back) dropped).dropped⟩ : Reader) = between (front ++ bs) back dropped := by
  simp [between, h]

theorem ofBytes_eq : ofBytes bs = between [] bs [] := rfl

end Reader

variable {α β : Type}

namespace Reading

theorem remaining_between (front back : Bytes) (dropped : List Nat) :
    remaining (.between front back dropped) = .ok back.length (.between front back dropped) := by
  simp [remaining]

theorem bind_of_ok {x : Reading α} {f : α → Reading β} {r r' : Reader} {a : α} (h : x r = .ok a r') :
    (x >>= f) r = f a r' := by
  change EStateM.bind x f r = _
  rw [EStateM.bind, h]

theorem bind_of_error {x : Reading α} {f : α → Reading β} {r r' : Reader} {e : Failure}
    (h : x r = .error e r') : (x >>= f) r = .error e r' := by
  change EStateM.bind x f r = _
  rw [EStateM.bind, h]

theorem map_of_error {x : Reading α} {g : α → β} {r r' : Reader} {e : Failure}
    (h : x r = .error e r') : (g <$> x) r = .error e r' := by
  change EStateM.map g x r = _
  rw [EStateM.map, h]

/-! A reading of more bytes than are left is refused with both numbers, and the reader stays where it is. -/

theorem take_refused {back : Bytes} {n : Nat} (h : back.length < n) (front : Bytes) (dropped : List Nat) :
    take n (.between front back dropped) = .error (.underflow n back.length) (.between front back dropped) := by
  have hr : (back.length : Int) < n := by omega
  simp [take, hr]

theorem takeScalar_refused {back : Bytes} {l : Layout} (h : back.length < l.size) (front : Bytes) (dropped : List Nat) :
    takeScalar l (.between front back dropped)
      = .error (.underflow l.size back.length) (.between front back dropped) := by
  have hr : (back.length : Int) < l.size := by omega
  simp [takeScalar, hr]

/-- A reading takes these bytes, whatever comes before and after them, and gives this. -/
def Consumes (x : Reading α) (bs : Bytes) (a : α) : Prop :=
  ∀ front back dropped, x (.between front (bs ++ back) dropped) = .ok a (.between (front ++ bs) back dropped)

namespace Consumes

variable {x : Reading α} {f : α → Reading β} {bs cs : Bytes} {a : α} {b : β}

theorem pure (a : α) : (Pure.pure a : Reading α).Consumes [] a := by
  intro front back dropped
  simp only [List.nil_append, List.append_nil]
  rfl

theorem bind (hx : x.Consumes bs a) (hf : (f a).Consumes cs b) : (x >>= f).Consumes (bs ++ cs) b := by
  intro front back dropped
  rw [List.append_assoc, bind_of_ok (hx front (cs ++ back) dropped), hf (front ++ bs) back dropped,
    List.append_assoc]

theorem map (g : α → β) (hx : x.Consumes bs a) : (g <$> x).Consumes bs (g a) := by
  intro front back dropped
  change EStateM.map g x _ = _
  rw [EStateM.map, hx]

theorem orDrop (held : Unit → List Nat) (hx : x.Consumes bs a) : (x.orDrop held).Consumes bs a := by
  intro front back dropped
  rw [Reading.orDrop, hx]

theorem drop_nil : (Reading.drop []).Consumes [] () := by
  intro front back dropped
  simp only [Reading.drop, List.append_nil, List.nil_append]
  rfl

theorem takeScalar {l : Layout} (h : bs.length = l.size) : (Reading.takeScalar l).Consumes bs bs := by
  intro front back dropped
  have hr : ¬ ((bs.length : Int) + back.length < l.size) := by omega
  have hn : ¬ ((front.length : Int) < 0) := by omega
  have hs : ¬ ((front.length : Int) + (bs.length + back.length) < front.length + l.size) := by omega
  have hslice := Reader.between_slice front bs back dropped
  have hmoved := Reader.between_moved front bs back dropped (n := l.size) (by omega)
  rw [h] at hslice
  simp [Reading.takeScalar, hr, hn, hs, hslice, hmoved]

theorem take : (Reading.take bs.length).Consumes bs bs := by
  intro front back dropped
  have hr : ¬ ((bs.length : Int) + back.length < bs.length) := by omega
  simp [Reading.take, hr, Reader.between_slice, Reader.between_moved front bs back dropped rfl]

theorem int {l : Layout} (h : bs.length = l.size) : (Reading.int l).Consumes bs (l.unpackInt bs) :=
  (takeScalar h).map _

theorem scalar {l : Layout} (h : bs.length = l.size) : (Reading.scalar l).Consumes bs (l.unpack bs) :=
  (takeScalar h).map _

end Consumes

end Reading

/-! ### Declared counts, and the end of the bytes -/

namespace Read

/-- Nothing is left behind a value that takes the whole source. -/
theorem requireEnd_ok (typeName : String) (v : Value) (front : Bytes) (dropped : List Nat) :
    requireEnd typeName v (.between front [] dropped) = .ok v (.between front [] dropped) :=
  Reading.bind_of_ok (Reading.remaining_between front [] dropped)

/-- The check of a count looks at the bytes left, unless its elements need none, and throws the fault it finds. -/
theorem checkCount_eq (count width : Nat) (typeName : String) (front back : Bytes) (dropped : List Nat) :
    checkCount count width typeName (.between front back dropped) =
      ((countFault? typeName count width (if width = 0 then 0 else back.length)).elim (pure ()) throw : Reading Unit)
        (.between front back dropped) := by
  rw [checkCount]
  split
  · refine (Reading.bind_of_ok (a := 0) rfl).trans ?_
    dsimp only
    cases countFault? typeName count width 0 <;> rfl
  · refine (Reading.bind_of_ok (Reading.remaining_between front back dropped)).trans ?_
    dsimp only
    cases countFault? typeName count width back.length <;> rfl

/-- Elements that take bytes are too many just if they take more than there are. -/
theorem countFault?_of_pos (typeName : String) {count width left : Int} (hw : 0 < width) :
    countFault? typeName count width left =
      if left < count * width then some (.underflow (count * width) left) else none := by
  have hdiv : left.fdiv width < count ↔ left < count * width := by
    rw [Int.fdiv_eq_ediv_of_nonneg _ hw.le]
    exact Int.ediv_lt_iff_lt_mul hw
  simp only [countFault?, hw.ne', if_false, hdiv]

/-- All that the check of a count can do: to pass, to miss bytes, or to find too many elements without any. -/
theorem checkCount_cases (count width : Nat) (typeName : String) (front back : Bytes) (dropped : List Nat) :
    let r := Reader.between front back dropped
    (count * width ≤ back.length ∧ (width = 0 → count ≤ maxZeroWidthCount) ∧
        checkCount count width typeName r = .ok () r) ∨
      (back.length < count * width ∧
        checkCount count width typeName r = .error (.underflow (count * width) back.length) r) ∨
      (width = 0 ∧ maxZeroWidthCount < count ∧ checkCount count width typeName r =
        .error (.invalidValue (.zeroWidthCount typeName count maxZeroWidthCount)) r) := by
  intro r
  have run : checkCount count width typeName r = _ := checkCount_eq count width typeName front back dropped
  rcases Nat.eq_zero_or_pos width with rfl | h
  · rcases Nat.lt_or_ge maxZeroWidthCount count with hm | hm
    · have hf : countFault? typeName count (0 : Nat) 0 =
          some (.invalidValue (.zeroWidthCount typeName count maxZeroWidthCount)) := by
        simp [countFault?, hm]
      rw [if_pos rfl, hf] at run
      exact .inr (.inr ⟨rfl, hm, run⟩)
    · have hf : countFault? typeName count (0 : Nat) 0 = none := by
        simp [countFault?, Nat.not_lt.mpr hm]
      rw [if_pos rfl, hf] at run
      exact .inl ⟨by omega, fun _ => hm, run⟩
  · rw [if_neg (by omega), countFault?_of_pos typeName (by omega)] at run
    rcases Nat.lt_or_ge back.length (count * width) with hb | hb
    · rw [if_pos (by exact_mod_cast hb)] at run
      exact .inr (.inl ⟨hb, run⟩)
    · rw [if_neg (by exact_mod_cast Nat.not_lt.mpr hb)] at run
      exact .inl ⟨hb, fun h₀ => absurd h₀ (by omega), run⟩

end Read

end ForeignBridge
