import ForeignBridge.Exchange.Send
import ForeignBridge.Proofs.Memory.Release
import ForeignBridge.Proofs.Wire.Plain
import ForeignBridge.Proofs.Wire.Reader
import Mathlib.Tactic

/-!
Lifting. To lift a buffer is to decode its bytes and then to release it, once, whatever came of the decoding.
-/

namespace ForeignBridge

open Act

theorem viewOf_eq (b : Buffer) (w : World) : viewOf b w = .ok (w.arena.view b) w := by
  have hv : (if b.isEmpty then [] else w.arena.view b) = w.arena.view b := by
    split
    · rename_i he
      unfold Arena.view
      cases hd : b.data with
      | none => rfl
      | some n =>
        have hl : b.len = 0 := by simpa [Buffer.isEmpty, hd] using he
        rw [hl]
        exact List.take_zero.symm
    · rfl
  change EStateM.Result.ok _ w = _
  rw [hv]

theorem andFinally_congr {α : Type} {x y : Act α} {w : World} (h : x w = y w) (last : Act Unit) :
    World.andFinally x last w = World.andFinally y last w := by
  unfold World.andFinally
  rw [h]

namespace Reading

variable {α β : Type}

/-- A reading that must leave nothing, as a consumer requires it. -/
def toEnd (typeName : Option String) (x : Reading α) : Reading α := do
  let v ← x
  let left ← remaining
  if left ≠ 0 then throw (.trailing left typeName)
  return v

/-- What comes of a reading does not depend on where the steps that follow leave the reader. -/
theorem value_bind {x : Reading α} {f g : α → Reading β} (h : ∀ a r, (f a).value r = (g a).value r) (r : Reader) :
    (x >>= f).value r = (x >>= g).value r := by
  cases hx : x r with
  | ok a r' =>
    have ha := h a r'
    unfold value at ha ⊢
    rwa [bind_of_ok hx, bind_of_ok hx]
  | error e r' =>
    unfold value
    rw [bind_of_error hx, bind_of_error hx]

end Reading

theorem readBytes_value {α : Type} (x : Reading α) (data : Bytes) (w : World) :
    (do return (← readBytes x data).1 : Act α) w = (ofExcept (x.value (.ofBytes data)) : Act α) w := by
  unfold readBytes Reading.value
  cases x (.ofBytes data) <;> rfl

namespace Shape

variable {s : Shape} {free : Buffer → Act Unit} {b : Buffer} {w w' : World}

theorem value_readAll (hp : s.isPlain) (impls : Implementations) (data : Bytes) :
    (s.readAll impls).value (.ofBytes data) = s.decode data := by
  rw [readAll_plain hp impls .none]
  unfold Reading.value decode
  cases s.readAll .none (.ofBytes data) <;> rfl

theorem value_toEnd (s : Shape) (impls : Implementations) (r : Reader) :
    ((s.read impls).toEnd (some s.typeName)).value r = (s.readAll impls).value r := by
  apply Reading.value_bind
  intro v r
  apply Reading.value_bind
  intro left r
  by_cases h : left ≠ 0
  · rw [if_pos h, if_pos h]
    rfl
  · rw [if_neg h, if_neg h]

/-- To lift is to read all the bytes of the buffer, and to release it in the end. -/
theorem liftWith_eq (free : Buffer → Act Unit) (s : Shape) (b : Buffer) (w : World) :
    liftWith free s b w = World.andFinally (do return (← readBytes (s.readAll w.lookup) (w.arena.view b)).1)
      (releaseWith free b) w := by
  refine (bind_of_ok (viewOf_eq b w)).trans ?_
  apply andFinally_congr
  exact bind_of_ok rfl

/-- Whatever function frees: lifted is what is decoded, in the world that one release leaves. -/
theorem liftWith_of_released (hp : s.isPlain) (h : releaseWith free b w = .ok () w') :
    liftWith free s b w = (ofExcept (s.decode (w.arena.view b)) : Act Value) w' := by
  rw [liftWith_eq]
  apply andFinally_of_idle _ h
  rw [readBytes_value, value_readAll hp]

theorem consume_eq_lift (a : Allocator) (s : Shape) (b : Buffer) (w : World) :
    (⟨b, false⟩ : ReceivedBuffer).consume a (some s.typeName) (s.read w.lookup) w = a.lift s b w := by
  have hl : a.lift s b w = _ := liftWith_eq a.free s b w
  rw [hl]
  refine (bind_of_ok (viewOf_eq b w)).trans ?_
  apply andFinally_congr
  change (do return (← readBytes ((s.read w.lookup).toEnd (some s.typeName)) (w.arena.view b)).1 : Act Value) w = _
  rw [readBytes_value, readBytes_value, value_toEnd]

end Shape

theorem liftMessageWith_of_released {free : Buffer → Act Unit} {b : Buffer} {w w' : World}
    (h : releaseWith free b w = .ok () w') :
    liftMessageWith free b w = .ok (Utf8.decodeReplacing (w.arena.view b)) w' := by
  let text : Except Failure String := .ok (Utf8.decodeReplacing (w.arena.view b))
  have hread : (do return Utf8.decodeReplacing (← viewOf b) : Act String) w = (ofExcept text : Act String) w :=
    (bind_of_ok (viewOf_eq b w)).trans rfl
  exact andFinally_of_idle hread h

end ForeignBridge
