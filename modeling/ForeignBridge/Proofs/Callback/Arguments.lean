import ForeignBridge.Proofs.Callback.Exchange
import ForeignBridge.Proofs.Wire.Decode

/-!
Which bytes are the arguments of a method: those that can be cut into one part for each argument, so that each
part is decoded by itself.
-/

namespace ForeignBridge

open Reading

/-- Bytes made up of parts, one for each shape, each of which is decoded. -/
inductive Shape.DecodeAll (impls : Implementations) : List Shape → Bytes → List Value → Prop
  | nil : Shape.DecodeAll impls [] [] []
  | cons {s : Shape} {shapes : List Shape} {bs cs : Bytes} {v : Value} {vs : List Value} {r : Reader}
      (h : s.readAll impls (.ofBytes bs) = .ok v r) (hr : Shape.DecodeAll impls shapes cs vs) :
      Shape.DecodeAll impls (s :: shapes) (bs ++ cs) (v :: vs)

namespace Dispatcher

variable {d : Dispatcher} {m : CallbackMethod} {impls : Implementations} {data : Bytes} {args : List Value}

theorem readArguments_takes {shapes : List Shape} (h : Shape.DecodeAll impls shapes data args) :
    (readArguments impls shapes).Takes data args := by
  induction h with
  | nil => exact .pure []
  | cons h hr ih => exact .bind (Shape.takes_of_readAll h).1 (.finish ih (.pure _))

/-- Bytes are cut into arguments in one way at most. -/
theorem decodeAll_unique {shapes : List Shape} {other : List Value} (h : Shape.DecodeAll impls shapes data args)
    (h' : Shape.DecodeAll impls shapes data other) : args = other := by
  obtain ⟨ds, hds⟩ := (readArguments_takes h).all
  obtain ⟨es, hes⟩ := (readArguments_takes h').all
  have he := hds.symm.trans hes
  cases he
  rfl

theorem readArguments_exact {E : Failure → Prop} (hE : ∀ e, e.IsMalformed → E e) (hi : impls.Excuses E)
    (shapes : List Shape) : (readArguments impls shapes).Exact E (Shape.DecodeAll impls shapes) := by
  induction shapes with
  | nil => exact .pure .nil
  | cons s rest ih =>
    have hs := s.read_exact hE impls (.inl hi)
    refine .bind hs.takes fun bs v hv => .bind ih fun cs vs hvs => .pure ?_
    obtain ⟨r, hr⟩ := Shape.readAll_of_takes hv.1
    rw [List.append_nil]
    exact .cons hr hvs

/-- The arguments are read to the end of the bytes, or reading them fails. -/
theorem argumentsReading_cases {E : Failure → Prop} (hE : ∀ e, e.IsMalformed → E e) (hi : impls.Excuses E)
    (d : Dispatcher) (m : CallbackMethod) (data : Bytes) :
    (∃ args r, d.argumentsReading m impls (.ofBytes data) = .ok args r ∧
      Shape.DecodeAll impls m.arguments data args) ∨
      ∃ f r, d.argumentsReading m impls (.ofBytes data) = .error f r ∧ E f := by
  obtain ⟨bs, rest, vs, rfl, ht, hd⟩ | ⟨f, r, hf, he⟩ := readArguments_exact hE hi m.arguments [] data []
  · obtain ⟨ds, hds⟩ := ht.ofBytes
    have hread : d.argumentsReading m impls (.ofBytes (bs ++ rest)) = _ :=
      (bind_of_ok (hds rest)).trans (bind_of_ok (remaining_between bs rest ds))
    cases rest with
    | nil =>
      rw [List.append_nil] at hread ⊢
      exact .inl ⟨vs, _, hread, hd⟩
    | cons b rest => exact .inr ⟨_, _, hread, hE _ trivial⟩
  · exact .inr ⟨f, r, bind_of_error hf, he⟩

/-- The arguments are read just if the bytes are theirs to the end. -/
theorem argumentsReading_iff :
    (∃ r, d.argumentsReading m impls (.ofBytes data) = .ok args r) ↔ Shape.DecodeAll impls m.arguments data args := by
  constructor
  · rintro ⟨r, h⟩
    obtain ⟨vs, r', hr, hd⟩ | ⟨f, r', hf, -⟩ := argumentsReading_cases (E := fun _ => True) (fun _ _ => trivial)
      ⟨fun _ => trivial, fun _ _ _ _ => trivial⟩ d m data
    · rw [hr] at h
      cases h
      exact hd
    · rw [hf] at h
      cases h
  · intro h
    obtain ⟨ds, hread⟩ := (readArguments_takes h).all
    exact ⟨_, (bind_of_ok hread).trans (bind_of_ok (remaining_between data [] ds))⟩

end Dispatcher

end ForeignBridge
