import ForeignBridge.Proofs.Callback.Registration
import ForeignBridge.Proofs.Wire.Unraised

/-!
Calls of implementations. A call of a method is counted once and leaves everything a method that was one. A dispatch
looks an implementation up and calls it, if the arguments are decoded; otherwise it calls none.
-/

namespace ForeignBridge

open Act

/-! ### Implementations -/

namespace Implementation

/-- Whether an implementation has a method, which is more than an attribute of that name. -/
def HasMethod (p : Implementation) (name : String) : Prop :=
  ∃ behaviour calls total, Value.lookup name p.attributes = some (.method behaviour calls total)

/-- How often a method was called. -/
def callsOf (p : Implementation) (name : String) : Nat :=
  match Value.lookup name p.attributes with
  | some (.method _ calls _) => calls
  | _ => 0

theorem run_method (b : Behaviour) (calls : Nat) (total : Value) (args : List Value) :
    ∃ after, (Behaviour.run b calls total args).2 = .method b (calls + 1) after := by
  unfold Behaviour.run
  extract_lets calls' act outcome
  clear_value outcome
  cases outcome with
  | ok r => exact ⟨r.2, rfl⟩
  | error f => exact ⟨total, rfl⟩

/-- A call leaves methods methods. -/
theorem HasMethod.call {p : Implementation} {name : String} (h : p.HasMethod name) (called : String)
    (args : List Value) : (p.call called args).2.HasMethod name := by
  unfold Implementation.call
  split
  · exact h
  · exact h
  · rename_i b calls total hc
    obtain ⟨after, hafter⟩ := run_method b calls total args
    dsimp only
    rw [hafter]
    unfold HasMethod
    rw [Value.lookup_put]
    split_ifs
    · exact ⟨_, _, _, rfl⟩
    · exact h

/-- A call of a method counts once, for that method alone. -/
theorem callsOf_call {p : Implementation} {name : String} (h : p.HasMethod name) (args : List Value)
    (other : String) : (p.call name args).2.callsOf other = p.callsOf other + if other = name then 1 else 0 := by
  obtain ⟨b, calls, total, hm⟩ := h
  obtain ⟨after, hafter⟩ := run_method b calls total args
  unfold Implementation.call callsOf
  rw [hm]
  dsimp only
  rw [hafter, Value.lookup_put]
  split_ifs with ho
  · subst ho
    rw [hm]
  · rfl

end Implementation

namespace World

/-- How often a method of an implementation was called. -/
def callsOf (w : World) (id : Nat) (name : String) : Nat := (w.implementations.getD id default).callsOf name

/-- Whether a value stands for an implementation that has the methods of an interface. -/
def Implements (w : World) (i : CallbackInterface) (v : Value) : Prop :=
  ∃ cls id callable p, v = .implementation cls id callable ∧ w.implementations[id]? = some p ∧
    ∀ m ∈ i.methods, p.HasMethod m.implementedBy

/-- From one world to another a method of the implementation behind a value was called once, and nothing else. -/
def CallsOnce (w : World) (v : Value) (name : String) (args : List Value) (w' : World) : Prop :=
  ∃ cls id callable p, v = .implementation cls id callable ∧ w.implementations[id]? = some p ∧
    w'.implementations = w.implementations.set id (p.call name args).2 ∧
    ∀ other method, w'.callsOf other method =
      w.callsOf other method + if other = id ∧ method = name then 1 else 0

/-- Whether implementations have the methods that they had. -/
def KeepsMethods (w w' : World) : Prop := ∀ (id : Nat) (p : Implementation), w.implementations[id]? = some p →
  ∃ p' : Implementation, w'.implementations[id]? = some p' ∧ ∀ name, p.HasMethod name → p'.HasMethod name

namespace KeepsMethods

variable {w w₁ w₂ : World}

theorem of_eq (h : w₁.implementations = w.implementations) : w.KeepsMethods w₁ :=
  fun id p hp => ⟨p, by rw [h, hp], fun _ hm => hm⟩

theorem trans (h : w.KeepsMethods w₁) (h' : w₁.KeepsMethods w₂) : w.KeepsMethods w₂ := by
  intro id p hp
  obtain ⟨p₁, hp₁, hm₁⟩ := h id p hp
  obtain ⟨p₂, hp₂, hm₂⟩ := h' id p₁ hp₁
  exact ⟨p₂, hp₂, fun name hm => hm₂ name (hm₁ name hm)⟩

theorem of_call {id : Nat} {name : String} {args : List Value} (h : w₁.implementations =
    w.implementations.set id ((w.implementations.getD id default).call name args).2) : w.KeepsMethods w₁ := by
  intro i p hp
  have hl := (List.getElem?_eq_some_iff.mp hp).1
  rw [h]
  by_cases hi : id = i
  · subst hi
    have hd : w.implementations.getD id default = p := by
      rw [List.getD_eq_getElem?_getD, hp, Option.getD_some]
    rw [hd]
    exact ⟨_, List.getElem?_set_self hl, fun _ hm => hm.call name args⟩
  · exact ⟨p, by rw [List.getElem?_set_ne hi, hp], fun _ hm => hm⟩

end KeepsMethods

theorem Implements.kept {w w' : World} {i : CallbackInterface} {v : Value} (h : w.Implements i v)
    (hk : w.KeepsMethods w') : w'.Implements i v := by
  obtain ⟨cls, id, callable, p, hv, hp, hm⟩ := h
  obtain ⟨p', hp', hm'⟩ := hk id p hp
  exact ⟨cls, id, callable, p', hv, hp', fun m hi => hm' _ (hm m hi)⟩

end World

namespace Dispatcher

variable {d : Dispatcher} {m : CallbackMethod} {handle : Int} {data : Bytes} {w : World}

/-! ### Reaching an implementation -/

theorem calling_of_dead {f : Failure} (hl : (w.registries.getD d.registry (.new "" 1)).get handle = .error f) :
    d.calling m handle data w = .error f w := by
  refine (bind_of_ok (v := w) rfl).trans (bind_of_error ?_)
  rw [hl]
  rfl

theorem callAttribute_after (impl : Value) (name : String) (args : List Value) (w : World) :
    (callAttribute impl name args).after w =
      match impl with
      | .implementation _ id _ =>
        { w with implementations := w.implementations.set id ((w.implementations.getD id default).call name args).2 }
      | _ => w := by
  unfold callAttribute after
  cases impl
  case implementation cls id callable =>
    dsimp only
    cases ((w.implementations.getD id default).call name args).1 <;> rfl
  all_goals
    dsimp only
    generalize Value.attribute? _ name = found
    cases found <;> rfl

/-- The implementation behind a handle was called with the arguments that the bytes are decoded to, and this came of
it. -/
def Calls (d : Dispatcher) (m : CallbackMethod) (handle : Int) (data : Bytes) (w : World)
    (r : EStateM.Result Failure World Value) : Prop :=
  ∃ impl args, (w.registries.getD d.registry (.new "" 1)).find? handle = some impl ∧
    Shape.DecodeAll w.lookup m.arguments data args ∧ callAttribute impl m.implementedBy args w = r

theorem Calls.unique {r r' : EStateM.Result Failure World Value} (h : d.Calls m handle data w r)
    (h' : d.Calls m handle data w r') : r = r' := by
  obtain ⟨impl, args, hf, ha, rfl⟩ := h
  obtain ⟨impl', args', hf', ha', rfl⟩ := h'
  rw [hf] at hf'
  cases hf'
  rw [decodeAll_unique ha ha']

theorem lookup_excuses (w : World) : w.lookup.Excuses Failure.Unraised where
  unhashable _ := rfl
  unknown registry handle f h := by
    unfold World.lookup HandleTable.get at h
    split at h
    · split at h <;> cases h
      rfl
    · cases h
      rfl

/-- Reaching an implementation calls it, or fails before it is called. -/
theorem calling_reaches (d : Dispatcher) (m : CallbackMethod) (handle : Int) (data : Bytes) (w : World) :
    d.Calls m handle data w (d.calling m handle data w) ∨
      (∀ r, ¬ d.Calls m handle data w r) ∧ ∃ f, f.Unraised ∧ d.calling m handle data w = .error f w := by
  cases hf : (w.registries.getD d.registry (.new "" 1)).find? handle with
  | none =>
    have hl : (w.registries.getD d.registry (.new "" 1)).get handle =
        .error (.unknownHandle handle (w.registries.getD d.registry (.new "" 1)).name) := by
      rw [HandleTable.get, hf]
    refine .inr ⟨?_, .unknownHandle handle _, rfl, calling_of_dead hl⟩
    rintro r ⟨impl, args, hf', -⟩
    rw [hf] at hf'
    cases hf'
  | some impl =>
    have hl : (w.registries.getD d.registry (.new "" 1)).get handle = .ok impl := by
      rw [HandleTable.get, hf]
    obtain ⟨args, r, hr, hd⟩ | ⟨f, r, hr, hE⟩ := argumentsReading_cases (fun _ => Failure.IsMalformed.unraised)
      (lookup_excuses w) d m data
    · exact .inl ⟨impl, args, hf, hd, (calling_of_read hl hr).symm⟩
    · refine .inr ⟨?_, f, hE, calling_of_unread hl hr⟩
      rintro _ ⟨_, args, -, hd, -⟩
      obtain ⟨r', hr'⟩ := argumentsReading_iff.mpr hd
      rw [hr] at hr'
      cases hr'

/-- Reaching an implementation leaves what the call leaves, or leaves all as it is. -/
theorem calling_cases (d : Dispatcher) (m : CallbackMethod) (handle : Int) (data : Bytes) (w : World) :
    (∃ impl args, (w.registries.getD d.registry (.new "" 1)).find? handle = some impl ∧
      Shape.DecodeAll w.lookup m.arguments data args ∧
      (d.calling m handle data).after w = (callAttribute impl m.implementedBy args).after w) ∨
    (∀ impl args, (w.registries.getD d.registry (.new "" 1)).find? handle = some impl →
      ¬ Shape.DecodeAll w.lookup m.arguments data args) ∧ (d.calling m handle data).after w = w := by
  obtain ⟨impl, args, hf, hd, hc⟩ | ⟨hn, f, -, hc⟩ := d.calling_reaches m handle data w
  · refine .inl ⟨impl, args, hf, hd, ?_⟩
    rw [after, ← hc, after]
  · exact .inr ⟨fun impl args hf hd => hn _ ⟨impl, args, hf, hd, rfl⟩, after_of_error hc⟩

/-- Reaching an implementation leaves a view alone that implementations are no part of. -/
theorem calling_keeps {γ : Type} {view : World → γ} (hv : ∀ w i, view { w with implementations := i } = view w)
    (d : Dispatcher) (m : CallbackMethod) (handle : Int) (data : Bytes) : (d.calling m handle data).Keeps view := by
  intro w
  obtain ⟨impl, args, -, -, h⟩ | ⟨-, h⟩ := d.calling_cases m handle data w
  · rw [h, callAttribute_after]
    split
    · exact hv w _
    · rfl
  · rw [h]

/-- Reaching an implementation leaves the registries alone. -/
theorem calling_registries (d : Dispatcher) (m : CallbackMethod) (handle : Int) (data : Bytes) (w : World) :
    ((d.calling m handle data).after w).registries = w.registries :=
  calling_keeps (fun _ _ => rfl) d m handle data w

/-- No dispatch makes a dispatcher or changes one. -/
theorem dispatch_dispatchers (d : Dispatcher) (m : CallbackMethod) (handle : Int) (data : Bytes)
    (initial : DispatchResult) (w : World) :
    ((d.dispatch m handle data initial).after w).dispatchers = w.dispatchers := by
  obtain ⟨log, hr⟩ := d.dispatch_registers m handle data initial w
  have hc : (d.calling m handle data).Keeps World.dispatchers := calling_keeps (fun _ _ => rfl) d m handle data
  exact hr.dispatchers.trans (hc _)

theorem calling_keepsMethods (d : Dispatcher) (m : CallbackMethod) (handle : Int) (data : Bytes) (w : World) :
    w.KeepsMethods ((d.calling m handle data).after w) := by
  obtain ⟨impl, args, -, -, h⟩ | ⟨-, h⟩ := d.calling_cases m handle data w
  · rw [h, callAttribute_after]
    split
    · exact .of_call rfl
    · exact .of_eq rfl
  · exact .of_eq (congrArg World.implementations h)

/-- With its arguments, the implementation that a handle stands for is called once. -/
theorem calling_callsOnce {v : Value} {args : List Value}
    (hv : (w.registries.getD d.registry (.new "" 1)).find? handle = some v)
    (ha : Shape.DecodeAll w.lookup m.arguments data args) (hi : w.Implements d.interface v)
    (hm : m ∈ d.interface.methods) : w.CallsOnce v m.implementedBy args ((d.calling m handle data).after w) := by
  obtain ⟨cls, id, callable, p, rfl, hp, hmethods⟩ := hi
  obtain ⟨hl, hget⟩ := List.getElem?_eq_some_iff.mp hp
  have hd : w.implementations.getD id default = p := by
    rw [List.getD_eq_getElem?_getD, hp, Option.getD_some]
  have hafter : ((d.calling m handle data).after w).implementations =
      w.implementations.set id (p.call m.implementedBy args).2 := by
    obtain ⟨impl, args', hv', ha', h⟩ | ⟨hn, -⟩ := d.calling_cases m handle data w
    · rw [hv] at hv'
      cases hv'
      rw [decodeAll_unique ha' ha] at h
      rw [h, callAttribute_after, ← hd]
    · exact absurd ha (hn _ args hv)
  refine ⟨cls, id, callable, p, rfl, hp, hafter, fun other method => ?_⟩
  unfold World.callsOf
  rw [hafter]
  by_cases ho : other = id
  · subst ho
    rw [List.getD_eq_getElem?_getD, List.getElem?_set_self hl, Option.getD_some, hd,
      Implementation.callsOf_call (hmethods m hm)]
    simp
  · rw [List.getD_eq_getElem?_getD, List.getElem?_set_ne (Ne.symm ho), ← List.getD_eq_getElem?_getD]
    simp [ho]

end Dispatcher

end ForeignBridge
