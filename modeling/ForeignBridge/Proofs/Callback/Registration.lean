import ForeignBridge.Proofs.Callback.Arguments
import ForeignBridge.Proofs.Exchange.Handouts
import ForeignBridge.Proofs.HandleTable

/-!
What a dispatch does besides the call. Lowering a result may register implementations, in any registry; nothing
else of the registries changes, and no implementation is called. So a dispatch calls an implementation once, or
not at all. Freeing a handle removes its entry and does nothing else.
-/

namespace ForeignBridge

open Act

variable {α β : Type}

/-- From one world to another no implementation was called, no dispatcher was made or changed, and things were only
inserted in the registries. -/
structure World.Registers (w w' : World) : Prop where
  implementations : w'.implementations = w.implementations
  dispatchers : w'.dispatchers = w.dispatchers
  tables : ∀ r : Nat, ∃ things, w'.registries[r]? = w.registries[r]?.map (·.insertAll things)

namespace World.Registers

variable {w w₁ w₂ : World}

theorem of_eq (hi : w₁.implementations = w.implementations) (hd : w₁.dispatchers = w.dispatchers)
    (hr : w₁.registries = w.registries) : w.Registers w₁ := by
  refine ⟨hi, hd, fun r => ⟨[], ?_⟩⟩
  rw [hr]
  exact Option.map_id'.symm

theorem refl (w : World) : w.Registers w := of_eq rfl rfl rfl

theorem trans (h : w.Registers w₁) (h' : w₁.Registers w₂) : w.Registers w₂ := by
  refine ⟨h'.implementations.trans h.implementations, h'.dispatchers.trans h.dispatchers, fun r => ?_⟩
  obtain ⟨things, ht⟩ := h.tables r
  obtain ⟨more, hm⟩ := h'.tables r
  refine ⟨things ++ more, ?_⟩
  rw [hm, ht, Option.map_map]
  congr 1
  funext t
  exact List.foldl_append.symm

end World.Registers

/-- An action that calls no implementation and only inserts in the registries. -/
def Act.Registers (x : Act α) : Prop := ∀ w : World, w.Registers (x.after w)

namespace Act.Registers

variable {x : Act α} {f : α → Act β}

theorem pure (a : α) : (Pure.pure a : Act α).Registers := World.Registers.refl

theorem throw (e : Failure) : (MonadExcept.throw e : Act α).Registers := World.Registers.refl

theorem ofExcept (r : Except Failure α) : (MonadExcept.ofExcept r : Act α).Registers := by
  cases r with
  | ok a => exact pure a
  | error e => exact throw e

theorem of_keeps (hi : x.Keeps World.implementations) (hd : x.Keeps World.dispatchers)
    (hr : x.Keeps World.registries) : x.Registers :=
  fun w => .of_eq (hi w) (hd w) (hr w)

/-- What follows an action only registers, if each that may follow does. -/
theorem follow (hf : ∀ a, (f a).Registers) (w : World) : (x.after w).Registers ((x >>= f).after w) := by
  cases hr : x w with
  | ok a w' =>
    have h := hf a w'
    rwa [after_of_ok hr, after, bind_of_ok hr]
  | error e w' =>
    rw [after_of_error hr, after_of_error (bind_of_error hr)]
    exact .refl w'

theorem bind (hx : x.Registers) (hf : ∀ a, (f a).Registers) : (x >>= f).Registers :=
  fun w => (hx w).trans (follow hf w)

theorem note (level : Level) (channel : Channel) (message : String) : (World.note level channel message).Registers :=
  of_keeps (.change fun _ => rfl) (.change fun _ => rfl) (.change fun _ => rfl)

theorem register (registry : Nat) (v : Value) : (register registry v).Registers := by
  intro w
  unfold after ForeignBridge.register
  cases ht : w.registries[registry]? with
  | none => exact .refl w
  | some t =>
    have hset : w.Registers { w with registries := w.registries.set registry (t.insert v).2 } := by
      refine ⟨rfl, rfl, fun r => ?_⟩
      by_cases hr : registry = r
      · subst hr
        have hl := (List.getElem?_eq_some_iff.mp ht).1
        refine ⟨[v], ?_⟩
        rw [List.getElem?_set_self hl, ht]
        rfl
      · refine ⟨[], ?_⟩
        rw [List.getElem?_set_ne hr]
        exact Option.map_id'.symm
    dsimp only
    cases (t.insert v).1 with
    | ok handle => exact hset
    | error e => exact hset

theorem copy (a : Allocator) (data : Bytes) : (a.copy data).Registers := by
  have hi : Apart World.implementations := ⟨fun _ _ => rfl, fun _ _ => rfl, fun _ _ => rfl⟩
  have hd : Apart World.dispatchers := ⟨fun _ _ => rfl, fun _ _ => rfl, fun _ _ => rfl⟩
  have hr : Apart World.registries := ⟨fun _ _ => rfl, fun _ _ => rfl, fun _ _ => rfl⟩
  exact of_keeps (hi.copy a data) (hd.copy a data) (hr.copy a data)

end Act.Registers

namespace Dispatcher

variable {d : Dispatcher} {m : CallbackMethod}

theorem run_registers (p : Piece) : (p.run noObjects).Registers := by
  cases p with
  | raw data => exact .pure data
  | object v => cases v <;> exact .throw _
  | callback registry v =>
    refine (Act.Registers.register registry v).bind fun handle => ?_
    have hb (w : World) := handleBytes_idle handle w
    exact .of_keeps (fun w => congrArg World.implementations (hb w)) (fun w => congrArg World.dispatchers (hb w))
      fun w => congrArg World.registries (hb w)

theorem runPieces_registers (pieces : List Piece) : (runPieces noObjects pieces).Registers := by
  induction pieces with
  | nil => exact .pure []
  | cons p rest ih => exact (run_registers p).bind fun front => ih.bind fun back => .pure _

/-- Sending a value that holds no object only registers. -/
theorem send_registers (s : Shape) (v : Value) : (s.send noObjects v).Registers := by
  have hrun : ((s.write v).run noObjects).Registers := by
    refine (runPieces_registers _).bind fun data => ?_
    cases (s.write v).failure with
    | some f => exact .throw f
    | none => exact .pure data
  exact (Act.Registers.ofExcept _).bind fun _ => hrun

theorem lower_registers (a : Allocator) (s : Shape) (v : Value) : (a.lower noObjects s v).Registers :=
  (send_registers s v).bind fun data => Act.Registers.copy a data

/-- Lowering an implementation registers it. -/
theorem lowerIn_registers (d : Dispatcher) (v : Value) : (d.shape.lowerIn noObjects v).Registers :=
  (Act.Registers.ofExcept _).bind fun _ => (Act.Registers.register d.registry v).bind fun _ => .pure _

theorem expectBuffer_registers (b : Option Buffer) : (expectBuffer b).Registers := by
  cases b with
  | none => exact .throw _
  | some b => exact .pure b

theorem report_registers {make : Act (Option Buffer)} (hm : make.Registers) (code : Int) (codeName : String) :
    (d.report code codeName make).Registers := by
  intro w
  have hb := (hm.bind expectBuffer_registers) w
  unfold after report
  cases hr : (make >>= expectBuffer) w with
  | ok b w' => rwa [after_of_ok hr] at hb
  | error f w' =>
    rw [after_of_error hr] at hb
    dsimp only
    split_ifs
    · exact hb
    · have hn : ((do
          World.note .critical .callbacks s!"Failed to encode {codeName} for {d.interface.name} callback"
          return ⟨CallStatus.unexpectedError, .null⟩ : Act CallStatus)).Registers :=
        (Act.Registers.note _ _ _).bind fun _ => .pure _
      exact hb.trans (hn w')

theorem reportFailure_registers (f : Failure) : (d.reportFailure m f).Registers := by
  refine (Act.Registers.ofExcept _).bind fun declared => ?_
  cases declared with
  | some e => exact report_registers (lower_registers _ _ _) _ _
  | none =>
    have hrest : (do
        ofExcept f.ofTelling
        d.report CallStatus.unexpectedError "UNEXPECTED_ERROR"
          (do d.allocator.copy (← ofExcept (Failure.ofEncoding s!"{f.className}: {f.message}"))) :
        Act CallStatus).Registers := by
      refine (Act.Registers.ofExcept _).bind fun _ => report_registers ?_ _ _
      exact (Act.Registers.ofExcept _).bind fun data => Act.Registers.copy _ data
    dsimp only
    split_ifs
    · exact (Act.Registers.note _ _ _).bind fun _ => hrest
    · exact (Act.Registers.note _ _ _).bind fun _ => hrest

theorem answering_registers (initial : DispatchResult) (r : Except Failure Buffer) :
    (d.answering m initial r).Registers := by
  cases r with
  | ok b => exact .pure _
  | error f =>
    have hreport : (do return ⟨← d.reportFailure m f, initial.returned⟩ : Act DispatchResult).Registers :=
      (reportFailure_registers f).bind fun _ => .pure _
    unfold answering
    dsimp only
    split_ifs
    · exact .bind (.throw f) fun _ => hreport
    · exact hreport

/-- After the call a dispatch only registers. -/
theorem dispatch_registers (m : CallbackMethod) (handle : Int) (data : Bytes) (initial : DispatchResult) (w : World) :
    ∃ log, ((d.calling m handle data).after { w with log := log }).Registers
      ((d.dispatch m handle data initial).after w) := by
  obtain ⟨log, hstart⟩ := dispatch_noted (d := d) m handle data initial w
  refine ⟨log, ?_⟩
  let noted : World := { w with log := log }
  have hperform : ((d.calling m handle data).after noted).Registers ((d.perform m handle data).after noted) := by
    rw [perform_eq]
    apply Act.Registers.follow
    intro result
    cases m.returns with
    | none => exact .pure _
    | some s => exact (lower_registers _ s result).bind expectBuffer_registers
  have hattempt : (World.attempt (d.perform m handle data)).after noted = (d.perform m handle data).after noted := by
    unfold after World.attempt
    cases d.perform m handle data noted <;> rfl
  have hanswer : ((d.perform m handle data).after noted).Registers
      ((World.attempt (d.perform m handle data) >>= d.answering m initial).after noted) := by
    rw [← hattempt]
    exact Act.Registers.follow (answering_registers initial) noted
  have hd : (d.dispatch m handle data initial).after w =
      (World.attempt (d.perform m handle data) >>= d.answering m initial).after noted := by
    rw [after, hstart, after]
  rw [hd]
  exact hperform.trans hanswer

theorem set_getD_self {α : Type} (xs : List α) (n : Nat) (a : α) : xs.set n (xs.getD n a) = xs := by
  rcases Nat.lt_or_ge n xs.length with hlt | hge
  · rw [List.getD_eq_getElem?_getD, List.getElem?_eq_getElem hlt, Option.getD_some]
    exact List.set_getElem_self hlt
  · exact List.set_eq_of_length_le hge

/-- Freeing raises nothing; all it does is to remove the entry, if there is one. -/
theorem free_eq (d : Dispatcher) (handle : Int) (w : World) : ∃ log, d.free handle w = .ok ()
    { w with registries := w.registries.set d.registry ((w.registries.getD d.registry (.new "" 1)).remove handle).2
             log := log } := by
  generalize ht : w.registries.getD d.registry (.new "" 1) = t
  have htable : d.table w = .ok t w := congrArg (EStateM.Result.ok · w) ht
  unfold free
  rw [bind_of_ok htable]
  cases hf : t.find? handle with
  | some v =>
    have hget : t.get handle = .ok v := by rw [HandleTable.get, hf]
    unfold HandleTable.remove
    rw [hget]
    cases d.logDispatch <;> exact ⟨_, rfl⟩
  | none =>
    have hself : w.registries.set d.registry t = w.registries := by
      rw [← ht]
      exact set_getD_self _ _ _
    rw [HandleTable.remove_of_find?_eq_none hf, hself]
    cases d.closed <;> exact ⟨_, rfl⟩

end Dispatcher

end ForeignBridge
