import ForeignBridge.Proofs.Callback.Calls

/-!
Handles over whole runs. A registry is worked on by insertions, removals and clearings, and by dispatches, which
look a handle up and may register what a result holds. Whatever the run, a handle stands for what was inserted
under it and for nothing else, and a dispatch reaches the one implementation that its handle stands for.
-/

namespace ForeignBridge

open Act

/-- One thing done with the registry of a dispatcher. -/
inductive HandleStep
  | insert (v : Value)
  | get (handle : Int)
  | remove (handle : Int)
  | clear
  | dispatch (m : CallbackMethod) (handle : Int) (data : Bytes) (initial : DispatchResult)

inductive HandleAnswer
  | handle (handle : Int)
  | object (v : Value)
  | count (n : Nat)
  | result (r : DispatchResult)

namespace HandleStep

/-- Takes a step and gives the answer to it. -/
def run (d : Dispatcher) : HandleStep → Act HandleAnswer
  | insert v => return .handle (← register d.registry v)
  | get handle => do return .object (← ofExcept ((← d.table).get handle))
  | remove handle => do
    let (r, after) := (← d.table).remove handle
    d.setTable after
    return .object (← ofExcept r)
  | clear => do
    let (count, after) := (← d.table).clear
    d.setTable after
    return .count count
  | dispatch m handle data initial => return .result (← d.dispatch m handle data initial)

/-- What a step does to the entries, as its answer tells; for a dispatch, as the new entries tell. -/
def events (d : Dispatcher) (w : World) : HandleStep → List (HandleEvent Value)
  | insert v =>
    match register d.registry v w with
    | .ok handle _ => [.issued handle v]
    | .error .. => []
  | get _ => []
  | remove handle =>
    match (remove handle).run d w with
    | .ok .. => [.removed handle]
    | .error .. => []
  | clear => [.cleared]
  | dispatch m handle data initial =>
    let entries := ((d.dispatch m handle data initial).after w).entriesIn d.registry
    (entries.drop (w.entriesIn d.registry).length).map fun e => .issued e.1 e.2

end HandleStep

namespace Dispatcher

/-- The world after some steps. -/
def through (d : Dispatcher) (steps : List HandleStep) (w : World) : World :=
  steps.foldl (fun w s => (s.run d).after w) w

/-- What has happened to the entries in some steps. -/
def history (d : Dispatcher) : List HandleStep → World → List (HandleEvent Value)
  | [], _ => []
  | s :: rest, w => s.events d w ++ d.history rest ((s.run d).after w)

theorem history_append (d : Dispatcher) (steps later : List HandleStep) (w : World) :
    d.history (steps ++ later) w = d.history steps w ++ d.history later (d.through steps w) := by
  induction steps generalizing w with
  | nil => rfl
  | cons s rest ih =>
    rw [List.cons_append, history, ih, history, List.append_assoc]
    rfl

/-- The registry of a dispatcher is as its history says. -/
def Follows (d : Dispatcher) (name : String) (first : Int) (history : List (HandleEvent Value)) (w : World) : Prop :=
  ∃ t, w.registries[d.registry]? = some t ∧ t.Follows name first history

variable {d : Dispatcher} {w : World} {t : HandleTable Value} {name : String} {first : Int}
  {history : List (HandleEvent Value)}

/-! ### One step -/

section

variable (ht : w.registries[d.registry]? = some t)
include ht

theorem table_eq : d.table w = .ok t w := by
  have hd : w.registries.getD d.registry (.new "" 1) = t := by
    rw [List.getD_eq_getElem?_getD, ht, Option.getD_some]
  exact congrArg (EStateM.Result.ok · w) hd

theorem setTable_table (t' : HandleTable Value) :
    (w.registries.set d.registry t')[d.registry]? = some t' :=
  List.getElem?_set_self (List.getElem?_eq_some_iff.mp ht).1

theorem setTable_self : { w with registries := w.registries.set d.registry t } = w := by
  obtain ⟨hl, he⟩ := List.getElem?_eq_some_iff.mp ht
  have hs : w.registries.set d.registry t = w.registries := by
    rw [← he]
    exact List.set_getElem_self hl
  rw [hs]

theorem register_eq (v : Value) : register d.registry v w =
    match (t.insert v).1 with
    | .ok handle => .ok handle { w with registries := w.registries.set d.registry (t.insert v).2 }
    | .error f => .error f { w with registries := w.registries.set d.registry (t.insert v).2 } := by
  rcases hi : t.insert v with ⟨r, t'⟩
  cases r with
  | ok handle => simp only [register, ht, hi]
  | error f => simp only [register, ht, hi]

theorem get_run (handle : Int) : (HandleStep.get handle).run d w =
    match t.get handle with
    | .ok v => .ok (.object v) w
    | .error f => .error f w := by
  refine (bind_of_ok (table_eq ht)).trans ?_
  cases t.get handle <;> rfl

theorem remove_run (handle : Int) : (HandleStep.remove handle).run d w =
    match t.get handle with
    | .ok v => .ok (.object v) { w with registries := w.registries.set d.registry (t.remove handle).2 }
    | .error f => .error f { w with registries := w.registries.set d.registry (t.remove handle).2 } := by
  refine (bind_of_ok (table_eq ht)).trans ((bind_of_ok rfl).trans ?_)
  unfold HandleTable.remove
  cases t.get handle <;> rfl

theorem clear_run : HandleStep.clear.run d w =
    .ok (.count t.size) { w with registries := w.registries.set d.registry t.clear.2 } :=
  (bind_of_ok (table_eq ht)).trans (bind_of_ok rfl)

end

/-- A dispatch adds entries, each of them a handle that was given. -/
theorem Follows.dispatch (h : d.Follows name first history w) (m : CallbackMethod) (handle : Int) (data : Bytes)
    (initial : DispatchResult) : ∃ new,
      ((d.dispatch m handle data initial).after w).entriesIn d.registry = w.entriesIn d.registry ++ new ∧
      d.Follows name first (history ++ new.map fun e => .issued e.1 e.2)
        ((d.dispatch m handle data initial).after w) := by
  obtain ⟨t, ht, hf⟩ := h
  obtain ⟨log, hr⟩ := d.dispatch_registers m handle data initial w
  obtain ⟨things, htable⟩ := hr.tables d.registry
  rw [calling_registries, ht, Option.map_some] at htable
  obtain ⟨new, hnew, hfollows⟩ := hf.insertAll things
  refine ⟨new, ?_, _, htable, hfollows⟩
  rw [World.entriesIn, htable, World.entriesIn, ht]
  exact hnew

theorem insert_after (v : Value) (w : World) :
    ((HandleStep.insert v).run d).after w = (register d.registry v).after w :=
  after_bind_idle (fun handle => .pure (HandleAnswer.handle handle)) w

theorem dispatch_after (m : CallbackMethod) (handle : Int) (data : Bytes) (initial : DispatchResult) (w : World) :
    ((HandleStep.dispatch m handle data initial).run d).after w = (d.dispatch m handle data initial).after w :=
  after_bind_idle (fun r => .pure (HandleAnswer.result r)) w

/-- A step leaves the registry as the history with the step says. -/
theorem Follows.step (h : d.Follows name first history w) (s : HandleStep) :
    d.Follows name first (history ++ s.events d w) ((s.run d).after w) := by
  obtain ⟨t, ht, hf⟩ := h
  cases s with
  | insert v =>
    have hr := register_eq ht v
    rw [insert_after]
    obtain ⟨-, hi, -, hf'⟩ | ⟨-, hi, -, hf'⟩ := hf.insert v
    · rw [hi] at hr
      rw [HandleStep.events, hr, after_of_ok hr]
      exact ⟨_, setTable_table ht _, hf'⟩
    · rw [hi] at hr
      rw [HandleStep.events, hr, after_of_error hr, List.append_nil]
      exact ⟨_, setTable_table ht _, hf'⟩
  | get handle =>
    have ha : ((HandleStep.get handle).run d).after w = w := by
      rw [after, get_run ht handle]
      cases t.get handle <;> rfl
    rw [ha, HandleStep.events, List.append_nil]
    exact ⟨t, ht, hf⟩
  | remove handle =>
    have hr := remove_run ht handle
    cases hg : t.find? handle with
    | some v =>
      have hok : t.get handle = .ok v := by rw [HandleTable.get, hg]
      rw [hok] at hr
      rw [HandleStep.events, hr, after_of_ok hr]
      exact ⟨_, setTable_table ht _, hf.remove handle⟩
    | none =>
      have herror : t.get handle = .error (.unknownHandle handle t.name) := by rw [HandleTable.get, hg]
      rw [herror, HandleTable.remove_of_find?_eq_none hg, setTable_self ht] at hr
      rw [HandleStep.events, hr, after_of_error hr, List.append_nil]
      exact ⟨t, ht, hf⟩
  | clear =>
    rw [after_of_ok (clear_run ht)]
    exact ⟨_, setTable_table ht _, hf.clear⟩
  | dispatch m handle data initial =>
    obtain ⟨new, hnew, hf'⟩ := Follows.dispatch ⟨t, ht, hf⟩ m handle data initial
    rw [dispatch_after, HandleStep.events, hnew, List.drop_left]
    exact hf'

theorem table_keeps {γ : Type} {view : World → γ} : d.table.Keeps view := .bind .read fun _ => .pure _

theorem setTable_keeps (t : HandleTable Value) : (d.setTable t).Keeps World.implementations :=
  .change fun _ => rfl

theorem ofExcept_keeps {γ : Type} {view : World → γ} (r : Except Failure Value) (f : Value → HandleAnswer) :
    (do return f (← ofExcept r) : Act HandleAnswer).Keeps view := by
  cases r with
  | ok v => exact .bind (.pure v) fun _ => .pure _
  | error e => exact .bind (.throw e) fun _ => .pure _

/-- No step makes an implementation lose a method. -/
theorem step_keepsMethods (s : HandleStep) (w : World) : w.KeepsMethods ((s.run d).after w) := by
  cases s with
  | insert v =>
    rw [insert_after]
    exact .of_eq (Act.Registers.register d.registry v w).implementations
  | get handle =>
    have hk : ((HandleStep.get handle).run d).Keeps World.implementations :=
      .bind table_keeps fun t => ofExcept_keeps _ _
    exact .of_eq (hk w)
  | remove handle =>
    have hk : ((HandleStep.remove handle).run d).Keeps World.implementations :=
      .bind table_keeps fun t => .bind (setTable_keeps _) fun _ => ofExcept_keeps _ _
    exact .of_eq (hk w)
  | clear =>
    have hk : (HandleStep.clear.run d).Keeps World.implementations :=
      .bind table_keeps fun t => .bind (setTable_keeps _) fun _ => .pure _
    exact .of_eq (hk w)
  | dispatch m handle data initial =>
    obtain ⟨log, hr⟩ := d.dispatch_registers m handle data initial w
    have hc := d.calling_keepsMethods m handle data { w with log := log }
    rw [dispatch_after]
    exact hc.trans (.of_eq hr.implementations)

/-! ### Runs -/

theorem Follows.run (h : d.Follows name first history w) (steps : List HandleStep) :
    d.Follows name first (history ++ d.history steps w) (d.through steps w) := by
  induction steps generalizing history w with
  | nil =>
    rw [Dispatcher.history, List.append_nil]
    exact h
  | cons s rest ih =>
    have hs := ih (h.step s)
    rw [List.append_assoc] at hs
    exact hs

theorem through_keepsMethods (steps : List HandleStep) (w : World) : w.KeepsMethods (d.through steps w) := by
  induction steps generalizing w with
  | nil => exact .of_eq rfl
  | cons s rest ih => exact (step_keepsMethods s w).trans (ih _)

/-- The next handle is given, unless there is none left. -/
theorem Follows.register (h : d.Follows name first history w) (v : Value) :
    (first + (issuedIn history).length ≤ maxHandle ∧
      ∃ w', register d.registry v w = .ok (first + (issuedIn history).length) w') ∨
    (maxHandle < first + (issuedIn history).length ∧
      ∃ w', register d.registry v w = .error (.handlesExhausted name) w' ∧
        w'.entriesIn d.registry = w.entriesIn d.registry) := by
  obtain ⟨t, ht, hf⟩ := h
  have hr := register_eq ht v
  obtain ⟨hmax, hins, -, -⟩ | ⟨hmax, hins, he, -⟩ := hf.insert v
  · rw [hins] at hr
    exact .inl ⟨hmax, _, hr⟩
  · rw [hins] at hr
    refine .inr ⟨hmax, _, hr, ?_⟩
    rw [World.entriesIn_set ht, if_pos rfl, World.entriesIn, ht]
    exact he

/-- What a registry and its dispatcher do next, given what has happened to the entries. -/
structure Isolates (d : Dispatcher) (name : String) (first : Int) (history : List (HandleEvent Value)) (w : World) :
    Prop where
  increasing : (issuedIn history).Pairwise (· < ·)
  range : ∀ handle ∈ issuedIn history, first ≤ handle ∧ handle ≤ maxHandle
  insert : ∀ v,
    (first + (issuedIn history).length ≤ maxHandle ∧
      ∃ w', register d.registry v w = .ok (first + (issuedIn history).length) w') ∨
    (maxHandle < first + (issuedIn history).length ∧
      ∃ w', register d.registry v w = .error (.handlesExhausted name) w' ∧
        w'.entriesIn d.registry = w.entriesIn d.registry)
  get : ∀ handle, (HandleStep.get handle).run d w =
    match holderIn history handle with
    | some v => .ok (.object v) w
    | none => .error (.unknownHandle handle name) w
  remove : ∀ handle,
    match holderIn history handle with
    | some v => ∃ w', (HandleStep.remove handle).run d w = .ok (.object v) w'
    | none => (HandleStep.remove handle).run d w = .error (.unknownHandle handle name) w
  /-- entries that are new after a dispatch stand behind all others -/
  adds : ∀ m handle data initial, ∃ new,
    ((d.dispatch m handle data initial).after w).entriesIn d.registry = w.entriesIn d.registry ++ new
  reaches : ∀ m ∈ d.interface.methods, ∀ handle data initial v args, holderIn history handle = some v →
    Shape.DecodeAll w.lookup m.arguments data args →
    w.CallsOnce v m.implementedBy args ((d.dispatch m handle data initial).after w)
  misses : ∀ m handle data initial,
    (∀ v args, holderIn history handle = some v → ¬ Shape.DecodeAll w.lookup m.arguments data args) →
    ((d.dispatch m handle data initial).after w).implementations = w.implementations

theorem Follows.isolates (h : d.Follows name first history w)
    (hi : ∀ handle v, .issued handle v ∈ history → w.Implements d.interface v) :
    d.Isolates name first history w := by
  obtain ⟨t, ht, hf⟩ := h
  have hd : w.registries.getD d.registry (.new "" 1) = t := by
    rw [List.getD_eq_getElem?_getD, ht, Option.getD_some]
  refine ⟨hf.increasing, fun handle hm => ⟨(hf.mem_range hm).1, hf.fits handle hm⟩, ?_, ?_, ?_, ?_, ?_, ?_⟩
  · exact Follows.register ⟨t, ht, hf⟩
  · intro handle
    rw [get_run ht, hf.get]
    cases holderIn history handle <;> rfl
  · intro handle
    have hr := remove_run ht handle
    rw [hf.get] at hr
    cases hh : holderIn history handle with
    | some v =>
      rw [hh] at hr
      exact ⟨_, hr⟩
    | none =>
      have hnone : t.find? handle = none := (hf.entries handle).trans hh
      rw [hh, HandleTable.remove_of_find?_eq_none hnone, setTable_self ht] at hr
      exact hr
  · intro m handle data initial
    obtain ⟨new, hnew, -⟩ := Follows.dispatch ⟨t, ht, hf⟩ m handle data initial
    exact ⟨new, hnew⟩
  · intro m hm handle data initial v args hh ha
    obtain ⟨log, hr⟩ := d.dispatch_registers m handle data initial w
    let noted : World := { w with log := log }
    have hv : (noted.registries.getD d.registry (.new "" 1)).find? handle = some v := by
      rw [← hf.entries, ← hd] at hh
      exact hh
    have himpl : noted.Implements d.interface v := hi handle v (issued_mem_of_holderIn hh)
    obtain ⟨cls, id, callable, p, he, hp, hset, hcalls⟩ := calling_callsOnce (w := noted) hv ha himpl hm
    refine ⟨cls, id, callable, p, he, hp, hr.implementations.trans hset, fun other method => ?_⟩
    rw [World.callsOf, hr.implementations]
    exact hcalls other method
  · intro m handle data initial hmiss
    obtain ⟨log, hr⟩ := d.dispatch_registers m handle data initial w
    obtain ⟨impl, args, hv, ha, -⟩ | ⟨-, hc⟩ := d.calling_cases m handle data { w with log := log }
    · refine absurd ha (hmiss impl args ?_)
      rw [← hf.entries, ← hd]
      exact hv
    · rw [hr.implementations, hc]

/-- Handles are isolated from each other over whole runs, from a new registry on, if all that is inserted has the
methods of the interface: whatever has happened, what comes next is as the history says; and once the handles have
run out there is none for anything inserted later. -/
theorem handle_isolation (hw : w.registries[d.registry]? = some (.new name first)) (steps : List HandleStep)
    (hi : ∀ handle v, .issued handle v ∈ d.history steps w → w.Implements d.interface v) :
    d.Isolates name first (d.history steps w) (d.through steps w) ∧
      ∀ v f w₁, register d.registry v (d.through steps w) = .error f w₁ → ∀ later v', ∃ w₂,
        register d.registry v' (d.through (steps ++ later) w) = .error (.handlesExhausted name) w₂ ∧
          w₂.entriesIn d.registry = (d.through (steps ++ later) w).entriesIn d.registry := by
  have hstart : d.Follows name first [] w := ⟨_, hw, .new name first⟩
  have hfollows : d.Follows name first (d.history steps w) (d.through steps w) := hstart.run steps
  constructor
  · apply hfollows.isolates
    intro handle v hm
    exact (hi handle v hm).kept (through_keepsMethods steps w)
  · intro v f w₁ hf later v'
    have hlater : d.Follows name first (d.history (steps ++ later) w) (d.through (steps ++ later) w) :=
      hstart.run (steps ++ later)
    have hmore : (issuedIn (d.history steps w)).length ≤ (issuedIn (d.history (steps ++ later) w)).length := by
      rw [history_append, issuedIn_append, List.length_append]
      exact Nat.le_add_right _ _
    obtain ⟨-, w', hr⟩ | ⟨hmax, -⟩ := hfollows.register v
    · rw [hf] at hr
      cases hr
    · obtain ⟨hfit, -⟩ | ⟨-, hr⟩ := hlater.register v'
      · omega
      · exact hr

/-- A dispatcher of an interface with one method. -/
def bell : Dispatcher :=
  { interface := ⟨"Bell", [⟨"ring", [.integer .int8], none, none, none⟩]⟩, registry := 0, logDispatch := false,
    library := none, installed := false, closed := false }

def ringer : Value := .implementation "Ringer" 0 ["ring"]

/-- A world with an implementation that can ring, and one handle left. -/
def bellWorld : World :=
  { World.new [] with
    registries := [.new "Bell" maxHandle]
    implementations := [⟨"Ringer", [("ring", .method ⟨none, .countCalls⟩ 0 (.int 0))]⟩] }

theorem handle_isolation_bell :
    bellWorld.registries[bell.registry]? = some (.new "Bell" maxHandle) ∧
      (∀ handle v, .issued handle v ∈ bell.history [.insert ringer] bellWorld →
        bellWorld.Implements bell.interface v) ∧
      (∀ m ∈ bell.interface.methods, ((bell.dispatch m maxHandle [7] ⟨.fresh, .null⟩).after
        (bell.through [.insert ringer] bellWorld)).callsOf 0 "ring" = 1) ∧
      ∃ w', register 0 ringer (bell.through [.insert ringer] bellWorld) = .error (.handlesExhausted "Bell") w' := by
  have himpl : bellWorld.Implements bell.interface ringer := by
    refine ⟨_, _, _, _, rfl, rfl, ?_⟩
    intro m hm
    rw [List.mem_singleton.mp hm]
    exact ⟨_, _, _, rfl⟩
  have hi : ∀ handle v, .issued handle v ∈ bell.history [.insert ringer] bellWorld →
      bellWorld.Implements bell.interface v := by
    intro handle v hm
    have hv : HandleEvent.issued handle v = .issued maxHandle ringer := List.mem_singleton.mp hm
    cases hv
    exact himpl
  have hw : bellWorld.registries[bell.registry]? = some (.new "Bell" maxHandle) := rfl
  obtain ⟨h, -⟩ := handle_isolation hw [.insert ringer] hi
  refine ⟨hw, hi, ?_, ?_⟩
  · intro m hm
    have ha : Shape.DecodeAll (bell.through [.insert ringer] bellWorld).lookup m.arguments [7] [.int 7] := by
      rw [List.mem_singleton.mp hm, ← List.append_nil [7]]
      exact .cons rfl .nil
    obtain ⟨cls, id, callable, p, he, -, -, hcalls⟩ :=
      h.reaches m hm maxHandle [7] ⟨.fresh, .null⟩ ringer [.int 7] rfl ha
    cases he
    rw [hcalls, List.mem_singleton.mp hm]
    rfl
  · obtain ⟨hfit, -⟩ | ⟨-, w', hr, -⟩ := h.insert ringer
    · exact absurd hfit (by decide)
    · exact ⟨w', hr⟩

end Dispatcher

end ForeignBridge
