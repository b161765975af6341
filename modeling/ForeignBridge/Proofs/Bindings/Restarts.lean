import ForeignBridge.Proofs.Bindings.Traces

/-!
Handles over the whole life of bindings, with any number of restarts. A dispatcher never gives a handle twice, and
what it gave before a shutdown stands for nothing after it. But a name may have several dispatchers, one after the
other, and each of them counts from one.
-/

namespace ForeignBridge

open Act

/-- Does something with a dispatcher that was made, which is named by its number. -/
def World.through {α : Type} (w : World) (id : Nat) (x : Dispatcher → Act α) : World :=
  match w.dispatchers[id]? with
  | some d => (x d).after w
  | none => w

/-- One thing done with bindings, or with one of the dispatchers. -/
inductive BindingsStep
  | start
  | register (i : CallbackInterface)
  | install (id : Nat)
  | lower (id : Nat) (v : Value)
  | free (id : Nat) (handle : Int)
  | dispatch (id : Nat) (m : CallbackMethod) (handle : Int) (data : Bytes) (initial : DispatchResult)
  | shutdown

namespace BindingsStep

/-- The bindings and the world after a step, whether it failed or not. -/
def run (b : Bindings) (w : World) : BindingsStep → Bindings × World
  | start => b.settled b.start w
  | register i => b.settled (b.register i) w
  | install id => (b, w.through id fun _ => Dispatcher.install id)
  | lower id v => (b, w.through id fun d => d.shape.lowerIn Dispatcher.noObjects v)
  | free id handle => (b, w.through id fun d => d.free handle)
  | dispatch id m handle data initial => (b, w.through id fun d => d.dispatch m handle data initial)
  | shutdown => b.settled b.shutdown w

/-- What a step does to the entries of a dispatcher's registry. -/
def events (b : Bindings) (w : World) (id : Nat) (s : BindingsStep) : List (HandleEvent Value) :=
  match s with
  | free n handle => if id = n ∧ n < w.owners.length then [.removed handle] else []
  | shutdown => if b.started ∧ id ∈ b.dispatchers.map Prod.snd then [.cleared] else []
  | s => w.issues (s.run b w).2 id

end BindingsStep

namespace Bindings

/-- The bindings and the world after some steps. -/
def through (steps : List BindingsStep) (s : Bindings × World) : Bindings × World :=
  steps.foldl (fun s step => step.run s.1 s.2) s

/-- What has happened to the entries of a dispatcher's registry in some steps. -/
def history : List BindingsStep → Bindings × World → Nat → List (HandleEvent Value)
  | [], _, _ => []
  | step :: rest, s, id => step.events s.1 s.2 id ++ history rest (step.run s.1 s.2) id

theorem history_append (steps later : List BindingsStep) (s : Bindings × World) (id : Nat) :
    history (steps ++ later) s id = history steps s id ++ history later (through steps s) id := by
  induction steps generalizing s with
  | nil => rfl
  | cons step rest ih =>
    rw [List.cons_append, history, ih, history, List.append_assoc]
    rfl

/-- The dispatchers that were registered are there under their names, and no name is registered twice. -/
structure Registered (b : Bindings) (first : Nat) (w : World) : Prop where
  made : ∀ e ∈ b.dispatchers, first ≤ e.2 ∧ ∃ r, w.owners[e.2]? = some (e.1, r)
  names : (b.dispatchers.map Prod.fst).Nodup

variable {b b' : Bindings} {w w' : World} {first id r : Nat} {name : String}
  {history : Nat → List (HandleEvent Value)}

theorem Registered.ids (h : b.Registered first w) : (b.dispatchers.map Prod.snd).Nodup := by
  have hn := List.pairwise_map.mp h.names
  apply List.pairwise_map.mpr
  apply hn.imp_of_mem
  intro e e' he he' hne heq
  obtain ⟨-, r, hr⟩ := h.made e he
  obtain ⟨-, r', hr'⟩ := h.made e' he'
  rw [heq, hr'] at hr
  exact hne (congrArg Prod.fst (Option.some.inj hr)).symm

theorem Registered.of_eq (h : b.Registered first w) (hb : b'.dispatchers = b.dispatchers) (ho : w'.owners = w.owners) :
    b'.Registered first w' := by
  constructor
  · rw [hb, ho]
    exact h.made
  · rw [hb]
    exact h.names

end Bindings

/-! ### What a step does -/

namespace Dispatcher

theorem ofId_eq {w : World} {id : Nat} {d : Dispatcher} (hd : w.dispatchers[id]? = some d) : ofId id w = .ok d w := by
  have hget : w.dispatchers.getD id default = d := by
    rw [List.getD_eq_getElem?_getD, hd, Option.getD_some]
  exact congrArg (EStateM.Result.ok · w) hget

theorem free_owners (d : Dispatcher) (handle : Int) (w : World) : ((d.free handle).after w).owners = w.owners := by
  obtain ⟨log, hfree⟩ := d.free_eq handle w
  rw [after_of_ok hfree]
  rfl

/-- A vtable that was taken is not handed over again. Another one may be missing, or refused, or is taken. -/
theorem install_cases {w : World} {id : Nat} {d : Dispatcher} (hd : w.dispatchers[id]? = some d)
    (taken : Except Failure Unit) :
    d.installed = true ∧ install id taken w = .ok () w ∨
    (d.installed = false ∧ ∃ f, install id taken w = .error f w) ∨
    (d.installed = false ∧ ∃ f, taken = .error f ∧
      install id taken w = .error f { w with installs := w.installs + 1 }) ∨
    d.installed = false ∧ taken = .ok () ∧ ∃ log,
      install id taken w = .ok () { w with installs := w.installs + 1, log := log
                                           dispatchers := w.dispatchers.set id { d with installed := true } } := by
  unfold install
  rw [bind_of_ok (ofId_eq hd)]
  cases hi : d.installed with
  | true => exact .inl ⟨rfl, rfl⟩
  | false =>
    unfold requireVtable
    cases hm : (d.interface.method? CallbackInterface.freeName).isSome with
    | true => exact .inr (.inl ⟨rfl, _, rfl⟩)
    | false =>
      cases taken with
      | error f => exact .inr (.inr (.inl ⟨rfl, f, rfl, rfl⟩))
      | ok _ => exact .inr (.inr (.inr ⟨rfl, rfl, _, rfl⟩))

/-- Closing tells how many entries there were, drops them and marks the dispatcher. -/
theorem close_eq {w : World} {id : Nat} {d : Dispatcher} {t : HandleTable Value} (hd : w.dispatchers[id]? = some d)
    (ht : w.registries[d.registry]? = some t) :
    close id w = .ok t.size { w with registries := w.registries.set d.registry t.clear.2
                                     dispatchers := w.dispatchers.set id { d with closed := true } } :=
  (bind_of_ok (ofId_eq hd)).trans ((bind_of_ok (table_eq ht)).trans rfl)

end Dispatcher

/-- From one world to another no dispatcher was made, and things were only inserted in the registries. -/
structure World.Adds (w w' : World) : Prop where
  owners : w'.owners = w.owners
  tables : ∀ r : Nat, ∃ things, w'.registries[r]? = w.registries[r]?.map (·.insertAll things)

namespace World.Adds

variable {w w' : World} {id : Nat} {d : Dispatcher}

theorem of_eq (ho : w'.owners = w.owners) (hr : w'.registries = w.registries) : w.Adds w' := by
  refine ⟨ho, fun r => ⟨[], ?_⟩⟩
  rw [hr]
  exact Option.map_id'.symm

theorem refl (w : World) : w.Adds w := of_eq rfl rfl

theorem of_registers (h : w.Registers w') : w.Adds w' := by
  refine ⟨?_, h.tables⟩
  rw [World.owners, World.owners, h.dispatchers]

theorem through {α : Type} {x : Dispatcher → Act α} (h : ∀ d, w.dispatchers[id]? = some d → w.Adds ((x d).after w)) :
    w.Adds (w.through id x) := by
  unfold World.through
  split
  · rename_i d hd
    exact h d hd
  · exact refl w

theorem owners_set (hd : w.dispatchers[id]? = some d) (d' : Dispatcher) (hi : d'.interface = d.interface)
    (hr : d'.registry = d.registry) : { w with dispatchers := w.dispatchers.set id d' }.owners = w.owners := by
  obtain ⟨hlt, rfl⟩ := List.getElem?_eq_some_iff.mp hd
  unfold World.owners
  dsimp only
  rw [List.map_set, hi, hr]
  apply List.ext_getElem
  · exact List.length_set
  · intro n hn hn'
    rw [List.getElem_set]
    split_ifs with he
    · subst he
      rw [List.getElem_map]
    · rfl

theorem install_kept (hd : w.dispatchers[id]? = some d) (taken : Except Failure Unit) :
    ((Dispatcher.install id taken).after w).owners = w.owners ∧
      ((Dispatcher.install id taken).after w).registries = w.registries := by
  obtain ⟨-, h⟩ | ⟨-, f, h⟩ | ⟨-, f, -, h⟩ | ⟨-, -, log, h⟩ := Dispatcher.install_cases hd taken
  · rw [after_of_ok h]
    exact ⟨rfl, rfl⟩
  · rw [after_of_error h]
    exact ⟨rfl, rfl⟩
  · rw [after_of_error h]
    exact ⟨rfl, rfl⟩
  · rw [after_of_ok h]
    exact ⟨owners_set hd { d with installed := true } rfl rfl, rfl⟩

theorem install (hd : w.dispatchers[id]? = some d) {taken : Except Failure Unit} :
    w.Adds ((Dispatcher.install id taken).after w) :=
  of_eq (install_kept hd taken).1 (install_kept hd taken).2

theorem lower (d : Dispatcher) (v : Value) (w : World) : w.Adds ((d.shape.lowerIn Dispatcher.noObjects v).after w) :=
  of_registers (d.lowerIn_registers v w)

theorem dispatch (d : Dispatcher) (m : CallbackMethod) (handle : Int) (data : Bytes) (initial : DispatchResult)
    (w : World) : w.Adds ((d.dispatch m handle data initial).after w) := by
  obtain ⟨log, hr⟩ := d.dispatch_registers m handle data initial w
  have ho : (d.calling m handle data).Keeps World.owners := Dispatcher.calling_keeps (fun _ _ => rfl) d m handle data
  have hcalled : w.Adds ((d.calling m handle data).after { w with log := log }) :=
    of_eq (ho _) (d.calling_registries m handle data { w with log := log })
  have hsent := of_registers hr
  refine ⟨hsent.owners.trans hcalled.owners, fun r => ?_⟩
  obtain ⟨things, ht⟩ := hsent.tables r
  refine ⟨things, ?_⟩
  rw [ht, d.calling_registries]

theorem start (b : Bindings) (w : World) : w.Adds (b.settled b.start w).2 := by
  have ho : Aside World.owners := ⟨fun _ _ => rfl, fun _ _ => rfl⟩
  have hr : Aside World.registries := ⟨fun _ _ => rfl, fun _ _ => rfl⟩
  rw [Bindings.settled_world]
  exact of_eq (ho.start b w) (hr.start b w)

end World.Adds

namespace World.Traced

variable {w : World} {first id : Nat} {d : Dispatcher} {history : Nat → List (HandleEvent Value)}

theorem adds {w' : World} (h : w.Traced first history) (ha : w.Adds w') :
    w'.Traced first fun id => history id ++ w.issues w' id :=
  h.inserted ha.owners ha.tables

theorem owners_getElem? (hd : w.dispatchers[id]? = some d) : w.owners[id]? = some (d.interface.name, d.registry) := by
  rw [World.owners, List.getElem?_map, hd]
  rfl

theorem table (h : w.Traced first history) (hd : w.dispatchers[id]? = some d) :
    ∃ t, w.registries[d.registry]? = some t := by
  have hm := List.mem_of_getElem? (owners_getElem? hd)
  exact ⟨_, List.getElem?_eq_getElem (h.separate.present _ hm)⟩

theorem free (h : w.Traced first history) (hd : w.dispatchers[id]? = some d) (handle : Int) :
    ((d.free handle).after w).Traced first fun n => history n ++ if n = id then [.removed handle] else [] := by
  obtain ⟨t, ht⟩ := h.table hd
  obtain ⟨log, hfree⟩ := d.free_eq handle w
  rw [List.getD_eq_getElem?_getD, ht, Option.getD_some] at hfree
  rw [after_of_ok hfree]
  exact h.set (owners_getElem? hd) ht rfl rfl fun _ hf => hf.remove handle

theorem close (h : w.Traced first history) (hd : w.dispatchers[id]? = some d) :
    ∃ count w', Dispatcher.close id w = .ok count w' ∧ w'.owners = w.owners ∧
      w'.Traced first fun n => history n ++ if n = id then [.cleared] else [] := by
  obtain ⟨t, ht⟩ := h.table hd
  have ho := World.Adds.owners_set hd { d with closed := true } rfl rfl
  exact ⟨t.size, _, Dispatcher.close_eq hd ht, ho, h.set (owners_getElem? hd) ht ho rfl fun _ hf => hf.clear⟩

end World.Traced

namespace Bindings

variable {b : Bindings} {w : World} {first : Nat} {history : Nat → List (HandleEvent Value)}

/-- The line that tells of entries that are left. -/
def leakWarning (e : String × Nat) : LogEntry :=
  ⟨.warning, .runtime, s!"{e.2} {e.1} callback handle(s) were never freed"⟩

/-- The first of several dispatchers is closed before the others. -/
theorem closeAll_cons {warn : Bool} {name : String} {id count : Nat} {rest : List (String × Nat)} {w w' : World}
    (h : Dispatcher.close id w = .ok count w') :
    closeAll warn ((name, id) :: rest) w = (do
      let leaked ← closeAll warn rest
      return if count = 0 then leaked else (name, count) :: leaked : Act (List (String × Nat)))
      { w' with log := w'.log ++ if count ≠ 0 && warn then [leakWarning (name, count)] else [] } := by
  rw [closeAll, bind_of_ok h]
  by_cases hw : (count ≠ 0 && warn) = true
  · rw [if_pos hw, if_pos hw]
    exact bind_of_ok rfl
  · rw [if_neg hw, if_neg hw, List.append_nil]

theorem closeAll_traced (warn : Bool) {made : List (String × Nat)} (h : w.Traced first history)
    (hm : ∀ e ∈ made, ∃ r, w.owners[e.2]? = some (e.1, r)) (hn : (made.map Prod.snd).Nodup) :
    ∃ leaked w', closeAll warn made w = .ok leaked w' ∧ w'.owners = w.owners ∧
      w'.Traced first fun n => history n ++ if n ∈ made.map Prod.snd then [.cleared] else [] := by
  induction made generalizing w history with
  | nil => exact ⟨[], w, rfl, rfl, h.congr fun n => List.append_nil _⟩
  | cons e rest ih =>
    obtain ⟨name, id⟩ := e
    obtain ⟨hnot, hrest⟩ := List.nodup_cons.mp hn
    obtain ⟨r, hr⟩ := hm (name, id) List.mem_cons_self
    obtain ⟨d, hd, -⟩ := Option.map_eq_some_iff.mp ((List.getElem?_map ..).symm.trans hr)
    obtain ⟨count, w₁, hclose, ho₁, h₁⟩ := h.close hd
    -- a line may be written in between
    let noted : World :=
      { w₁ with log := w₁.log ++ if count ≠ 0 && warn then [leakWarning (name, count)] else [] }
    have ho : noted.owners = w.owners := ho₁
    have hnoted : noted.Traced first fun n => history n ++ if n = id then [.cleared] else [] := h₁.of_eq rfl rfl
    obtain ⟨leaked, w₂, hall, ho₂, h₂⟩ := ih hnoted (fun e he => by
      rw [ho]
      exact hm e (List.mem_cons_of_mem _ he)) hrest
    refine ⟨_, w₂, (closeAll_cons hclose).trans (bind_of_ok hall), ho₂.trans ho, h₂.congr fun n => ?_⟩
    rw [List.append_assoc, List.map_cons]
    by_cases hid : n = id
    · subst hid
      rw [if_pos List.mem_cons_self, if_pos rfl, if_neg hnot, List.append_nil]
    · simp only [List.mem_cons, hid, false_or, if_false, List.nil_append]

/-- A shutdown clears all registries of the dispatchers that were registered, and forgets them. -/
theorem shutdown_traced (hb : b.Registered first w) (h : w.Traced first history) :
    (b.settled b.shutdown w).2.owners = w.owners ∧
      (b.settled b.shutdown w).1.Registered first (b.settled b.shutdown w).2 ∧
      (b.settled b.shutdown w).2.Traced first fun n =>
        history n ++ if b.started ∧ n ∈ b.dispatchers.map Prod.snd then [.cleared] else [] := by
  cases hs : b.started with
  | false =>
    have hidle : b.shutdown w = .ok ([], b) w := by
      unfold shutdown
      rw [hs]
      rfl
    rw [settled_of_ok hidle]
    exact ⟨rfl, hb, h.congr fun n => by simp⟩
  | true =>
    obtain ⟨leaked, w', hall, ho, h'⟩ := closeAll_traced b.config.callbacks.value.warnOnLeakedHandles.value h
      (fun e he => (hb.made e he).2) hb.ids
    have hshutdown : ∃ log, b.shutdown w =
        .ok (leaked, { b with started := false, dispatchers := [] }) { w' with log := log } := by
      unfold shutdown
      rw [hs]
      exact ⟨w'.log ++ [⟨.info, .runtime, "FFI runtime shutdown complete"⟩], (bind_of_ok hall).trans rfl⟩
    obtain ⟨log, hshutdown⟩ := hshutdown
    have hnoted : World.Traced { w' with log := log } first _ := h'.of_eq rfl rfl
    rw [settled_of_ok hshutdown]
    refine ⟨ho, ⟨nofun, List.nodup_nil⟩, hnoted.congr fun n => ?_⟩
    congr 1
    exact if_congr (and_iff_right rfl) rfl rfl

end Bindings

/-! ### Runs -/

namespace Bindings

/-- Bindings and a world in which the registered dispatchers are there, and the registries are as their histories
say. -/
structure InOrder (first : Nat) (history : Nat → List (HandleEvent Value)) (s : Bindings × World) : Prop where
  fits : first ≤ s.2.owners.length
  registered : s.1.Registered first s.2
  traced : s.2.Traced first history

variable {s : Bindings × World} {b b' : Bindings} {w w' : World} {first : Nat}
  {history : Nat → List (HandleEvent Value)}

theorem InOrder.adds (h : InOrder first history (b, w)) (hb : b'.dispatchers = b.dispatchers) (ha : w.Adds w') :
    InOrder first (fun id => history id ++ w.issues w' id) (b', w') := by
  constructor
  · rw [ha.owners]
    exact h.fits
  · exact h.registered.of_eq hb ha.owners
  · exact h.traced.adds ha

theorem InOrder.register (h : InOrder first history (b, w)) (i : CallbackInterface) :
    InOrder first (fun id => history id ++ w.issues (b.settled (b.register i) w).2 id)
      (b.settled (b.register i) w) := by
  obtain ⟨hb, hw⟩ | ⟨hl, hb, ho, hr⟩ := b.register_cases i w
  · refine h.adds hb ?_
    rw [hw]
    exact .refl w
  · refine ⟨?_, ⟨?_, ?_⟩, h.traced.made ho hr⟩
    · rw [ho, List.length_append]
      exact Nat.le_add_right_of_le h.fits
    · intro e he
      rw [hb, List.mem_append, List.mem_singleton] at he
      rw [ho]
      obtain he | rfl := he
      · obtain ⟨hfirst, r, hr⟩ := h.registered.made e he
        refine ⟨hfirst, r, ?_⟩
        rw [List.getElem?_append_left (List.getElem?_eq_some_iff.mp hr).1]
        exact hr
      · dsimp only
        rw [List.getElem?_concat_length]
        exact ⟨h.fits, _, rfl⟩
    · rw [hb, List.map_append, List.map_singleton, ← List.concat_eq_append]
      exact h.registered.names.concat (Value.not_mem_of_lookup hl)

theorem InOrder.free (h : InOrder first history (b, w)) (n : Nat) (handle : Int) :
    InOrder first (fun id => history id ++ (BindingsStep.free n handle).events b w id)
      (b, w.through n fun d => d.free handle) := by
  unfold World.through
  cases hd : w.dispatchers[n]? with
  | none =>
    have hlen : ¬ n < w.owners.length := by
      rw [World.owners, List.length_map]
      exact Nat.not_lt.mpr (List.getElem?_eq_none_iff.mp hd)
    refine ⟨h.fits, h.registered, h.traced.congr fun id => ?_⟩
    rw [BindingsStep.events, if_neg (fun hn => hlen hn.2), List.append_nil]
  | some d =>
    have hlen : n < w.owners.length := (List.getElem?_eq_some_iff.mp (World.Traced.owners_getElem? hd)).1
    have ho := d.free_owners handle w
    refine ⟨?_, h.registered.of_eq rfl ho, (h.traced.free hd handle).congr fun id => ?_⟩
    · dsimp only
      rw [ho]
      exact h.fits
    · rw [BindingsStep.events]
      congr 1
      exact if_congr (and_iff_left hlen) rfl rfl

theorem InOrder.step (h : InOrder first history s) (step : BindingsStep) :
    InOrder first (fun id => history id ++ step.events s.1 s.2 id) (step.run s.1 s.2) := by
  obtain ⟨b, w⟩ := s
  -- a registration makes a registry, freeing and shutdowns take entries away; all other steps only insert
  cases step with
  | start => exact h.adds (b.settled_start_dispatchers w) (.start b w)
  | register i => exact h.register i
  | install n => exact h.adds rfl (.through fun d hd => .install hd)
  | lower n v => exact h.adds rfl (.through fun d _ => .lower d v w)
  | free n handle => exact h.free n handle
  | dispatch n m handle data initial => exact h.adds rfl (.through fun d _ => .dispatch d m handle data initial w)
  | shutdown =>
    obtain ⟨ho, hb, ht⟩ := shutdown_traced h.registered h.traced
    have hf : first ≤ (b.settled b.shutdown w).2.owners.length := by
      rw [ho]
      exact h.fits
    exact ⟨hf, hb, ht⟩

theorem InOrder.run (h : InOrder first history s) (steps : List BindingsStep) :
    InOrder first (fun id => history id ++ Bindings.history steps s id) (through steps s) := by
  induction steps generalizing history s with
  | nil =>
    refine ⟨h.fits, h.registered, h.traced.congr fun id => ?_⟩
    exact List.append_nil _
  | cons step rest ih =>
    have hr := ih (h.step step)
    refine ⟨hr.fits, hr.registered, hr.traced.congr fun id => ?_⟩
    exact (List.append_assoc ..).symm

/-- Without a shutdown every dispatcher that was made is registered. -/
def Complete (b : Bindings) (first : Nat) (w : World) : Prop :=
  ∀ id name r, first ≤ id → w.owners[id]? = some (name, r) → (name, id) ∈ b.dispatchers

theorem Complete.of_eq (h : b.Complete first w) (hb : b'.dispatchers = b.dispatchers) (ho : w'.owners = w.owners) :
    b'.Complete first w' := by
  unfold Complete
  rw [hb, ho]
  exact h

theorem Complete.step (h : s.1.Complete first s.2) {step : BindingsStep} (hs : step ≠ .shutdown) :
    (step.run s.1 s.2).1.Complete first (step.run s.1 s.2).2 := by
  obtain ⟨b, w⟩ := s
  cases step with
  | start => exact h.of_eq (b.settled_start_dispatchers w) (World.Adds.start b w).owners
  | register i =>
    obtain ⟨hb, hw⟩ | ⟨-, hb, ho, -⟩ := b.register_cases i w
    · exact h.of_eq hb (congrArg World.owners hw)
    · intro id name r hid hown
      change (name, id) ∈ (b.settled (b.register i) w).1.dispatchers
      change (b.settled (b.register i) w).2.owners[id]? = _ at hown
      rw [ho] at hown
      rw [hb, List.mem_append, List.mem_singleton]
      obtain hold | ⟨rfl, hnew⟩ := getElem?_concat_cases hown
      · exact .inl (h id name r hid hold)
      · cases hnew
        exact .inr rfl
  | install n => exact h.of_eq rfl (World.Adds.through fun d hd => .install hd).owners
  | lower n v => exact h.of_eq rfl (World.Adds.through fun d _ => .lower d v w).owners
  | free n handle =>
    have ho : (w.through n fun d => d.free handle).owners = w.owners := by
      unfold World.through
      cases w.dispatchers[n]? with
      | none => rfl
      | some d => exact d.free_owners handle w
    exact h.of_eq rfl ho
  | dispatch n m handle data initial =>
    exact h.of_eq rfl (World.Adds.through fun d _ => .dispatch d m handle data initial w).owners
  | shutdown => exact absurd rfl hs

theorem Complete.run (h : s.1.Complete first s.2) {steps : List BindingsStep} (hs : .shutdown ∉ steps) :
    (through steps s).1.Complete first (through steps s).2 := by
  induction steps generalizing s with
  | nil => exact h
  | cons step rest ih =>
    obtain ⟨hne, hrest⟩ := not_or.mp fun hm => hs (List.mem_cons.mpr hm)
    exact ih (h.step (Ne.symm hne)) hrest

end Bindings

/-! ### Handles -/

/-- The dispatchers of a name, from a first one on. -/
def World.idsOf (w : World) (first : Nat) (name : String) : List Nat :=
  (List.range w.owners.length).filter fun id => first ≤ id ∧ w.owners[id]?.map Prod.fst = some name

theorem World.mem_idsOf {w : World} {first id : Nat} {name : String} :
    id ∈ w.idsOf first name ↔ first ≤ id ∧ ∃ r, w.owners[id]? = some (name, r) := by
  rw [idsOf, List.mem_filter, List.mem_range, decide_eq_true_iff, Option.map_eq_some_iff]
  constructor
  · rintro ⟨-, hid, ⟨_, r⟩, hr, rfl⟩
    exact ⟨hid, r, hr⟩
  · rintro ⟨hid, r, hr⟩
    exact ⟨(List.getElem?_eq_some_iff.mp hr).1, hid, _, hr, rfl⟩

/-- After a clearing only what is entered later is found. -/
theorem holderIn_later (history later : List (HandleEvent Value)) (handle : Int) :
    holderIn (history ++ .cleared :: later) handle = holderIn later handle := by
  rw [holderIn, List.foldl_append, List.foldl_cons]
  rfl

theorem holderIn_cleared {history later : List (HandleEvent Value)} {handle : Int} (h : handle ∉ issuedIn later) :
    holderIn (history ++ .cleared :: later) handle = none := by
  rw [holderIn_later]
  cases hh : holderIn later handle with
  | none => rfl
  | some v => exact absurd (mem_issuedIn_of_holderIn hh) h

namespace HandleTable.Follows

variable {t : HandleTable Value} {name : String} {history : List (HandleEvent Value)}

theorem nodup {first : Int} (h : t.Follows name first history) : (issuedIn history).Nodup :=
  h.increasing.imp fun hlt => hlt.ne

theorem first_mem {first : Int} (h : t.Follows name first history) (hn : issuedIn history ≠ []) :
    first ∈ issuedIn history := by
  have hpos : 0 < (issuedIn history).length := List.length_pos_iff.mpr hn
  rw [h.issued]
  exact List.mem_map.mpr ⟨0, List.mem_range.mpr hpos, Int.add_zero first⟩

end HandleTable.Follows

namespace Bindings

/-- The handles that were issued under a name in some steps, dispatcher by dispatcher. -/
def issuedUnder (name : String) (steps : List BindingsStep) (s : Bindings × World) : List Int :=
  ((through steps s).2.idsOf s.2.owners.length name).flatMap fun id => issuedIn (history steps s id)

/-- A dispatcher of a name gave handles in some steps. -/
structure Gave (name : String) (steps : List BindingsStep) (s : Bindings × World) (id : Nat) : Prop where
  made : id ∈ (through steps s).2.idsOf s.2.owners.length name
  issued : issuedIn (history steps s id) ≠ []

/-- What handles are over a run, by dispatcher and by name. -/
structure Issues (steps : List BindingsStep) (s : Bindings × World) : Prop where
  /-- a dispatcher gives the numbers from one on, and finds under them what was entered -/
  follows : ∀ id name r, s.2.owners.length ≤ id → (through steps s).2.owners[id]? = some (name, r) →
    ∃ t, (through steps s).2.registries[r]? = some t ∧ t.Follows name 1 (history steps s id)
  nodup : ∀ id, s.2.owners.length ≤ id → (issuedIn (history steps s id)).Nodup
  /-- what a dispatcher gave before the shutdown that closed it is never found again -/
  dropped : ∀ earlier later, steps = earlier ++ .shutdown :: later → (through earlier s).1.started →
    ∀ e ∈ (through earlier s).1.dispatchers, ∀ handle ∈ issuedIn (history earlier s e.2),
      holderIn (history steps s e.2) handle = none
  /-- a name's handles come once just if one of its dispatchers, at most, gave any -/
  nodup_iff : ∀ name, (issuedUnder name steps s).Nodup ↔
    ∀ id id', Gave name steps s id → Gave name steps s id' → id = id'
  /-- without a shutdown a name's handles come once -/
  unstopped : .shutdown ∉ steps → ∀ name, (issuedUnder name steps s).Nodup

theorem InOrder.start (library : NativeLibrary) (config : RuntimeConfig) (manifest : Option ContractManifest)
    (allocator : Option Allocator) {w : World} (hw : w.Separate) :
    InOrder w.owners.length (fun _ => []) (new library config manifest allocator, w) := by
  refine ⟨Nat.le_refl _, ⟨nofun, List.nodup_nil⟩, hw, ?_, fun _ _ => rfl⟩
  intro id name r hid hown
  exact absurd (List.getElem?_eq_some_iff.mp hown).1 (Nat.not_lt.mpr hid)

section

variable {s : Bindings × World} {steps : List BindingsStep} {id : Nat} {name : String}

theorem InOrder.nodup (h : InOrder s.2.owners.length (history steps s) (through steps s))
    (hid : s.2.owners.length ≤ id) : (issuedIn (history steps s id)).Nodup := by
  rcases Nat.lt_or_ge id (through steps s).2.owners.length with hlt | hge
  · obtain ⟨t, -, hf⟩ := h.traced.follows id _ _ hid (List.getElem?_eq_getElem hlt)
    exact hf.nodup
  · rw [h.traced.unmade id hge]
    exact List.nodup_nil

/-- What was given before a clearing is given once, so not after it. -/
theorem InOrder.dropped {earlier later : List BindingsStep} (hs : steps = earlier ++ .shutdown :: later)
    (h : InOrder s.2.owners.length (history steps s) (through steps s)) (hid : s.2.owners.length ≤ id)
    (hstarted : (through earlier s).1.started) (hm : id ∈ (through earlier s).1.dispatchers.map Prod.snd) {handle : Int}
    (hh : handle ∈ issuedIn (history earlier s id)) : holderIn (history steps s id) handle = none := by
  have hn := h.nodup hid
  subst hs
  rw [history_append, history, BindingsStep.events, if_pos ⟨hstarted, hm⟩, List.singleton_append] at hn ⊢
  apply holderIn_cleared
  -- it was given before the clearing, and the whole history gives it once
  intro hlater
  rw [issuedIn_append] at hn
  exact List.disjoint_of_nodup_append hn hh hlater

/-- Two dispatchers of a name that both gave handles both gave the first one. -/
theorem InOrder.nodup_iff (h : InOrder s.2.owners.length (history steps s) (through steps s)) (name : String) :
    (issuedUnder name steps s).Nodup ↔ ∀ id id', Gave name steps s id → Gave name steps s id' → id = id' := by
  unfold issuedUnder
  rw [List.nodup_flatMap]
  constructor
  · rintro ⟨-, hdisjoint⟩ id id' ⟨hid, hgave⟩ ⟨hid', hgave'⟩
    obtain ⟨hfirst, r, hr⟩ := World.mem_idsOf.mp hid
    obtain ⟨hfirst', r', hr'⟩ := World.mem_idsOf.mp hid'
    obtain ⟨t, -, hf⟩ := h.traced.follows id name r hfirst hr
    obtain ⟨t', -, hf'⟩ := h.traced.follows id' name r' hfirst' hr'
    have hsymm : Std.Symm (Function.onFun List.Disjoint fun id => issuedIn (history steps s id)) :=
      ⟨fun _ _ hd => hd.symm⟩
    by_contra hne
    exact hdisjoint.forall hid hid' hne (hf.first_mem hgave) (hf'.first_mem hgave')
  · intro hone
    refine ⟨fun id hid => h.nodup (World.mem_idsOf.mp hid).1, ?_⟩
    apply (List.nodup_range.filter _).pairwise_of_forall_ne
    intro id hid id' hid' hne handle hm hm'
    exact hne (hone id id' ⟨hid, List.ne_nil_of_mem hm⟩ ⟨hid', List.ne_nil_of_mem hm'⟩)

end

/-- Over any run from new bindings on, whatever is done with the dispatchers, those of before a restart included. -/
theorem run_issues (library : NativeLibrary) (config : RuntimeConfig) (manifest : Option ContractManifest)
    (allocator : Option Allocator) {w : World} (hw : w.Separate) (steps : List BindingsStep) :
    Issues steps (new library config manifest allocator, w) := by
  have hstart := InOrder.start library config manifest allocator hw
  have hrun : InOrder w.owners.length (history steps (new library config manifest allocator, w))
      (through steps (new library config manifest allocator, w)) := hstart.run steps
  refine ⟨hrun.traced.follows, fun id hid => hrun.nodup hid, ?_, fun name => hrun.nodup_iff name, ?_⟩
  · intro earlier later hs hstarted e he handle hh
    have hid := ((hstart.run earlier).registered.made e he).1
    exact InOrder.dropped hs hrun hid hstarted (List.mem_map_of_mem he) hh
  · intro hs name
    have hcomplete : (new library config manifest allocator).Complete w.owners.length w := by
      intro id name r hid hown
      exact absurd (List.getElem?_eq_some_iff.mp hown).1 (Nat.not_lt.mpr hid)
    have hend := Complete.run (s := (new library config manifest allocator, w)) hcomplete hs
    apply (hrun.nodup_iff name).mpr
    intro id id' hgave hgave'
    obtain ⟨hfirst, r, hr⟩ := World.mem_idsOf.mp hgave.made
    obtain ⟨hfirst', r', hr'⟩ := World.mem_idsOf.mp hgave'.made
    have hm := hend id name r hfirst hr
    have hm' := hend id' name r' hfirst' hr'
    exact congrArg Prod.snd (List.inj_on_of_nodup_map hrun.registered.names hm hm' rfl)

/-- New bindings that verify nothing when they start. -/
def unverified : Bindings :=
  let contract : ContractConfig := ⟨.byDefault none, .set false⟩
  new ⟨[], []⟩ { RuntimeConfig.byDefault with contract := .set contract } none (some .direct)

def chime : CallbackInterface := ⟨"Chime", [⟨"ring", [], some (.integer .int8), none, none⟩]⟩

def firstRinger : Value := .implementation "A" 0 ["ring"]

def secondRinger : Value := .implementation "B" 1 ["ring"]

/-- One implementation is given away before a restart, and another one after it. -/
def restart : List BindingsStep :=
  [.start, .register chime, .lower 0 firstRinger] ++
    .shutdown :: [.start, .register chime, .lower 1 secondRinger]

/-- After the restart, what was given before it stands for nothing in the dispatcher that gave it. -/
theorem run_issues_restart :
    (World.new []).Separate ∧ issuedIn (history restart (unverified, .new []) 0) = [1] ∧
      holderIn (history restart (unverified, .new []) 0) 1 = none := by
  have hw : (World.new []).Separate := ⟨List.nodup_nil, nofun⟩
  have h := run_issues ⟨[], []⟩ unverified.config none (some .direct) hw restart
  exact ⟨hw, rfl, h.dropped _ _ rfl rfl ("Chime", 0) List.mem_cons_self 1 List.mem_cons_self⟩

/-- The native side kept a handle over the restart, and with it finds the implementation that was registered later. -/
theorem issued_again_after_restart :
    issuedUnder "Chime" restart (unverified, .new []) = [1, 1] ∧
      (through restart (unverified, .new [])).1.dispatcher "Chime" = .ok 1 ∧
      (through restart (unverified, .new [])).2.entriesOf 1 = [(1, secondRinger)] :=
  ⟨rfl, rfl, rfl⟩

end Bindings

end ForeignBridge
