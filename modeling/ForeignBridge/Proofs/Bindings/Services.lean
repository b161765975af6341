import ForeignBridge.Proofs.Bindings.Restarts
import ForeignBridge.Proofs.Value.Names

/-!
Bindings at work. Steps register interfaces, hand out handles and free them; what a dispatcher gave is live until it is
freed, whatever else is done in between, and no vtable is taken twice.
-/

namespace ForeignBridge

open Act

/-- One thing done with bindings that run, or with one of the dispatchers. -/
inductive ServiceStep
  | register (i : CallbackInterface) (init : Option (Except Failure Unit))
  | lower (id : Nat) (v : Value)
  | send (s : Shape) (v : Value)
  | dispatch (id : Nat) (m : CallbackMethod) (handle : Int) (data : Bytes) (initial : DispatchResult)
  | free (id : Nat) (handle : Int)

namespace ServiceStep

/-- The bindings and the world after a step, whether it failed or not. -/
def run (b : Bindings) (w : World) : ServiceStep → Bindings × World
  | register i init => b.settled (b.registerWith i init) w
  | lower id v => (b, w.through id fun d => d.shape.lowerIn Dispatcher.noObjects v)
  | send s v => (b, (s.send Dispatcher.noObjects v).after w)
  | dispatch id m handle data initial => (b, w.through id fun d => d.dispatch m handle data initial)
  | free id handle => (b, w.through id fun d => d.free handle)

/-- What a step does to the entries of a dispatcher's registry. -/
def events (b : Bindings) (w : World) (id : Nat) (s : ServiceStep) : List (HandleEvent Value) :=
  match s with
  | free n handle => if id = n ∧ n < w.owners.length then [.removed handle] else []
  | s => w.issues (s.run b w).2 id

/-- The handle that a step takes out of a dispatcher's registry, where it stood for something. -/
def frees (w : World) (id : Nat) : ServiceStep → List Int
  | free n handle => if id = n ∧ handle ∈ (w.entriesOf id).map Prod.fst then [handle] else []
  | _ => []

/-- The dispatcher whose vtable is taken in a step: it is handed over, and nothing fails. -/
def accepts (b : Bindings) (w : World) : ServiceStep → List Nat
  | register i init =>
    match b.registerWith i init w with
    | .ok (.ok id, _) w' => if w'.installs = w.installs then [] else [id]
    | _ => []
  | _ => []

/-- The bindings and the world after some steps. -/
def through (steps : List ServiceStep) (s : Bindings × World) : Bindings × World :=
  steps.foldl (fun s step => step.run s.1 s.2) s

/-- What has happened to the entries of a dispatcher's registry in some steps. -/
def history : List ServiceStep → Bindings × World → Nat → List (HandleEvent Value)
  | [], _, _ => []
  | step :: rest, s, id => step.events s.1 s.2 id ++ history rest (step.run s.1 s.2) id

/-- The handles that a dispatcher gave in some steps. -/
def issued (steps : List ServiceStep) (s : Bindings × World) (id : Nat) : List Int := issuedIn (history steps s id)

/-- The handles that were freed in some steps. -/
def freed : List ServiceStep → Bindings × World → Nat → List Int
  | [], _, _ => []
  | step :: rest, s, id => step.frees s.2 id ++ freed rest (step.run s.1 s.2) id

/-- The dispatchers whose vtables were taken in some steps. -/
def accepted : List ServiceStep → Bindings × World → List Nat
  | [], _ => []
  | step :: rest, s => step.accepts s.1 s.2 ++ accepted rest (step.run s.1 s.2)

end ServiceStep

/-! ### Entries -/

theorem issuedIn_map {α : Type} (new : List (Int × α)) :
    issuedIn (new.map fun e => .issued e.1 e.2) = new.map Prod.fst := by
  rw [issuedIn, List.filterMap_map]
  exact congrFun List.filterMap_eq_map new

/-- Taking out a handle takes one entry out, if there is one. -/
theorem length_filter_handle {α : Type} {entries : List (Int × α)} (h : (entries.map Prod.fst).Nodup) (handle : Int) :
    (entries.filter (·.1 != handle)).length + (if handle ∈ entries.map Prod.fst then 1 else 0) = entries.length := by
  induction entries with
  | nil => rfl
  | cons e rest ih =>
    obtain ⟨hnot, hrest⟩ := List.nodup_cons.mp h
    have hih := ih hrest
    by_cases he : e.1 = handle
    · subst he
      rw [if_neg hnot] at hih
      simp only [List.filter_cons, bne_self_eq_false, Bool.false_eq_true, if_false, List.map_cons, List.mem_cons_self,
        if_true, List.length_cons]
      omega
    · have hne : (e.1 != handle) = true := bne_iff_ne.mpr he
      simp only [List.filter_cons, hne, if_true, List.length_cons, List.map_cons, List.mem_cons, Ne.symm he, false_or]
      omega

theorem HandleTable.Follows.mem_issued {α : Type} {t : HandleTable α} {name : String} {first handle : Int}
    {history : List (HandleEvent α)} (h : t.Follows name first history) (hm : handle ∈ t.entries.map Prod.fst) :
    handle ∈ issuedIn history := by
  obtain ⟨e, he, rfl⟩ := List.mem_map.mp hm
  have hsome : (t.find? e.1).isSome := by
    rw [HandleTable.find?, Option.isSome_map, List.find?_isSome]
    exact ⟨e, he, beq_self_eq_true _⟩
  obtain ⟨v, hv⟩ := Option.isSome_iff_exists.mp hsome
  exact mem_issuedIn_of_holderIn ((h.entries e.1).symm.trans hv)

namespace World

variable {w w' : World} {id r : Nat} {name : String} {t t' : HandleTable Value}

theorem Separate.of_eq (h : w.Separate) (ho : w'.owners = w.owners)
    (hr : w'.registries.length = w.registries.length) : w'.Separate := by
  constructor
  · rw [ho]
    exact h.distinct
  · rw [ho, hr]
    exact h.present

/-- What is done to the registry of one dispatcher is done to its entries alone. -/
theorem entriesOf_set (h : w.Separate) (hid : w.owners[id]? = some (name, r)) (ht : w.registries[r]? = some t)
    (ho : w'.owners = w.owners) (hr : w'.registries = w.registries.set r t') (n : Nat) :
    w'.entriesOf n = if n = id then t'.entries else w.entriesOf n := by
  by_cases hn : n = id
  · subst hn
    rw [if_pos rfl]
    apply entriesOf_eq (ho ▸ hid)
    rw [hr]
    exact List.getElem?_set_self (List.getElem?_eq_some_iff.mp ht).1
  · rw [if_neg hn, entriesOf, entriesOf, ho]
    cases hown : w.owners[n]? with
    | none => rfl
    | some o =>
      have hne : r ≠ o.2 := by
        rintro rfl
        exact hn (h.unique hown hid)
      dsimp only
      rw [entriesIn, entriesIn, hr, List.getElem?_set_ne hne]

theorem entriesOf_of_eq (ho : w'.owners = w.owners) (hr : w'.registries = w.registries) (id : Nat) :
    w'.entriesOf id = w.entriesOf id := by
  rw [entriesOf, entriesOf, ho]
  cases w.owners[id]? with
  | none => rfl
  | some o =>
    dsimp only
    rw [entriesIn, entriesIn, hr]

theorem issues_eq {new : List (Int × Value)} (h : w'.entriesOf id = w.entriesOf id ++ new) :
    w.issues w' id = new.map fun e => .issued e.1 e.2 := by
  rw [issues, h, List.drop_left]

theorem free_entriesOf (h : w.Separate) (n : Nat) (handle : Int) (id : Nat) :
    (w.through n fun d => d.free handle).entriesOf id =
      if id = n then (w.entriesOf id).filter (·.1 != handle) else w.entriesOf id := by
  unfold World.through
  cases hd : w.dispatchers[n]? with
  | none =>
    have hlen : w.owners.length ≤ n := by
      rw [World.owners, List.length_map]
      exact List.getElem?_eq_none_iff.mp hd
    split_ifs with hid
    · subst hid
      rw [entriesOf_unmade hlen, List.filter_nil]
    · rfl
  | some d =>
    have hown := Traced.owners_getElem? hd
    obtain ⟨t, ht⟩ : ∃ t, w.registries[d.registry]? = some t :=
      ⟨_, List.getElem?_eq_getElem (h.present _ (List.mem_of_getElem? hown))⟩
    obtain ⟨log, hfree⟩ := d.free_eq handle w
    rw [List.getD_eq_getElem?_getD, ht, Option.getD_some] at hfree
    let after : World := { w with registries := w.registries.set d.registry (t.remove handle).2, log := log }
    have ho : after.owners = w.owners := rfl
    have hset := entriesOf_set h hown ht ho rfl id
    dsimp only
    rw [after_of_ok hfree, hset]
    split_ifs with hid
    · subst hid
      rw [entriesOf_eq hown ht]
      rfl
    · rfl

end World

/-! ### Registrations -/

namespace Bindings

variable {b : Bindings} {w : World} {a : Allocator} {i : CallbackInterface}

theorem running_eq (h : b.running = .ok a) : b.started = true ∧ b.allocator = some a := by
  unfold running at h
  split at h
  · rename_i hs ha
    cases h
    exact ⟨hs, ha⟩
  · cases h

/-- A registration that gives a dispatcher's number: it is the one of that name, and is made if there was none. -/
structure Registers (b : Bindings) (i : CallbackInterface) (w : World) (id : Nat) (b' : Bindings) (w' : World) :
    Prop where
  done : b.register i w = .ok (id, b') w'
  listed : (i.name, id) ∈ b'.dispatchers
  others : ∃ dispatchers, b' = { b with dispatchers := dispatchers }
  names : ∀ name, name ∈ b'.dispatchers.map Prod.fst ↔ name ∈ b.dispatchers.map Prod.fst ∨ i.name = name
  made : ∃ more, w'.dispatchers = w.dispatchers ++ more ∧ ∀ d ∈ more, d.installed = false
  installs : w'.installs = w.installs
  entries : w.Separate → ∀ n, w'.entriesOf n = w.entriesOf n

/-- Bindings that run register any interface. -/
theorem registers (h : b.running = .ok a) (i : CallbackInterface) (w : World) :
    ∃ id b' w', b.Registers i w id b' w' := by
  obtain ⟨hs, ha⟩ := running_eq h
  have hrefused : ¬ (!b.started) = true := by
    rw [hs]
    decide
  have hbind : b.bindAllocator = .ok (a, b) := by
    unfold bindAllocator
    rw [ha]
  cases hl : Value.lookup i.name b.dispatchers with
  | some id =>
    have hlisted : (i.name, id) ∈ b.dispatchers := Value.lookup_mem hl
    have hdone : b.register i w = .ok (id, b) w := by
      unfold register
      rw [if_neg hrefused, hl]
      rfl
    refine ⟨id, b, w, hdone, hlisted, ⟨_, rfl⟩, fun name => ?_, ⟨[], (List.append_nil _).symm, nofun⟩, rfl,
      fun _ _ => rfl⟩
    refine ⟨.inl, fun hm => hm.elim (·) ?_⟩
    rintro rfl
    exact List.mem_map_of_mem hlisted
  | none =>
    obtain ⟨d, log, hd, hr, hnew, hdone⟩ : ∃ d log, d.interface = i ∧ d.registry = w.registries.length ∧
        d.installed = false ∧ b.register i w =
          .ok (w.dispatchers.length, { b with dispatchers := b.dispatchers ++ [(i.name, w.dispatchers.length)] })
            { w with registries := w.registries ++ [.new i.name 1], dispatchers := w.dispatchers ++ [d]
                     log := log } := by
      unfold register
      rw [if_neg hrefused, hl, hbind]
      exact ⟨_, _, rfl, rfl, rfl, rfl⟩
    have howners : World.owners { w with registries := w.registries ++ [.new i.name 1]
                                         dispatchers := w.dispatchers ++ [d], log := log } =
        w.owners ++ [(i.name, w.registries.length)] := by
      rw [World.owners, List.map_append, List.map_singleton, hd, hr]
      rfl
    refine ⟨_, _, _, hdone, List.mem_append_right _ List.mem_cons_self, ⟨_, rfl⟩, fun name => ?_, ⟨[d], rfl, ?_⟩, rfl,
      fun hseparate n => World.made_entriesOf hseparate howners rfl n⟩
    · rw [List.map_append, List.mem_append, List.map_singleton, List.mem_singleton, eq_comm (a := name)]
    · intro d' hm
      rw [List.mem_singleton.mp hm, hnew]

/-- A registration with a function for the vtable is a registration, and after it an installation. -/
theorem Registers.registerWith {b' : Bindings} {id : Nat} {w₁ : World} (h : b.Registers i w id b' w₁)
    (init : Option (Except Failure Unit)) : b.registerWith i init w =
      match init with
      | none => .ok (.ok id, b') w₁
      | some taken =>
        match Dispatcher.install id taken w₁ with
        | .ok _ w₂ => .ok (.ok id, b') w₂
        | .error f w₂ => .ok (.error f, b') w₂ := by
  refine (attempt_of_ok h.done).trans ?_
  cases init with
  | none => rfl
  | some taken =>
    cases hi : Dispatcher.install id taken w₁ with
    | ok _ w₂ =>
      dsimp only
      rw [hi]
      exact attempt_of_ok hi
    | error f w₂ =>
      dsimp only
      rw [hi]
      exact attempt_of_error hi

/-- The world after a vtable was handed over, if there is a function for it. -/
def handing (id : Nat) (init : Option (Except Failure Unit)) (w : World) : World :=
  match init with
  | none => w
  | some taken => (Dispatcher.install id taken).after w

theorem Registers.settled {b' : Bindings} {id : Nat} {w₁ : World} (h : b.Registers i w id b' w₁)
    (init : Option (Except Failure Unit)) : b.settled (b.registerWith i init) w = (b', handing id init w₁) := by
  have hdone := h.registerWith init
  cases init with
  | none => exact settled_of_ok hdone
  | some taken =>
    rw [handing]
    dsimp only at hdone
    cases hi : Dispatcher.install id taken w₁ with
    | ok _ w₂ =>
      rw [hi] at hdone
      rw [after_of_ok hi]
      exact settled_of_ok hdone
    | error f w₂ =>
      rw [hi] at hdone
      rw [after_of_error hi]
      exact settled_of_ok hdone

end Bindings

/-! ### Balance -/

namespace World

variable {w w' : World} {first id : Nat} {history : Nat → List (HandleEvent Value)}

theorem Traced.mem_issued (h : w.Traced first history) (hid : first ≤ id) {handle : Int}
    (hm : handle ∈ (w.entriesOf id).map Prod.fst) : handle ∈ issuedIn (history id) := by
  cases hown : w.owners[id]? with
  | none =>
    rw [entriesOf_unmade (List.getElem?_eq_none_iff.mp hown)] at hm
    cases hm
  | some o =>
    obtain ⟨t, ht, hf⟩ := h.follows id o.1 o.2 hid hown
    rw [entriesOf_eq hown ht] at hm
    exact hf.mem_issued hm

/-- What only inserts in registries adds entries whose handles were never given before. -/
theorem Traced.grows (h : w.Traced first history) (ha : w.Adds w') (hid : first ≤ id) :
    ∃ new, w'.entriesOf id = w.entriesOf id ++ new ∧ (issuedIn (history id) ++ new.map Prod.fst).Nodup := by
  cases hown : w.owners[id]? with
  | none =>
    have hlen := List.getElem?_eq_none_iff.mp hown
    refine ⟨[], ?_, ?_⟩
    · rw [entriesOf_unmade hlen, entriesOf_unmade (ha.owners ▸ hlen)]
      rfl
    · rw [h.unmade id hlen]
      exact List.nodup_nil
  | some o =>
    obtain ⟨t, ht, hf⟩ := h.follows id o.1 o.2 hid hown
    obtain ⟨things, hthings⟩ := ha.tables o.2
    rw [ht, Option.map_some] at hthings
    obtain ⟨new, hnew, hfollows⟩ := hf.insertAll things
    refine ⟨new, ?_, ?_⟩
    · rw [entriesOf_eq (ha.owners ▸ hown) hthings, entriesOf_eq hown ht, hnew]
    · have hn := hfollows.nodup
      rwa [issuedIn_append, issuedIn_map] at hn

end World

namespace Bindings

/-- The registries of the dispatchers, from a first one on, hold as many entries as handles were given and not freed. -/
structure Balanced (first : Nat) (history : Nat → List (HandleEvent Value)) (freed : Nat → List Int)
    (s : Bindings × World) : Prop where
  order : InOrder first history s
  distinct : ∀ id, first ≤ id → ((s.2.entriesOf id).map Prod.fst).Nodup
  balance : ∀ id, first ≤ id →
    (s.2.entriesOf id).length + (freed id).length = (issuedIn (history id)).length

namespace Balanced

variable {s : Bindings × World} {b b' : Bindings} {w w' : World} {a : Allocator} {first : Nat}
  {history : Nat → List (HandleEvent Value)} {freed : Nat → List Int}

theorem congr {other : Nat → List (HandleEvent Value)} {gone : Nat → List Int} (h : Balanced first history freed s)
    (ho : ∀ id, other id = history id) (hg : ∀ id, gone id = freed id) : Balanced first other gone s := by
  obtain rfl : other = history := funext ho
  obtain rfl : gone = freed := funext hg
  exact h

theorem adds (h : Balanced first history freed (b, w)) (hb : b'.dispatchers = b.dispatchers) (ha : w.Adds w') :
    Balanced first (fun id => history id ++ w.issues w' id) freed (b', w') := by
  have htraced : w.Traced first history := h.order.traced
  refine ⟨h.order.adds hb ha, fun id hid => ?_, fun id hid => ?_⟩
  · obtain ⟨new, hnew, hn⟩ := htraced.grows ha hid
    dsimp only
    rw [hnew, List.map_append]
    refine (h.distinct id hid).append (List.Nodup.of_append_right hn) fun handle hm hm' => ?_
    exact List.disjoint_of_nodup_append hn (htraced.mem_issued hid hm) hm'
  · obtain ⟨new, hnew, -⟩ := htraced.grows ha hid
    have hbalance : (w.entriesOf id).length + (freed id).length = (issuedIn (history id)).length := h.balance id hid
    dsimp only
    rw [World.issues_eq hnew, issuedIn_append, issuedIn_map, hnew, List.length_append, List.length_append,
      List.length_map]
    omega

theorem free (h : Balanced first history freed (b, w)) (n : Nat) (handle : Int) :
    Balanced first (fun id => history id ++ (ServiceStep.free n handle).events b w id)
      (fun id => freed id ++ (ServiceStep.free n handle).frees w id) (b, w.through n fun d => d.free handle) := by
  have hseparate : w.Separate := h.order.traced.separate
  have hentries := World.free_entriesOf hseparate n handle
  refine ⟨h.order.free n handle, fun id hid => ?_, fun id hid => ?_⟩
  · have hdistinct : ((w.entriesOf id).map Prod.fst).Nodup := h.distinct id hid
    dsimp only
    rw [hentries]
    split_ifs
    · exact hdistinct.sublist (List.filter_sublist.map _)
    · exact hdistinct
  · have hissued : issuedIn ((ServiceStep.free n handle).events b w id) = [] := by
      unfold ServiceStep.events
      dsimp only
      split_ifs <;> rfl
    have hbalance : (w.entriesOf id).length + (freed id).length = (issuedIn (history id)).length := h.balance id hid
    have hdistinct : ((w.entriesOf id).map Prod.fst).Nodup := h.distinct id hid
    have hcount := length_filter_handle hdistinct handle
    dsimp only
    rw [hentries, issuedIn_append, hissued, List.append_nil, List.length_append, ServiceStep.frees]
    by_cases hn : id = n
    · rw [if_pos hn]
      by_cases hm : handle ∈ (w.entriesOf id).map Prod.fst
      · rw [if_pos hm] at hcount
        rw [if_pos ⟨hn, hm⟩, List.length_singleton]
        omega
      · rw [if_neg hm] at hcount
        rw [if_neg fun hboth => hm hboth.2, List.length_nil]
        omega
    · rw [if_neg hn, if_neg fun hboth => hn hboth.1]
      exact hbalance

theorem of_eq (h : Balanced first history freed (b, w)) (hb : b'.dispatchers = b.dispatchers)
    (ho : w'.owners = w.owners) (hr : w'.registries = w.registries) : Balanced first history freed (b', w') := by
  refine (h.adds hb (.of_eq ho hr)).congr (fun id => ?_) fun id => rfl
  rw [World.issues_of_eq (World.entriesOf_of_eq ho hr id), List.append_nil]

theorem register (h : Balanced first history freed (b, w)) {i : CallbackInterface} {id : Nat}
    (hr : b.Registers i w id b' w') : Balanced first history freed (b', w') := by
  have hsettled : b.settled (b.register i) w = (b', w') := settled_of_ok hr.done
  have hentries := hr.entries h.order.traced.separate
  have horder := h.order.register i
  rw [hsettled] at horder
  refine ⟨⟨horder.fits, horder.registered, horder.traced.congr fun id => ?_⟩, fun id hid => ?_, fun id hid => ?_⟩
  · rw [World.issues_of_eq (hentries id), List.append_nil]
  · rw [hentries id]
    exact h.distinct id hid
  · rw [hentries id]
    exact h.balance id hid

/-- The dispatcher that a registration gives is there. -/
theorem there (h : Balanced first history freed (b, w)) {i : CallbackInterface} {id : Nat}
    (hr : b.Registers i w id b' w') : ∃ d, w'.dispatchers[id]? = some d := by
  obtain ⟨-, r, hown⟩ := (h.register hr).order.registered.made _ hr.listed
  obtain ⟨d, hd, -⟩ := Option.map_eq_some_iff.mp ((List.getElem?_map ..).symm.trans hown)
  exact ⟨d, hd⟩

theorem handed (h : Balanced first history freed (b, w)) {i : CallbackInterface} {id : Nat}
    (hr : b.Registers i w id b' w') (init : Option (Except Failure Unit)) :
    Balanced first history freed (b', Bindings.handing id init w') ∧
      ∀ n, (Bindings.handing id init w').entriesOf n = w.entriesOf n := by
  have hentries := hr.entries h.order.traced.separate
  cases init with
  | none => exact ⟨h.register hr, hentries⟩
  | some taken =>
    obtain ⟨d, hd⟩ := h.there hr
    obtain ⟨ho, hregistries⟩ := World.Adds.install_kept hd taken
    refine ⟨(h.register hr).of_eq rfl ho hregistries, fun n => ?_⟩
    exact (World.entriesOf_of_eq ho hregistries n).trans (hentries n)

theorem step (h : Balanced first history freed (b, w)) (hb : b.running = .ok a) (step : ServiceStep) :
    Balanced first (fun id => history id ++ step.events b w id) (fun id => freed id ++ step.frees w id)
      (step.run b w) := by
  have hkept (s : Bindings × World) {other : Nat → List (HandleEvent Value)} (ho : Balanced first other freed s) :
      Balanced first other (fun id => freed id ++ []) s := ho.congr (fun _ => rfl) fun id => List.append_nil _
  cases step with
  | register i init =>
    obtain ⟨id, b', w', hr⟩ := b.registers hb i w
    obtain ⟨hbalanced, hentries⟩ := h.handed hr init
    refine hkept _ ?_
    rw [ServiceStep.run, hr.settled init]
    refine hbalanced.congr (fun n => ?_) fun n => rfl
    unfold ServiceStep.events ServiceStep.run
    dsimp only
    rw [hr.settled init, World.issues_of_eq (hentries n), List.append_nil]
  | lower id v => exact hkept _ (h.adds rfl (.through fun d _ => .lower d v w))
  | send s v => exact hkept _ (h.adds rfl (.of_registers (Dispatcher.send_registers s v w)))
  | dispatch id m handle data initial =>
    exact hkept _ (h.adds rfl (.through fun d _ => .dispatch d m handle data initial w))
  | free id handle => exact h.free id handle

end Balanced

/-! ### Bindings over a run -/

variable {b : Bindings} {a : Allocator}

/-- A step changes the bindings only by registering an interface. -/
theorem step_others (hb : b.running = .ok a) (w : World) (step : ServiceStep) :
    (∃ dispatchers, (step.run b w).1 = { b with dispatchers := dispatchers }) ∧
      ∀ name, name ∈ (step.run b w).1.dispatchers.map Prod.fst ↔
        name ∈ b.dispatchers.map Prod.fst ∨ ∃ i init, .register i init = step ∧ i.name = name := by
  cases step with
  | register i init =>
    obtain ⟨id, b', w', hr⟩ := b.registers hb i w
    rw [ServiceStep.run, hr.settled init]
    refine ⟨hr.others, fun name => (hr.names name).trans (or_congr_right ?_)⟩
    constructor
    · exact fun hn => ⟨i, init, rfl, hn⟩
    · rintro ⟨i', init', he, hn⟩
      cases he
      exact hn
  | _ =>
    refine ⟨⟨_, rfl⟩, fun name => ⟨.inl, fun hm => hm.elim (·) ?_⟩⟩
    rintro ⟨_, _, he, -⟩
    cases he

theorem run_others (hb : b.running = .ok a) (w : World) (steps : List ServiceStep) :
    (∃ dispatchers, (ServiceStep.through steps (b, w)).1 = { b with dispatchers := dispatchers }) ∧
      ∀ name, name ∈ (ServiceStep.through steps (b, w)).1.dispatchers.map Prod.fst ↔
        name ∈ b.dispatchers.map Prod.fst ∨ ∃ i init, .register i init ∈ steps ∧ i.name = name := by
  induction steps generalizing b w with
  | nil => exact ⟨⟨_, rfl⟩, fun name => ⟨.inl, fun hm => hm.elim (·) nofun⟩⟩
  | cons step rest ih =>
    obtain ⟨⟨dispatchers, hs⟩, hnames⟩ := step_others hb w step
    have hrunning : (step.run b w).1.running = .ok a := by
      rw [hs]
      exact hb
    obtain ⟨⟨more, hrest⟩, hothers⟩ := ih hrunning (step.run b w).2
    refine ⟨⟨more, ?_⟩, fun name => ?_⟩
    · refine hrest.trans ?_
      rw [hs]
    · refine (hothers name).trans ?_
      rw [hnames name, or_assoc]
      refine or_congr_right ?_
      simp only [List.mem_cons]
      constructor
      · rintro (⟨i, init, hm, hn⟩ | ⟨i, init, hm, hn⟩)
        · exact ⟨i, init, .inl hm, hn⟩
        · exact ⟨i, init, .inr hm, hn⟩
      · rintro ⟨i, init, hm | hm, hn⟩
        · exact .inl ⟨i, init, hm, hn⟩
        · exact .inr ⟨i, init, hm, hn⟩

namespace Balanced

variable {s : Bindings × World} {first : Nat} {history : Nat → List (HandleEvent Value)} {freed : Nat → List Int}

theorem run (h : Balanced first history freed s) (hb : s.1.running = .ok a) (steps : List ServiceStep) :
    Balanced first (fun id => history id ++ ServiceStep.history steps s id)
      (fun id => freed id ++ ServiceStep.freed steps s id) (ServiceStep.through steps s) := by
  induction steps generalizing s history freed with
  | nil => exact h.congr (fun _ => List.append_nil _) fun _ => List.append_nil _
  | cons step rest ih =>
    obtain ⟨⟨dispatchers, hs⟩, -⟩ := step_others hb s.2 step
    have hrunning : (step.run s.1 s.2).1.running = .ok a := by
      rw [hs]
      exact hb
    have hr := ih (h.step hb step) hrunning
    exact hr.congr (fun _ => (List.append_assoc ..).symm) fun _ => (List.append_assoc ..).symm

end Balanced

end Bindings

/-! ### Vtables -/

/-- Whether a vtable was taken. -/
def World.Installed (w : World) (id : Nat) : Prop := ∃ d, w.dispatchers[id]? = some d ∧ d.installed = true

namespace World.Installed

variable {w w' : World} {id : Nat}

theorem of_eq (h : w.Installed id) (hd : w'.dispatchers = w.dispatchers) : w'.Installed id := by
  unfold Installed
  rw [hd]
  exact h

theorem through {α : Type} {x : Dispatcher → Act α} (h : w.Installed id)
    (hx : ∀ d, ((x d).after w).dispatchers = w.dispatchers) (n : Nat) : (w.through n x).Installed id := by
  unfold World.through
  split
  · exact h.of_eq (hx _)
  · exact h

theorem install (h : w.Installed id) {n : Nat} {d : Dispatcher} (hd : w.dispatchers[n]? = some d)
    (taken : Except Failure Unit) : ((Dispatcher.install n taken).after w).Installed id := by
  obtain ⟨-, hi⟩ | ⟨-, f, hi⟩ | ⟨-, f, -, hi⟩ | ⟨-, -, log, hi⟩ := Dispatcher.install_cases hd taken
  · rw [after_of_ok hi]
    exact h
  · rw [after_of_error hi]
    exact h
  · rw [after_of_error hi]
    exact h.of_eq rfl
  · rw [after_of_ok hi]
    obtain ⟨d', hd', hinstalled⟩ := h
    by_cases hn : n = id
    · subst hn
      exact ⟨_, List.getElem?_set_self (List.getElem?_eq_some_iff.mp hd).1, rfl⟩
    · refine ⟨d', ?_, hinstalled⟩
      dsimp only
      rw [List.getElem?_set_ne hn]
      exact hd'

theorem registers (h : w.Installed id) {b b' : Bindings} {i : CallbackInterface} {n : Nat}
    (hr : b.Registers i w n b' w') : w'.Installed id := by
  obtain ⟨d, hd, hinstalled⟩ := h
  obtain ⟨more, hmore, -⟩ := hr.made
  refine ⟨d, ?_, hinstalled⟩
  rw [hmore, List.getElem?_append_left (List.getElem?_eq_some_iff.mp hd).1]
  exact hd

end World.Installed

/-- What a registration makes is not installed. -/
theorem Bindings.Registers.not_installed {b b' : Bindings} {w w' : World} {i : CallbackInterface} {n id : Nat}
    (hr : b.Registers i w n b' w') {d : Dispatcher} (hd : w'.dispatchers[id]? = some d) (hi : d.installed = false) :
    ¬ w.Installed id := by
  intro hinstalled
  obtain ⟨d', hd', hi'⟩ := hinstalled.registers hr
  rw [hd] at hd'
  cases hd'
  rw [hi] at hi'
  cases hi'

namespace Bindings.Balanced

variable {b : Bindings} {w : World} {s : Bindings × World} {a : Allocator} {first id : Nat}
  {history : Nat → List (HandleEvent Value)} {freed : Nat → List Int}

theorem installed_step (h : Balanced first history freed (b, w)) (hb : b.running = .ok a) (hi : w.Installed id)
    (step : ServiceStep) : (step.run b w).2.Installed id := by
  cases step with
  | register i init =>
    obtain ⟨n, b', w', hr⟩ := b.registers hb i w
    obtain ⟨d, hd⟩ := h.there hr
    rw [ServiceStep.run, hr.settled init]
    cases init with
    | none => exact hi.registers hr
    | some taken => exact (hi.registers hr).install hd taken
  | lower n v => exact hi.through (fun d => (d.lowerIn_registers v w).dispatchers) n
  | send s v => exact hi.of_eq (Dispatcher.send_registers s v w).dispatchers
  | dispatch n m handle data initial =>
    exact hi.through (fun d => d.dispatch_dispatchers m handle data initial w) n
  | free n handle =>
    refine hi.through (fun d => ?_) n
    obtain ⟨log, hfree⟩ := d.free_eq handle w
    rw [after_of_ok hfree]

/-- A vtable that is taken in a step was not taken before, and it is from then on. -/
theorem accepts_step (h : Balanced first history freed (b, w)) (hb : b.running = .ok a) (step : ServiceStep) :
    step.accepts b w = [] ∨
      ∃ id, step.accepts b w = [id] ∧ ¬ w.Installed id ∧ (step.run b w).2.Installed id := by
  cases step with
  | register i init =>
    obtain ⟨n, b', w', hr⟩ := b.registers hb i w
    obtain ⟨d, hd⟩ := h.there hr
    have hdone := hr.registerWith init
    rw [ServiceStep.run, hr.settled init]
    unfold ServiceStep.accepts
    dsimp only
    cases init with
    | none =>
      rw [hdone]
      exact .inl (if_pos hr.installs)
    | some taken =>
      obtain ⟨-, hi⟩ | ⟨-, f, hi⟩ | ⟨-, f, -, hi⟩ | ⟨hfalse, -, log, hi⟩ := Dispatcher.install_cases hd taken
      · rw [hdone]
        dsimp only
        rw [hi]
        exact .inl (if_pos hr.installs)
      · rw [hdone]
        dsimp only
        rw [hi]
        exact .inl rfl
      · rw [hdone]
        dsimp only
        rw [hi]
        exact .inl rfl
      · rw [hdone, Bindings.handing, after_of_ok hi]
        dsimp only
        rw [hi]
        refine .inr ⟨n, if_neg ?_, hr.not_installed hd hfalse, ?_⟩
        · dsimp only
          rw [hr.installs]
          exact Nat.succ_ne_self _
        · exact ⟨_, List.getElem?_set_self (List.getElem?_eq_some_iff.mp hd).1, rfl⟩
  | _ => exact .inl rfl

/-- No vtable is taken twice in a run, and none that was taken before it. -/
theorem accepted_once (h : Balanced first history freed s) (hb : s.1.running = .ok a) (steps : List ServiceStep) :
    (ServiceStep.accepted steps s).Nodup ∧ ∀ id ∈ ServiceStep.accepted steps s, ¬ s.2.Installed id := by
  induction steps generalizing s history freed with
  | nil => exact ⟨List.nodup_nil, nofun⟩
  | cons step rest ih =>
    obtain ⟨⟨dispatchers, hs⟩, -⟩ := step_others hb s.2 step
    have hrunning : (step.run s.1 s.2).1.running = .ok a := by
      rw [hs]
      exact hb
    obtain ⟨hn, hfresh⟩ := ih (h.step hb step) hrunning
    have hlater : ∀ id ∈ ServiceStep.accepted rest (step.run s.1 s.2), ¬ s.2.Installed id :=
      fun id hm hi => hfresh id hm (h.installed_step hb hi step)
    rw [ServiceStep.accepted]
    obtain hnone | ⟨id, hone, hbefore, hafter⟩ := h.accepts_step hb step
    · rw [hnone]
      exact ⟨hn, hlater⟩
    · rw [hone, List.singleton_append]
      refine ⟨List.nodup_cons.mpr ⟨fun hm => hfresh id hm hafter, hn⟩, fun n hm => ?_⟩
      obtain rfl | hm := List.mem_cons.mp hm
      · exact hbefore
      · exact hlater n hm

end Bindings.Balanced

end ForeignBridge
