import ForeignBridge.Proofs.Bindings.Services

/-!
What a shutdown tells. A handle that a dispatcher gave is live until it is freed, so what a shutdown finds in a
registry are the handles that were given, less those that were freed. Frees of other handles, failed installations and
repeated registrations leave that count alone.
-/

namespace ForeignBridge

open Act

namespace Bindings

/-- The dispatchers that still have entries, by name, and how many. -/
def leaked (made : List (String × Nat)) (w : World) : List (String × Nat) :=
  (made.map fun e => (e.1, (w.entriesOf e.2).length)).filter (·.2 ≠ 0)

/-- From one world to another registries were emptied, and the leaks were noted if they should be. -/
structure Closes (warn : Bool) (made : List (String × Nat)) (w w' : World) : Prop where
  owners : w'.owners = w.owners
  separate : w'.Separate
  entries : ∀ id, w'.entriesOf id = if id ∈ made.map Prod.snd then [] else w.entriesOf id
  log : w'.log = w.log ++ if warn then (leaked made w).map leakWarning else []

theorem close_closes {w : World} (h : w.Separate) {name : String} {id r : Nat} (ho : w.owners[id]? = some (name, r)) :
    ∃ w', Dispatcher.close id w = .ok (w.entriesOf id).length w' ∧ Closes false [(name, id)] w w' := by
  obtain ⟨d, hd, -⟩ := Option.map_eq_some_iff.mp ((List.getElem?_map ..).symm.trans ho)
  have hown := World.Traced.owners_getElem? hd
  obtain ⟨t, ht⟩ : ∃ t, w.registries[d.registry]? = some t :=
    ⟨_, List.getElem?_eq_getElem (h.present _ (List.mem_of_getElem? hown))⟩
  have hkept := World.Adds.owners_set hd { d with closed := true } rfl rfl
  let after : World :=
    { w with registries := w.registries.set d.registry t.clear.2
             dispatchers := w.dispatchers.set id { d with closed := true } }
  have hafter : after.owners = w.owners := hkept
  refine ⟨after, ?_, hafter, h.of_eq hafter List.length_set, fun n => ?_, (List.append_nil _).symm⟩
  · rw [World.entriesOf_eq hown ht]
    exact Dispatcher.close_eq hd ht
  · rw [World.entriesOf_set h hown ht hafter rfl n]
    simp only [List.map_cons, List.map_nil, List.mem_singleton]
    rfl

theorem leaked_cons (name : String) (id : Nat) (rest : List (String × Nat)) (w : World) :
    leaked ((name, id) :: rest) w =
      if (w.entriesOf id).length = 0 then leaked rest w
      else (name, (w.entriesOf id).length) :: leaked rest w := by
  unfold leaked
  rw [List.map_cons, List.filter_cons]
  by_cases hz : (w.entriesOf id).length = 0 <;> simp [hz]

theorem leaked_of_entries {made : List (String × Nat)} {w w' : World}
    (h : ∀ e ∈ made, w'.entriesOf e.2 = w.entriesOf e.2) : leaked made w' = leaked made w := by
  unfold leaked
  congr 1
  apply List.map_congr_left
  intro e he
  rw [h e he]

/-- Closing dispatchers one after another tells which have entries, and empties all. -/
theorem closeAll_closes (warn : Bool) {made : List (String × Nat)} {w : World} (h : w.Separate)
    (hm : ∀ e ∈ made, ∃ r, w.owners[e.2]? = some (e.1, r)) (hn : (made.map Prod.snd).Nodup) :
    ∃ w', closeAll warn made w = .ok (leaked made w) w' ∧ Closes warn made w w' := by
  induction made generalizing w with
  | nil =>
    refine ⟨w, rfl, rfl, h, fun id => (if_neg List.not_mem_nil).symm, ?_⟩
    cases warn <;> exact (List.append_nil _).symm
  | cons e rest ih =>
    obtain ⟨name, id⟩ := e
    obtain ⟨hnot, hrest⟩ := List.nodup_cons.mp hn
    obtain ⟨r, hr⟩ := hm (name, id) List.mem_cons_self
    obtain ⟨w₁, hclose, hcloses⟩ := close_closes h hr
    let count := (w.entriesOf id).length
    let lines := if count ≠ 0 && warn then [leakWarning (name, count)] else []
    let noted : World := { w₁ with log := w₁.log ++ lines }
    have ho : noted.owners = w.owners := hcloses.owners
    have hseparate : noted.Separate := hcloses.separate.of_eq rfl rfl
    have hentries (n : Nat) : noted.entriesOf n = if n = id then [] else w.entriesOf n := by
      have hset := hcloses.entries n
      simp only [List.map_cons, List.map_nil, List.mem_singleton] at hset
      exact (World.entriesOf_of_eq rfl rfl n).trans hset
    obtain ⟨w₂, hall, hrun⟩ := ih hseparate (fun e he => ho ▸ hm e (List.mem_cons_of_mem _ he)) hrest
    have hsame : leaked rest noted = leaked rest w := by
      apply leaked_of_entries
      intro e he
      rw [hentries, if_neg]
      intro hid
      have hm : e.2 ∈ rest.map Prod.snd := List.mem_map_of_mem he
      exact hnot (hid ▸ hm)
    refine ⟨w₂, ?_, hrun.owners.trans ho, hrun.separate, fun n => ?_, ?_⟩
    · rw [closeAll_cons hclose, bind_of_ok hall, hsame, leaked_cons]
      rfl
    · rw [hrun.entries, hentries, List.map_cons]
      by_cases hid : n = id
      · simp only [hid, List.mem_cons_self, if_true, ite_self]
      · simp only [hid, List.mem_cons, false_or, if_false]
    · rw [hrun.log, hsame, leaked_cons]
      have hlog : noted.log = w.log ++ lines := by
        change w₁.log ++ lines = _
        rw [hcloses.log, if_neg Bool.false_ne_true, List.append_nil]
      rw [hlog, List.append_assoc]
      congr 1
      by_cases hz : (w.entriesOf id).length = 0
      · simp [lines, count, hz]
      · cases warn <;> simp [lines, count, hz]

/-- Bindings after a shutdown. -/
def stopped (b : Bindings) : Bindings := { b with started := false, dispatchers := [] }

/-- A shutdown of bindings that run tells which dispatchers have entries, empties them all and forgets them. -/
theorem shutdown_closes {b : Bindings} {w : World} {first : Nat} (hb : b.started = true)
    (hr : b.Registered first w) (h : w.Separate) : ∃ w₁ w',
      b.shutdown w = .ok (leaked b.dispatchers w, b.stopped) w' ∧
      Closes b.config.callbacks.value.warnOnLeakedHandles.value b.dispatchers w w₁ ∧
      w' = { w₁ with log := w₁.log ++ [⟨.info, .runtime, "FFI runtime shutdown complete"⟩] } := by
  obtain ⟨w₁, hall, hcloses⟩ := closeAll_closes b.config.callbacks.value.warnOnLeakedHandles.value h
    (fun e he => (hr.made e he).2) hr.ids
  refine ⟨w₁, _, ?_, hcloses, rfl⟩
  unfold shutdown
  rw [if_neg (by rw [hb]; decide)]
  exact (bind_of_ok hall).trans rfl

/-- The handles by dispatcher that were given in some steps and not freed, with the name, unless there are none. -/
def outstanding (steps : List ServiceStep) (s : Bindings × World) : List (String × Nat) :=
  ((ServiceStep.through steps s).1.dispatchers.map fun e =>
    (e.1, (ServiceStep.issued steps s e.2).length - (ServiceStep.freed steps s e.2).length)).filter (·.2 ≠ 0)

/-- What is so after some steps of bindings that run, and what a shutdown tells and leaves. -/
structure Reckons (steps : List ServiceStep) (s : Bindings × World) : Prop where
  /-- the interfaces that were registered have a dispatcher each -/
  names : ∀ name, name ∈ (ServiceStep.through steps s).1.dispatchers.map Prod.fst ↔
    ∃ i init, .register i init ∈ steps ∧ i.name = name
  once : ((ServiceStep.through steps s).1.dispatchers.map Prod.fst).Nodup
  /-- what was given is live or was freed -/
  balance : ∀ e ∈ (ServiceStep.through steps s).1.dispatchers,
    ((ServiceStep.through steps s).2.entriesOf e.2).length + (ServiceStep.freed steps s e.2).length =
      (ServiceStep.issued steps s e.2).length
  /-- a shutdown tells what is outstanding, warns of it if it should, and empties and forgets all -/
  tells : ∃ w', (ServiceStep.through steps s).1.shutdown (ServiceStep.through steps s).2 =
      .ok (outstanding steps s, (ServiceStep.through steps s).1.stopped) w' ∧
    w'.log = (ServiceStep.through steps s).2.log ++
      (if s.1.config.callbacks.value.warnOnLeakedHandles.value then (outstanding steps s).map leakWarning else []) ++
        [⟨.info, .runtime, "FFI runtime shutdown complete"⟩] ∧
    (∀ e ∈ (ServiceStep.through steps s).1.dispatchers, w'.entriesOf e.2 = []) ∧
    (ServiceStep.through steps s).1.stopped.shutdown w' = .ok ([], (ServiceStep.through steps s).1.stopped) w'
  /-- no vtable is taken twice -/
  accepted : (ServiceStep.accepted steps s).Nodup

/-- Whatever is done with bindings that run, a shutdown accounts for every handle. -/
theorem shutdown_reckons {b : Bindings} {w : World} {a : Allocator} (hw : w.Separate) (hb : b.running = .ok a)
    (hd : b.dispatchers = []) (steps : List ServiceStep) : Reckons steps (b, w) := by
  have hstart : Balanced w.owners.length (fun _ => []) (fun _ => []) (b, w) := by
    have hfollows : ∀ id name r, w.owners.length ≤ id → w.owners[id]? = some (name, r) →
        ∃ t, w.registries[r]? = some t ∧ t.Follows name 1 [] := by
      intro id name r hid hown
      exact absurd (List.getElem?_eq_some_iff.mp hown).1 (Nat.not_lt.mpr hid)
    have hregistered : b.Registered w.owners.length w := by
      constructor
      · rw [hd]
        exact nofun
      · rw [hd]
        exact List.nodup_nil
    refine ⟨⟨Nat.le_refl _, hregistered, hw, hfollows, fun _ _ => rfl⟩, fun id hid => ?_, fun id hid => ?_⟩
    · dsimp only
      rw [World.entriesOf_unmade hid]
      exact List.nodup_nil
    · dsimp only
      rw [World.entriesOf_unmade hid]
      rfl
  have hend : Balanced w.owners.length (ServiceStep.history steps (b, w)) (ServiceStep.freed steps (b, w))
      (ServiceStep.through steps (b, w)) := hstart.run hb steps
  obtain ⟨⟨dispatchers, hothers⟩, hnames⟩ := run_others hb w steps
  have hbalance : ∀ e ∈ (ServiceStep.through steps (b, w)).1.dispatchers,
      ((ServiceStep.through steps (b, w)).2.entriesOf e.2).length + (ServiceStep.freed steps (b, w) e.2).length =
        (ServiceStep.issued steps (b, w) e.2).length :=
    fun e he => hend.balance e.2 (hend.order.registered.made e he).1
  have hleaked : leaked (ServiceStep.through steps (b, w)).1.dispatchers (ServiceStep.through steps (b, w)).2 =
      outstanding steps (b, w) := by
    unfold leaked outstanding
    congr 1
    apply List.map_congr_left
    intro e he
    have hsum := hbalance e he
    congr 1
    omega
  have hstarted : (ServiceStep.through steps (b, w)).1.started = true := by
    rw [hothers]
    exact (running_eq hb).1
  have hconfig : (ServiceStep.through steps (b, w)).1.config = b.config := by
    rw [hothers]
  obtain ⟨w₁, w', hshutdown, hcloses, hw'⟩ :=
    shutdown_closes hstarted hend.order.registered hend.order.traced.separate
  refine ⟨fun name => ?_, hend.order.registered.names, hbalance, ⟨w', ?_, ?_, fun e he => ?_, rfl⟩,
    (hstart.accepted_once hb steps).1⟩
  · rw [hnames name, hd]
    exact or_iff_right List.not_mem_nil
  · rw [hshutdown, hleaked]
  · rw [hw']
    dsimp only
    rw [hcloses.log, hleaked, hconfig]
  · have hentries := hcloses.entries e.2
    rw [if_pos (List.mem_map_of_mem he)] at hentries
    rw [hw', ← hentries]
    exact World.entriesOf_of_eq rfl rfl e.2

/-- The vtable is refused once, then taken, and offered again; one of two handles is freed, and one that was never
given. -/
def chiming : List ServiceStep :=
  [.register chime (some (.error (.raised (.exception "ValueError" .ordinary "refused")))), .lower 0 firstRinger,
    .register chime (some (.ok ())), .lower 0 secondRinger, .free 0 1, .free 0 9, .register chime (some (.ok ()))]

theorem shutdown_reckons_chime :
    (World.new []).Separate ∧ ({ unverified with started := true } : Bindings).running = .ok .direct ∧
      outstanding chiming ({ unverified with started := true }, .new []) = [("Chime", 1)] ∧
      ∃ b' w', (ServiceStep.through chiming ({ unverified with started := true }, .new [])).1.shutdown
        (ServiceStep.through chiming ({ unverified with started := true }, .new [])).2 = .ok ([("Chime", 1)], b') w' ∧
        w'.entriesOf 0 = [] := by
  have hw : (World.new []).Separate := ⟨List.nodup_nil, nofun⟩
  have hrunning : ({ unverified with started := true } : Bindings).running = .ok .direct := rfl
  have h := shutdown_reckons hw hrunning rfl chiming
  obtain ⟨w', hshutdown, -, hempty, -⟩ := h.tells
  exact ⟨hw, hrunning, rfl, _, w', hshutdown, hempty ("Chime", 0) List.mem_cons_self⟩

end Bindings

end ForeignBridge
