import ForeignBridge.Proofs.Bindings.Restarts
import ForeignBridge.Proofs.Contract.Agreement

/-!
No calls on a library that was not verified. Bindings that verify on every start give access to calls just while they
run, and while they run their library matches the manifest, as their report says.
-/

namespace ForeignBridge

open Act

namespace Bindings

variable {b b' : Bindings} {l : NativeLibrary} {expected : Option ContractManifest} {m : ContractManifest}
  {w w' : World}

/-- Bindings of a library and a manifest that verify on every start. Running, they have an allocator, and the library
is as their report says: it matches the manifest. -/
structure Guarded (l : NativeLibrary) (expected : Option ContractManifest) (b : Bindings) : Prop where
  library : b.library = l
  manifest : b.manifest = expected
  verifies : b.config.contract.value.verifyOnStart.value = true
  allocates : b.started = true → ∃ a, b.allocator = some a
  verified : b.started = true → ∃ m, expected = some m ∧ l.Matches m ∧ b.report = some (l.report m)

/-- Starts always come to an end, and one that fails leaves the bindings stopped. -/
theorem start_ends (b : Bindings) (w : World) :
    ∃ r b' w', b.start w = .ok (r, b') w' ∧ ∀ f, r = .error f → b'.started = false := by
  rcases b.start_cases w with
    ⟨-, hrun⟩ | ⟨hs, v, ⟨f, w₁, -, hrun⟩ | ⟨b₁, v', hverify, ⟨f, -, hrun⟩ | ⟨a, b₂, w₁, hbind, hrun⟩⟩⟩
  · exact ⟨_, _, _, hrun, nofun⟩
  · exact ⟨_, _, _, hrun, fun _ _ => hs⟩
  · refine ⟨_, _, _, hrun, fun _ _ => ?_⟩
    rw [verify_eq hverify]
    exact hs
  · exact ⟨_, _, _, hrun, nofun⟩

/-- A registration changes no more than the dispatchers, and the allocator if there was none. -/
theorem settled_register (b : Bindings) (i : CallbackInterface) (w : World) :
    ∃ allocator dispatchers,
      (b.settled (b.register i) w).1 = { b with allocator := allocator, dispatchers := dispatchers } ∧
        (b.allocator.isSome → allocator.isSome) := by
  cases h : b.register i w with
  | error f w' =>
    rw [settled_of_error h]
    exact ⟨b.allocator, b.dispatchers, rfl, id⟩
  | ok r w' =>
    obtain ⟨number, b'⟩ := r
    rw [settled_of_ok h]
    unfold register at h
    rcases Bool.eq_false_or_eq_true b.started with hs | hs
    · rw [hs] at h
      cases hl : Value.lookup i.name b.dispatchers with
      | some id =>
        rw [hl] at h
        cases h
        exact ⟨b.allocator, b.dispatchers, rfl, fun ha => ha⟩
      | none =>
        rw [hl] at h
        obtain ⟨bound, v, hbind, hmake⟩ := bind_eq_ok h
        obtain ⟨id, v', -, hnote⟩ := bind_eq_ok hmake
        obtain ⟨_, u, -, hdone⟩ := bind_eq_ok hnote
        cases hdone
        cases ha : b.bindAllocator with
        | error f =>
          rw [ha] at hbind
          cases hbind
        | ok bound =>
          obtain ⟨a, b₁⟩ := bound
          rw [ha] at hbind
          cases hbind
          rw [bindAllocator_eq ha]
          exact ⟨some a, _, rfl, fun _ => rfl⟩
    · rw [hs] at h
      cases h

/-- A shutdown changes no more than that the bindings have stopped and have no dispatchers, if it changes them. -/
theorem settled_shutdown (b : Bindings) (w : World) :
    (b.settled b.shutdown w).1 = b ∨ (b.settled b.shutdown w).1 = { b with started := false, dispatchers := [] } := by
  cases h : b.shutdown w with
  | error f w' =>
    rw [settled_of_error h]
    exact .inl rfl
  | ok r w' =>
    obtain ⟨leaked, b'⟩ := r
    rw [settled_of_ok h]
    unfold shutdown at h
    cases hs : b.started with
    | false =>
      rw [hs] at h
      cases h
      exact .inl rfl
    | true =>
      rw [hs] at h
      obtain ⟨_, v, -, hclosed⟩ := bind_eq_ok h
      obtain ⟨_, v', -, hstopped⟩ := bind_eq_ok hclosed
      cases hstopped
      exact .inr rfl

namespace Guarded

/-- Verifying gives bindings with a report of a library that matches. -/
theorem verify (h : Guarded l expected b) (hverify : b.verify w = .ok b' w') :
    ∃ m, expected = some m ∧ l.Matches m ∧ b' = { b with report := some (l.report m) } := by
  have heq := verify_eq hverify
  unfold Bindings.verify at hverify
  rw [if_pos h.verifies, h.library, h.manifest] at hverify
  cases expected with
  | none => cases hverify
  | some m =>
    obtain ⟨r, v, hreport, hset⟩ := bind_eq_ok hverify
    cases hset
    by_cases hmatch : l.Matches m
    · obtain ⟨v', hrun⟩ := hmatch.verifyContract true w
      cases hreport.symm.trans hrun
      exact ⟨m, rfl, hmatch, heq⟩
    · obtain ⟨why, v', hrun⟩ := NativeLibrary.verifyContract_unmatched hmatch w
      cases hreport.symm.trans hrun

/-- Bindings that do not run have nothing to answer for. -/
theorem of_stopped (h : Guarded l expected b) (hlibrary : b'.library = b.library) (hmanifest : b'.manifest = b.manifest)
    (hconfig : b'.config = b.config) (hs : b'.started = false) : Guarded l expected b' where
  library := hlibrary.trans h.library
  manifest := hmanifest.trans h.manifest
  verifies := hconfig ▸ h.verifies
  allocates hrun := absurd hrun (Bool.eq_false_iff.mp hs)
  verified hrun := absurd hrun (Bool.eq_false_iff.mp hs)

theorem start (h : Guarded l expected b) (w : World) : Guarded l expected (b.settled b.start w).1 := by
  rcases b.start_cases w with
    ⟨-, hrun⟩ | ⟨hs, v, ⟨f, w₁, -, hrun⟩ | ⟨b₁, v', hverify, ⟨f, -, hrun⟩ | ⟨a, b₂, w₁, hbind, hrun⟩⟩⟩
  · rw [settled_of_ok hrun]
    exact h
  · rw [settled_of_ok hrun]
    exact h
  · obtain ⟨m, -, -, rfl⟩ := h.verify hverify
    rw [settled_of_ok hrun]
    exact h.of_stopped rfl rfl rfl hs
  · obtain ⟨m, hm, hmatch, rfl⟩ := h.verify hverify
    rw [settled_of_ok hrun, bindAllocator_eq hbind]
    exact ⟨h.library, h.manifest, h.verifies, fun _ => ⟨a, rfl⟩, fun _ => ⟨m, hm, hmatch, rfl⟩⟩

theorem step (h : Guarded l expected b) (step : BindingsStep) (w : World) : Guarded l expected (step.run b w).1 := by
  cases step with
  | start => exact h.start w
  | register i =>
    obtain ⟨allocator, dispatchers, heq, hsome⟩ := settled_register b i w
    rw [BindingsStep.run, heq]
    refine ⟨h.library, h.manifest, h.verifies, fun hs => ?_, h.verified⟩
    obtain ⟨a, ha⟩ := h.allocates hs
    exact Option.isSome_iff_exists.mp (hsome (ha ▸ rfl))
  | shutdown =>
    rw [BindingsStep.run]
    rcases settled_shutdown b w with heq | heq
    · rw [heq]
      exact h
    · rw [heq]
      exact h.of_stopped rfl rfl rfl rfl
  | install | lower | free | dispatch => exact h

theorem run (h : Guarded l expected b) (steps : List BindingsStep) (w : World) :
    Guarded l expected (through steps (b, w)).1 := by
  induction steps generalizing b w with
  | nil => exact h
  | cons step rest ih => exact ih (h.step step w) _

/-- Calls are there just while the bindings run. -/
theorem running_iff (h : Guarded l expected b) : (∃ a, b.running = .ok a) ↔ b.started = true := by
  unfold running
  cases hs : b.started with
  | false => exact ⟨nofun, nofun⟩
  | true =>
    obtain ⟨a, ha⟩ := h.allocates hs
    rw [ha]
    exact ⟨fun _ => rfl, fun _ => ⟨a, rfl⟩⟩

end Guarded

theorem objectType_iff (b : Bindings) (name : String) (clone free : NativeFunction) :
    (∃ t, b.objectType name clone free = .ok t) ↔ ∃ a, b.running = .ok a := by
  unfold objectType
  cases b.running with
  | ok a => exact ⟨fun _ => ⟨a, rfl⟩, fun _ => ⟨⟨name, clone, free, a⟩, rfl⟩⟩
  | error f => exact ⟨nofun, nofun⟩

theorem new_guarded (l : NativeLibrary) {config : RuntimeConfig} (expected : Option ContractManifest)
    (allocator : Option Allocator) (hv : config.contract.value.verifyOnStart.value = true) :
    Guarded l expected (.new l config expected allocator) :=
  ⟨rfl, rfl, hv, nofun, nofun⟩

/-- Whatever was done with bindings that verify on every start: calls and object types are there just while they run;
while they run the library matches the manifest, and the report is ok and lists all checksums; and a start that fails
leaves them stopped. -/
theorem running_verified {config : RuntimeConfig} {allocator : Option Allocator} {steps : List BindingsStep}
    (hv : config.contract.value.verifyOnStart.value = true)
    (hrun : through steps (.new l config expected allocator, w) = (b, w')) :
    ((∃ a, b.running = .ok a) ↔ b.started = true) ∧
    (∀ name clone free, (∃ t, b.objectType name clone free = .ok t) ↔ b.started = true) ∧
    (b.started = true → ∃ m r, expected = some m ∧ Value.lookup m.versionSymbol l.symbols = some m.version ∧
      (∀ c ∈ m.checksums, Value.lookup c.1 l.symbols = some c.2) ∧
      b.report = some r ∧ r.isOk = true ∧ r.checked = m.checksums.map Prod.fst) ∧
    ∀ v, ∃ r b' v', b.start v = .ok (r, b') v' ∧ ∀ f, r = .error f → b'.started = false := by
  have h := (new_guarded l expected allocator hv).run steps w
  rw [hrun] at h
  refine ⟨h.running_iff, fun name clone free => ?_, fun hs => ?_, b.start_ends⟩
  · rw [objectType_iff]
    exact h.running_iff
  · obtain ⟨m, hm, hmatch, hreport⟩ := h.verified hs
    rw [hmatch.report] at hreport
    exact ⟨m, _, hm, hmatch.version, hmatch.checksums, hreport, rfl, rfl⟩

def chimeLibrary : NativeLibrary := ⟨[("chime_version", 3), ("chime_ring", 7)], []⟩

def chimeContract : ContractManifest := ⟨"chime", 3, some "chime_version", [("chime_ring", 7)]⟩

theorem running_verified_chime :
    ∃ m r, some chimeContract = some m ∧ Value.lookup m.versionSymbol chimeLibrary.symbols = some m.version ∧
      (∀ c ∈ m.checksums, Value.lookup c.1 chimeLibrary.symbols = some c.2) ∧
      (through [.start, .shutdown, .start]
          (.new chimeLibrary .byDefault (some chimeContract) (some .direct), .new [])).1.report =
        some r ∧ r.isOk = true ∧ r.checked = m.checksums.map Prod.fst :=
  (running_verified rfl rfl).2.2.1 (by decide +kernel)

end Bindings

end ForeignBridge
