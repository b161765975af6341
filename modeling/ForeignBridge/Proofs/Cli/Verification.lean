import ForeignBridge.Cli.Run
import ForeignBridge.Proofs.Contract.Agreement
import ForeignBridge.Proofs.Log.Setup

/-!
Verifying on the command line. Whether a verification collects or is strict, the tool returns just if there are a
configuration, a manifest and a library to verify, and the library matches the manifest.
-/

namespace ForeignBridge

namespace Cli

variable {α β : Type} {around : Surroundings} {s s' : State}

theorem bind_of_ok {x : Step α} {f : α → Step β} {a : α} (h : x s = .ok a s') : (x >>= f) s = f a s' := by
  change EStateM.bind x f s = _
  rw [EStateM.bind, h]

theorem bind_eq_ok {x : Step α} {f : α → Step β} {b : β} (h : (x >>= f) s = .ok b s') :
    ∃ a v, x s = .ok a v ∧ f a v = .ok b s' := by
  cases hx : x s with
  | ok a v =>
    rw [bind_of_ok hx] at h
    exact ⟨a, v, rfl, h⟩
  | error e v =>
    change EStateM.bind x f s = _ at h
    rw [EStateM.bind, hx] at h
    cases h

theorem orGiveUp_eq_ok {r : Except Failure α} {expected : Failure → Option String} {a : α} :
    orGiveUp r expected s = .ok a s' ↔ r = .ok a ∧ s' = s := by
  cases r with
  | ok a' =>
    constructor
    · rintro ⟨⟩
      exact ⟨rfl, rfl⟩
    · rintro ⟨⟨⟩, rfl⟩
      rfl
  | error f =>
    refine ⟨fun h => ?_, nofun⟩
    unfold orGiveUp at h
    dsimp only at h
    cases he : expected f with
    | some why => rw [he] at h; cases h
    | none => rw [he] at h; cases h

theorem withLogging_of_ok {x : LogAct α} {a : α} {l : Logging} (h : x s.logging = .ok a l) :
    ∃ s', withLogging x s = .ok a s' := by
  unfold withLogging
  have hget : (get : Step State) s = .ok s s := rfl
  rw [bind_of_ok hget, h]
  exact ⟨_, rfl⟩

/-- A loop returns if each of its turns does. -/
theorem forIn_returns {f : β → Step Unit} (hf : ∀ b s, ∃ s', f b s = .ok () s') (bs : List β) (s : State) :
    ∃ s', (forIn bs PUnit.unit fun b _ => do f b; return .yield PUnit.unit : Step PUnit) s = .ok .unit s' := by
  induction bs generalizing s with
  | nil => exact ⟨s, rfl⟩
  | cons b rest ih =>
    obtain ⟨v, hv⟩ := hf b s
    obtain ⟨s', hrest⟩ := ih v
    have hturn : (do f b; return .yield PUnit.unit : Step (ForInStep PUnit)) s = .ok (.yield .unit) v :=
      bind_of_ok hv
    rw [List.forIn_cons, bind_of_ok hturn]
    exact ⟨s', hrest⟩

theorem relay_returns (entries : List LogEntry) (s : State) : ∃ s', relay entries s = .ok () s' := by
  obtain ⟨s', hloop⟩ := forIn_returns (fun (e : LogEntry) s =>
    have ⟨_, hlog⟩ := Logging.log_run (List.forall_mem_nil _) e.channel.name e.level.number (.text e.message) s.logging
    withLogging_of_ok hlog) entries s
  exact ⟨s', bind_of_ok hloop⟩

theorem verifyLibrary_of_found {path manifest : String} {l : NativeLibrary} {m : ContractManifest}
    (hl : Value.lookup path around.libraries = some l)
    (hm : ContractManifest.ofFile s.logging.files manifest = .ok m) (strict : Bool) :
    (∃ s', verifyLibrary around path manifest strict s = .ok () s') ↔ l.Matches m := by
  have hget : (get : Step State) s = .ok s s := rfl
  have hmanifest : orGiveUp (ContractManifest.ofFile s.logging.files manifest) verificationFault? s = .ok m s :=
    orGiveUp_eq_ok.mpr ⟨hm, rfl⟩
  unfold verifyLibrary
  rw [bind_of_ok hget, bind_of_ok hmanifest, hl]
  dsimp only
  rw [bind_of_ok (orGiveUp_eq_ok.mpr ⟨rfl, rfl⟩)]
  by_cases hmatch : l.Matches m
  · refine ⟨fun _ => hmatch, fun _ => ?_⟩
    obtain ⟨w, hverify⟩ := hmatch.verifyContract strict (World.new [])
    obtain ⟨v, hrelay⟩ := relay_returns w.log s
    rw [hverify]
    dsimp only
    rw [bind_of_ok hrelay, hmatch.report]
    exact ⟨_, rfl⟩
  · refine ⟨?_, fun h => absurd h hmatch⟩
    rintro ⟨s', hrun⟩
    cases strict with
    | true =>
      obtain ⟨why, w, hverify⟩ := NativeLibrary.verifyContract_unmatched hmatch (World.new [])
      rw [hverify] at hrun
      obtain ⟨_, _, -, hend⟩ := bind_eq_ok hrun
      cases hend
    | false =>
      obtain ⟨log, hverify⟩ := NativeLibrary.verifyContract_collecting l m (World.new [])
      rw [hverify] at hrun
      obtain ⟨_, _, -, hsaid⟩ := bind_eq_ok hrun
      obtain ⟨_, _, -, hend⟩ := bind_eq_ok hsaid
      rw [Bool.eq_false_iff.mpr (mt NativeLibrary.report_isOk.mp hmatch)] at hend
      cases hend

/-- A verification returns just if it finds a library and a manifest, and they match. -/
theorem verifyLibrary_returns {path manifest : String} {strict : Bool} :
    (∃ s', verifyLibrary around path manifest strict s = .ok () s') ↔
      ∃ l m, Value.lookup path around.libraries = some l ∧
        ContractManifest.ofFile s.logging.files manifest = .ok m ∧ l.Matches m := by
  constructor
  · intro hreturns
    have ⟨s', hrun⟩ := hreturns
    unfold verifyLibrary at hrun
    obtain ⟨_, _, hget, hread⟩ := bind_eq_ok hrun
    cases hget
    obtain ⟨m, _, hm, hload⟩ := bind_eq_ok hread
    obtain ⟨hm, rfl⟩ := orGiveUp_eq_ok.mp hm
    obtain ⟨_, _, hl, _⟩ := bind_eq_ok hload
    have hl := (orGiveUp_eq_ok.mp hl).1
    cases hlookup : Value.lookup path around.libraries with
    | none => rw [hlookup] at hl; cases hl
    | some l => exact ⟨l, m, rfl, hm, (verifyLibrary_of_found hlookup hm strict).mp hreturns⟩
  · rintro ⟨l, m, hl, hm, hmatch⟩
    exact (verifyLibrary_of_found hl hm strict).mpr hmatch

/-- A path that was given or else configured, if it says anything. -/
def pathOf (settings : List (String × String)) (key : String) (configured : Option String) : Option String :=
  (((Value.lookup key settings).bind named).or configured).bind named

/-- A run with these settings comes as far as finding the library and the manifest that it is to verify. -/
def Finds (around : Surroundings) (files : Files) (now : Double) (settings : List (String × String))
    (l : NativeLibrary) (m : ContractManifest) : Prop :=
  ∃ config s path manifest,
    configuration around files settings = .ok config ∧
    withLogging (LoggingManager.setupShared (some config.logging.value)) ⟨.new files now, []⟩ = .ok () s ∧
    pathOf settings "library" config.libraryPath.value = some path ∧
    pathOf settings "contract" config.contract.value.manifestFile.value = some manifest ∧
    Value.lookup path around.libraries = some l ∧
    ContractManifest.ofFile s.logging.files manifest = .ok m

/-- Settings that differ in no more than whether all mismatches are wanted. -/
def SameBesidesAll (settings settings' : List (String × String)) : Prop :=
  ∀ key, key ≠ "all" → Value.lookup key settings = Value.lookup key settings'

variable {files : Files} {now : Double} {settings settings' : List (String × String)} {args args' : List String}
  {operand operand' : String} {l : NativeLibrary} {m : ContractManifest}

theorem SameBesidesAll.finds (h : SameBesidesAll settings settings') :
    Finds around files now settings l m ↔ Finds around files now settings' l m := by
  unfold Finds configuration pathOf
  rw [h "config" (by decide), h "log-level" (by decide), h "log-format" (by decide), h "library" (by decide),
    h "contract" (by decide)]

theorem outcome_returned :
    (outcome around files now args).1 = .returned ↔ ∃ s, run around args ⟨.new files now, []⟩ = .ok () s := by
  unfold outcome
  cases hrun : run around args ⟨.new files now, []⟩ with
  | ok _ s => exact ⟨fun _ => ⟨s, rfl⟩, fun _ => rfl⟩
  | error e s =>
    refine ⟨fun h => ?_, nofun⟩
    cases e <;> cases h

theorem runCommand_verify (around : Surroundings) (config : RuntimeConfig) (settings : List (String × String))
    (operand : String) :
    runCommand around config (some verify) settings operand =
      match pathOf settings "library" config.libraryPath.value,
        pathOf settings "contract" config.contract.value.manifestFile.value with
      | some l, some m => verifyLibrary around l m (Value.lookup "all" settings).isNone
      | _, _ => giveUp "Both a library (--library) and a contract manifest (--contract) are required" := by
  unfold runCommand
  dsimp only
  rw [if_neg (by decide), if_neg (by decide)]
  rfl

theorem run_verify (h : tool.read args = .run (some verify) settings operand) :
    run around args ⟨.new files now, []⟩ =
      (do let config ← orGiveUp (configuration around files settings)
            fun f => (documentFault? f).map ("Invalid configuration: " ++ ·)
          withLogging (LoggingManager.setupShared (some config.logging.value))
          runCommand around config (some verify) settings operand : Step Unit) ⟨.new files now, []⟩ := by
  unfold run
  rw [h]
  rfl

/-- Verifying returns just if the run finds a library and a manifest, and they match. -/
theorem verify_returns (h : tool.read args = .run (some verify) settings operand) :
    (outcome around files now args).1 = .returned ↔
      ∃ l m, Finds around files now settings l m ∧ l.Matches m := by
  rw [outcome_returned, run_verify h]
  constructor
  · rintro ⟨s', hrun⟩
    obtain ⟨config, _, hloaded, hlog⟩ := bind_eq_ok hrun
    obtain ⟨hconfig, rfl⟩ := orGiveUp_eq_ok.mp hloaded
    obtain ⟨_, s, hsetup, hcommand⟩ := bind_eq_ok hlog
    rw [runCommand_verify] at hcommand
    cases hpath : pathOf settings "library" config.libraryPath.value with
    | none => rw [hpath] at hcommand; cases hcommand
    | some path =>
      cases hmanifest : pathOf settings "contract" config.contract.value.manifestFile.value with
      | none => rw [hpath, hmanifest] at hcommand; cases hcommand
      | some manifest =>
        rw [hpath, hmanifest] at hcommand
        obtain ⟨l, m, hl, hm, hmatch⟩ := verifyLibrary_returns.mp ⟨s', hcommand⟩
        exact ⟨l, m, ⟨config, s, path, manifest, hconfig, hsetup, hpath, hmanifest, hl, hm⟩, hmatch⟩
  · rintro ⟨l, m, ⟨config, s, path, manifest, hconfig, hsetup, hpath, hmanifest, hl, hm⟩, hmatch⟩
    rw [bind_of_ok (orGiveUp_eq_ok.mpr ⟨hconfig, rfl⟩), bind_of_ok hsetup, runCommand_verify, hpath, hmanifest]
    exact verifyLibrary_returns.mpr ⟨l, m, hl, hm, hmatch⟩

theorem sameBesidesAll_append (settings : List (String × String)) (said : String) :
    SameBesidesAll settings (settings ++ [("all", said)]) := by
  intro key hkey
  induction settings with
  | nil => exact (if_neg hkey.symm).symm
  | cons setting rest ih =>
    rw [List.cons_append, Value.lookup, Value.lookup, ih]

/-- A collecting verification reports just the disagreements of a library with a manifest, and calls no more than it
must. A strict one ends with the first of them, and without any it is the same as a collecting one. So for the tool it
makes no difference which one is wanted: it returns just if it finds a library and a manifest, and they match. -/
theorem verification_agrees :
    (∀ l m w,
      (∃ log, verifyContract l m false w =
        .ok (l.report m) { w with calls := countCalls w.calls (l.consulted m), log := log }) ∧
      match l.disagreements m with
      | [] => verifyContract l m true w = verifyContract l m false w
      | why :: _ => ∃ w', verifyContract l m true w = .error (.contract why) w') ∧
    ∀ around files now args settings operand, tool.read args = .run (some verify) settings operand →
      ((outcome around files now args).1 = .returned ↔ ∃ l m, Finds around files now settings l m ∧ l.Matches m) ∧
      ∀ args' settings' operand', tool.read args' = .run (some verify) settings' operand' →
        SameBesidesAll settings settings' →
        ((outcome around files now args).1 = .returned ↔ (outcome around files now args').1 = .returned) := by
  refine ⟨fun l m w => ⟨l.verifyContract_collecting m w, l.verifyContract_strict m w⟩, ?_⟩
  intro around files now args settings operand hread
  refine ⟨verify_returns hread, ?_⟩
  intro args' settings' operand' hread' hsame
  rw [verify_returns hread, verify_returns hread']
  simp only [hsame.finds]

/-- A library at its path. -/
def bellAround : Surroundings := ⟨[], [("bell.so", ⟨[("bell_version", 3)], []⟩)]⟩

/-- A manifest that it matches. -/
def bellFiles : Files :=
  ⟨[("bell.json", "\x7b\"namespace\": \"bell\", \"contract_version\": 3, \"contract_version_symbol\": \"bell_version\"\x7d")],
    []⟩

theorem verification_agrees_bell :
    ((outcome bellAround bellFiles default ["verify", "--library", "bell.so", "--contract", "bell.json"]).1 =
        .returned ↔
      (outcome bellAround bellFiles default
        ["verify", "--library", "bell.so", "--contract", "bell.json", "--all"]).1 = .returned) :=
  (verification_agrees.2 _ _ _ _ [("library", "bell.so"), ("contract", "bell.json")] "" (by decide +kernel)).2 _ _ ""
    (by decide +kernel) (sameBesidesAll_append _ "")

end Cli

end ForeignBridge
