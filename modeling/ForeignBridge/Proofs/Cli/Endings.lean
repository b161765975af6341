import ForeignBridge.Proofs.Cli.Verification
import ForeignBridge.Proofs.Config.CommandLine
import ForeignBridge.Proofs.Document.Settings
import ForeignBridge.Proofs.Log.Setup

/-!
How runs of the tool end. Showing a manifest and verifying a library return or leave with the code 1, but for three
things that nothing tells of: a document that is no dictionary with texts as keys or that its reader fails on, and a
log file that cannot be opened.
-/

namespace ForeignBridge

namespace Cli

variable {files : Files} {missing content path : String} {f : Failure}

/-- What is wrong with a document that nothing tells of. -/
inductive Spoils (files : Files) (path : String) : Failure → Prop
  /-- The file is there, but it cannot be read. -/
  | unread {f : Failure} (h : ∀ missing, files.read missing path = .error f) (hf : manifestFault? f = none) :
      Spoils files path f
  /-- The reader of the format fails. -/
  | reader {text : String} {f : Failure} (h : ∀ missing, files.read missing path = .ok text)
      (hread : (DocumentFormat.ofPath path).read text = .error (.failure f)) (hf : manifestFault? f = none) :
      Spoils files path f
  /-- The document says something, and is no dictionary with texts as keys. -/
  | shape {text : String} {v : Value} (h : ∀ missing, files.read missing path = .ok text)
      (hread : (DocumentFormat.ofPath path).read text = .ok v) (htrue : v.truthy = true)
      (hshape : ∀ entries, v = .dict entries → ∃ e ∈ entries, e.1.asText? = none) : Spoils files path .notSettings

/-- A document is told of, or it spoils the run. -/
theorem spoils_iff (missing content : String) :
    Spoils files path f ↔ files.settings missing content path = .error f ∧ manifestFault? f = none := by
  constructor
  · intro h
    cases h with
    | unread h hf => exact ⟨Files.settings_of_unread (h missing) content, hf⟩
    | reader h hread hf =>
      refine ⟨?_, hf⟩
      rw [Files.settings_eq (h missing), hread]
    | shape h hread htrue hshape =>
      refine ⟨?_, rfl⟩
      rw [Files.settings_eq (h missing), hread]
      exact Value.settings_eq_error.mpr ⟨rfl, htrue, hshape⟩
  · rintro ⟨h, hf⟩
    cases hread : files.read missing path with
    | error e =>
      have he : e = f := Except.error.inj ((Files.settings_of_unread hread content).symm.trans h)
      subst he
      refine .unread (fun other => ?_) hf
      rw [Files.read_eq files missing, hread]
      cases e with
      | noFile => cases hf
      | _ => rfl
    | ok text =>
      have hothers : ∀ other, files.read other path = .ok text := by
        intro other
        rw [Files.read_eq files missing, hread]
      rw [Files.settings_eq hread] at h
      cases hdocument : (DocumentFormat.ofPath path).read text with
      | ok v =>
        rw [hdocument] at h
        obtain ⟨rfl, htrue, hshape⟩ := Value.settings_eq_error.mp h
        exact .shape hothers hdocument htrue hshape
      | error u =>
        rw [hdocument] at h
        cases u with
        | malformed =>
          cases h
          cases hf
        | failure why =>
          cases h
          exact .reader hothers hdocument hf

/-! ### Configurations -/

theorem manifestFault?_eq_none :
    manifestFault? f = none ↔ documentFault? f = none ∧ ∀ what p, f ≠ .noFile what p := by
  cases f <;> simp [manifestFault?, documentFault?]

theorem except_bind_eq_error {α β : Type} {x : Except Failure α} {g : α → Except Failure β} (h : (x >>= g) = .error f) :
    x = .error f ∨ ∃ a, x = .ok a ∧ g a = .error f := by
  cases x with
  | error e =>
    left
    cases h
    rfl
  | ok a => exact .inr ⟨a, rfl, h⟩

/-- What a check finds wrong is told of. -/
theorem told_of_result {α : Type} {x : Checked α} {model : String} (h : x.result model = .error f) :
    documentFault? f ≠ none := by
  cases x with
  | ok a => cases h
  | faults found =>
    cases h
    exact nofun

variable {around : Surroundings} {settings : List (String × String)} {path : Option String} {env : Environment}

theorem withEnvironment_told {start : String} {base : RuntimeConfig}
    (h : RuntimeConfig.withEnvironment start env base = .error f) : documentFault? f ≠ none := by
  unfold RuntimeConfig.withEnvironment at h
  split at h
  · cases h
  · exact told_of_result h

theorem load_eq_error {start : String} (h : RuntimeConfig.load files env path start true = .error f)
    (hf : documentFault? f = none) : ∃ p, path.bind named = some p ∧ Spoils files p f := by
  unfold RuntimeConfig.load at h
  cases hp : path.bind named with
  | none =>
    rw [hp] at h
    exact absurd hf (withEnvironment_told h)
  | some p =>
    rw [hp] at h
    dsimp only at h
    split at h
    · exact absurd hf (withEnvironment_told h)
    · rename_i hno
      rcases except_bind_eq_error h with hfile | ⟨base, -, henvironment⟩
      · rcases except_bind_eq_error hfile with hsettings | ⟨doc, -, hdocument⟩
        · have hnot : ∀ what q, f ≠ .noFile what q := fun what q heq => hno what q (heq ▸ hfile)
          exact ⟨p, rfl, (spoils_iff _ _).mpr ⟨hsettings, manifestFault?_eq_none.mpr ⟨hf, hnot⟩⟩⟩
        · exact absurd hf (told_of_result hdocument)
      · exact absurd hf (withEnvironment_told henvironment)

theorem load_of_spoils {start p : String} (hp : path.bind named = some p) (h : Spoils files p f) :
    RuntimeConfig.load files env path start true = .error f := by
  obtain ⟨hsettings, hf⟩ := (spoils_iff "Configuration file" "configuration file").mp h
  have hno := (manifestFault?_eq_none.mp hf).2
  have hfile : RuntimeConfig.ofFile files p = .error f := by
    unfold RuntimeConfig.ofFile
    rw [hsettings]
    rfl
  unfold RuntimeConfig.load
  rw [hp]
  dsimp only
  rw [hfile]
  cases f with
  | noFile what q => exact absurd rfl (hno what q)
  | _ => rfl

/-- A configuration fails the run just if its file's document spoils it. -/
theorem configuration_untold :
    configuration around files settings = .error f ∧ documentFault? f = none ↔
      ∃ p, (Value.lookup "config" settings).bind named = some p ∧ Spoils files p f := by
  unfold configuration RuntimeConfig.ofCommandLine
  constructor
  · rintro ⟨h, hf⟩
    rcases except_bind_eq_error h with hload | ⟨loaded, -, hrest⟩
    · exact load_eq_error hload hf
    · rcases except_bind_eq_error hrest with hflags | ⟨flags, -, hmerge⟩
      · exact absurd hf (told_of_result hflags)
      · exact absurd hf (told_of_result hmerge)
  · rintro ⟨p, hp, h⟩
    refine ⟨?_, (manifestFault?_eq_none.mp ((spoils_iff "" "").mp h).2).1⟩
    rw [load_of_spoils hp h]
    rfl

/-! ### Steps -/

variable {α β : Type} {s s' : State} {x : Step α} {g : α → Step Unit} {r : Except Failure α}
  {expected : Failure → Option String} {P Q : Failure → Prop}

theorem bind_of_error {e : Ending} (h : x s = .error e s') : (x >>= g) s = .error e s' := by
  change EStateM.bind x g s = _
  rw [EStateM.bind, h]

/-- A step returns, or leaves with the code 1, or it fails, and then with a failure of some kind. -/
def Ends (x : Step Unit) (s : State) (P : Failure → Prop) : Prop :=
  (∃ s', x s = .ok () s') ∨ (∃ s', x s = .error (.exit 1) s') ∨ ∃ f s', x s = .error (.failed f) s' ∧ P f

theorem Ends.mono {x : Step Unit} (h : Ends x s P) (hpq : ∀ f, P f → Q f) : Ends x s Q := by
  rcases h with hok | hexit | ⟨f, s', hfailed, hf⟩
  · exact .inl hok
  · exact .inr (.inl hexit)
  · exact .inr (.inr ⟨f, s', hfailed, hpq f hf⟩)

theorem Ends.bind_of_ok {a : α} (hx : x s = .ok a s') (hg : Ends (g a) s' P) : Ends (x >>= g) s P := by
  unfold Ends
  rw [Cli.bind_of_ok hx]
  exact hg

/-- A result that is wanted ends a run just where nothing tells of the failure. -/
theorem Ends.orGiveUp (hr : ∀ f, r = .error f → expected f = none → P f) (hg : ∀ a, r = .ok a → Ends (g a) s P) :
    Ends (orGiveUp r expected >>= g) s P := by
  cases r with
  | ok a => exact .bind_of_ok (orGiveUp_eq_ok.mpr ⟨rfl, rfl⟩) (hg a rfl)
  | error f =>
    cases hf : expected f with
    | some why =>
      right
      left
      refine ⟨{ s with printed := s.printed ++ [.text ("❌ " ++ why ++ "\n")] }, bind_of_error ?_⟩
      unfold Cli.orGiveUp
      dsimp only
      rw [hf]
      rfl
    | none =>
      right
      right
      refine ⟨f, s, bind_of_error ?_, hr f rfl hf⟩
      unfold Cli.orGiveUp
      dsimp only
      rw [hf]
      rfl

theorem orGiveUp_untold (hr : r = .error f) (hf : expected f = none) :
    (orGiveUp r expected >>= g) s = .error (.failed f) s := by
  refine bind_of_error ?_
  rw [hr]
  unfold orGiveUp
  dsimp only
  rw [hf]
  rfl

theorem ends_giveUp (why : String) (s : State) : Ends (giveUp why) s P := .inr (.inl ⟨_, rfl⟩)

/-! ### Commands -/

variable {manifest : String} {m : ContractManifest} {config : RuntimeConfig} {operand : String}

/-- A manifest that cannot be had is told of, or its document spoils the run. -/
theorem manifest_untold :
    ContractManifest.ofFile files manifest = .error f ∧ manifestFault? f = none ↔ Spoils files manifest f := by
  unfold ContractManifest.ofFile
  rw [spoils_iff "Contract manifest" "contract manifest"]
  constructor
  · rintro ⟨h, hf⟩
    rcases except_bind_eq_error h with hsettings | ⟨doc, -, hdocument⟩
    · exact ⟨hsettings, hf⟩
    · unfold ContractManifest.ofDocument? at hdocument
      split at hdocument
      · cases hdocument
      · cases hdocument
        cases hf
  · rintro ⟨h, hf⟩
    refine ⟨?_, hf⟩
    rw [h]
    rfl

theorem say_returns (line : String) (s : State) : ∃ s', say line s = .ok () s' := ⟨_, rfl⟩

theorem ends_showManifest (path : String) (s : State) : Ends (showManifest path) s (Spoils s.logging.files path) := by
  have hget : (get : Step State) s = .ok s s := rfl
  unfold showManifest
  apply Ends.bind_of_ok hget
  apply Ends.orGiveUp
  · intro f h hf
    exact manifest_untold.mp ⟨h, hf⟩
  · intro m _
    obtain ⟨s₁, h₁⟩ := say_returns s!"Namespace:        {m.space}" s
    obtain ⟨s₂, h₂⟩ := say_returns s!"Contract version: {m.version}" s₁
    obtain ⟨s₃, h₃⟩ := say_returns s!"Version symbol:   {m.versionSymbol}" s₂
    obtain ⟨s₄, h₄⟩ := say_returns s!"Checksums:        {m.checksums.length}" s₃
    obtain ⟨s', hloop⟩ := forIn_returns
      (fun (c : String × Int) => say_returns s!"  {padRight 60 c.1} {padLeft 5 (toString c.2)}")
      (m.checksums.mergeSort fun a b => a.1 ≤ b.1) s₄
    exact .bind_of_ok h₁ (.bind_of_ok h₂ (.bind_of_ok h₃ (.bind_of_ok h₄ (.bind_of_ok hloop (.inl ⟨_, rfl⟩)))))

/-- A verification has a report, or it ends with a disagreement. -/
theorem verifyContract_outcome (l : NativeLibrary) (m : ContractManifest) (strict : Bool) (w : World) :
    (∃ report w', verifyContract l m strict w = .ok report w') ∨
      ∃ why w', verifyContract l m strict w = .error (.contract why) w' := by
  by_cases h : l.Matches m
  · obtain ⟨w', hreport⟩ := h.verifyContract strict w
    exact .inl ⟨_, w', hreport⟩
  · cases strict with
    | true => exact .inr (NativeLibrary.verifyContract_unmatched h w)
    | false =>
      obtain ⟨log, hreport⟩ := NativeLibrary.verifyContract_collecting l m w
      exact .inl ⟨_, _, hreport⟩

theorem ends_verifyLibrary (around : Surroundings) (library manifest : String) (strict : Bool) (s : State) :
    Ends (verifyLibrary around library manifest strict) s fun f =>
      Spoils s.logging.files manifest f ∧ verificationFault? f = none := by
  have hget : (get : Step State) s = .ok s s := rfl
  unfold verifyLibrary
  apply Ends.bind_of_ok hget
  apply Ends.orGiveUp
  · intro f h hf
    refine ⟨manifest_untold.mp ⟨h, ?_⟩, hf⟩
    cases f <;> first | exact hf | cases hf
  · intro m _
    apply Ends.orGiveUp
    · intro f h hf
      split at h
      · cases h
      · cases h
        cases hf
    · intro l _
      rcases verifyContract_outcome l m strict (World.new []) with ⟨report, w, hverify⟩ | ⟨why, w, hverify⟩
      · obtain ⟨s₁, hrelay⟩ := relay_returns w.log s
        obtain ⟨s₂, hloop⟩ := forIn_returns (fun (why : ContractFailure) => say_returns ("❌ " ++ why.text))
          report.mismatches s₁
        rw [hverify]
        refine .bind_of_ok hrelay (.bind_of_ok hloop ?_)
        split_ifs
        · exact .inl ⟨_, rfl⟩
        · exact .inr (.inl ⟨_, rfl⟩)
      · obtain ⟨s₁, hrelay⟩ := relay_returns w.log s
        rw [hverify]
        exact .bind_of_ok hrelay (ends_giveUp _ _)

/-! ### Runs -/

variable {now : Double} {args : List String} {c : Command}

def started (files : Files) (now : Double) : State := ⟨.new files now, []⟩

/-- Logging that is set up as a configuration says. -/
def setUp (config : RuntimeConfig) : Step Unit :=
  withLogging (LoggingManager.setupShared (some config.logging.value))

def logPath (config : RuntimeConfig) : Option String := config.logging.value.outputFile.value.bind named

theorem withLogging_of_error {x : LogAct α} {l : Logging} (h : x s.logging = .error f l) :
    ∃ s', withLogging x s = .error (.failed f) s' := by
  have hget : (get : Step State) s = .ok s s := rfl
  unfold withLogging
  rw [bind_of_ok hget, h]
  exact ⟨_, rfl⟩

/-- Logging with the manager that is shared by the whole run. -/
def managed (config : RuntimeConfig) (files : Files) (now : Double) : Logging :=
  { Logging.new files now with managers := [.new (some config.logging.value)], shared := some 0 }

theorem setupShared_new (config : RuntimeConfig) (files : Files) (now : Double) :
    LoggingManager.setupShared (some config.logging.value) (.new files now) =
      LoggingManager.setup 0 .standard (managed config files now) := rfl

theorem setUp_of_opened (now : Double)
    (h : ∀ path, logPath config = some path → ∃ opened, files.openAt path = .ok opened) :
    ∃ s, setUp config (started files now) = .ok () s := by
  have hmanager : (managed config files now).managers[0]? = some (.new (some config.logging.value)) := rfl
  obtain ⟨t, -, -, hrun, -⟩ := LoggingManager.setup_of_opened hmanager rfl .standard h
  exact withLogging_of_ok ((setupShared_new config files now).trans hrun)

theorem setUp_of_unopened {path : String} (now : Double) (hpath : logPath config = some path)
    (h : files.openAt path = .error f) : ∃ s, setUp config (started files now) = .error (.failed f) s := by
  have hmanager : (managed config files now).managers[0]? = some (.new (some config.logging.value)) := rfl
  obtain ⟨t, -, -, hrun, -⟩ := LoggingManager.setup_of_unopened hmanager rfl .standard hpath h
  exact withLogging_of_error ((setupShared_new config files now).trans hrun)

/-- The manifest that a command reads, if it comes to that. -/
def manifestRead (config : RuntimeConfig) (c : Command) (settings : List (String × String)) (operand : String) :
    Option String :=
  if c = showContract then some operand
  else
    (pathOf settings "library" config.libraryPath.value).bind fun _ =>
      pathOf settings "contract" config.contract.value.manifestFile.value

/-- What a command tells of. -/
def told (c : Command) : Failure → Option String := if c = showContract then manifestFault? else verificationFault?

/-- What leaves a run as a failure. -/
inductive Leaks (around : Surroundings) (files : Files) (now : Double) (c : Command) (settings : List (String × String))
    (operand : String) : Failure → Prop
  | configuration {path : String} {f : Failure} (hpath : (Value.lookup "config" settings).bind named = some path)
      (h : Spoils files path f) : Leaks around files now c settings operand f
  | logFile {config : RuntimeConfig} {path : String} {f : Failure}
      (hconfig : configuration around files settings = .ok config) (hpath : logPath config = some path)
      (h : files.openAt path = .error f) : Leaks around files now c settings operand f
  | manifest {config : RuntimeConfig} {s : State} {path : String} {f : Failure}
      (hconfig : configuration around files settings = .ok config) (hlog : setUp config (started files now) = .ok () s)
      (hpath : manifestRead config c settings operand = some path) (h : Spoils s.logging.files path f)
      (hf : told c f = none) : Leaks around files now c settings operand f

theorem runCommand_showContract (around : Surroundings) (config : RuntimeConfig) (settings : List (String × String))
    (operand : String) : runCommand around config (some showContract) settings operand = showManifest operand := by
  unfold runCommand
  dsimp only
  rw [if_neg (by decide), if_pos rfl]

theorem run_command (h : tool.read args = .run (some c) settings operand) :
    run around args (started files now) =
      (do let config ← orGiveUp (configuration around files settings)
            fun f => (documentFault? f).map ("Invalid configuration: " ++ ·)
          setUp config
          runCommand around config (some c) settings operand : Step Unit) (started files now) := by
  unfold run
  rw [h]
  rfl

theorem ends_runCommand (hc : c = showContract ∨ c = verify) (s : State) :
    Ends (runCommand around config (some c) settings operand) s fun f =>
      ∃ path, manifestRead config c settings operand = some path ∧ Spoils s.logging.files path f ∧ told c f = none := by
  rcases hc with rfl | rfl
  · rw [runCommand_showContract]
    apply (ends_showManifest operand s).mono
    intro f hf
    exact ⟨operand, if_pos rfl, hf, ((spoils_iff "" "").mp hf).2⟩
  · rw [runCommand_verify]
    split
    · rename_i library manifest hlibrary hmanifest
      apply (ends_verifyLibrary around library manifest _ s).mono
      rintro f ⟨hspoils, hf⟩
      refine ⟨manifest, ?_, hspoils, hf⟩
      rw [manifestRead, if_neg (by decide), hlibrary, hmanifest]
      rfl
    · exact ends_giveUp _ s

theorem ends_run (h : tool.read args = .run (some c) settings operand) (hc : c = showContract ∨ c = verify) :
    Ends (run around args) (started files now) (Leaks around files now c settings operand) := by
  unfold Ends
  rw [run_command h]
  apply Ends.orGiveUp
  · intro f hconfig hf
    obtain ⟨path, hpath, hspoils⟩ := configuration_untold.mp ⟨hconfig, Option.map_eq_none_iff.mp hf⟩
    exact .configuration hpath hspoils
  · intro config hconfig
    by_cases hopen : ∀ path, logPath config = some path → ∃ opened, files.openAt path = .ok opened
    · obtain ⟨s, hlog⟩ := setUp_of_opened now hopen
      apply Ends.bind_of_ok hlog
      apply (ends_runCommand hc s).mono
      rintro f ⟨path, hpath, hspoils, hf⟩
      exact .manifest hconfig hlog hpath hspoils hf
    · push Not at hopen
      obtain ⟨path, hpath, hunopened⟩ := hopen
      cases hresult : files.openAt path with
      | ok opened => exact absurd hresult (hunopened opened)
      | error e =>
        obtain ⟨s, hlog⟩ := setUp_of_unopened now hpath hresult
        exact .inr (.inr ⟨e, s, bind_of_error hlog, .logFile hconfig hpath hresult⟩)

/-- What leaks does so in fact. -/
theorem run_of_leaks (h : tool.read args = .run (some c) settings operand) (hc : c = showContract ∨ c = verify)
    (hf : Leaks around files now c settings operand f) :
    ∃ s, run around args (started files now) = .error (.failed f) s := by
  rw [run_command h]
  cases hf with
  | configuration hpath hspoils =>
    obtain ⟨hconfig, hf⟩ := configuration_untold.mpr ⟨_, hpath, hspoils⟩
    exact ⟨_, orGiveUp_untold hconfig (by rw [hf]; rfl)⟩
  | logFile hconfig hpath hopen =>
    obtain ⟨s, hlog⟩ := setUp_of_unopened now hpath hopen
    rw [bind_of_ok (orGiveUp_eq_ok.mpr ⟨hconfig, rfl⟩)]
    exact ⟨s, bind_of_error hlog⟩
  | @manifest config s path _ hconfig hlog hpath hspoils hf =>
    rw [bind_of_ok (orGiveUp_eq_ok.mpr ⟨hconfig, rfl⟩), bind_of_ok hlog]
    have hmanifest := (manifest_untold.mpr hspoils).1
    have hget : (get : Step State) s = .ok s s := rfl
    refine ⟨s, ?_⟩
    rcases hc with rfl | rfl
    · rw [manifestRead, if_pos rfl] at hpath
      cases hpath
      rw [runCommand_showContract]
      unfold showManifest
      rw [bind_of_ok hget]
      exact orGiveUp_untold hmanifest hf
    · rw [manifestRead, if_neg (by decide)] at hpath
      obtain ⟨library, hlibrary, hpath⟩ := Option.bind_eq_some_iff.mp hpath
      rw [runCommand_verify, hlibrary, hpath]
      dsimp only
      unfold verifyLibrary
      rw [bind_of_ok hget]
      exact orGiveUp_untold hmanifest hf

theorem outcome_failed :
    (outcome around files now args).1 = .failed f ↔ ∃ s, run around args (started files now) = .error (.failed f) s := by
  unfold outcome started
  cases hrun : run around args ⟨.new files now, []⟩ with
  | ok _ s => exact ⟨nofun, nofun⟩
  | error e s =>
    cases e with
    | exit code => exact ⟨nofun, nofun⟩
    | failed why =>
      constructor
      · rintro ⟨⟩
        exact ⟨s, rfl⟩
      · rintro ⟨_, ⟨⟩⟩
        rfl

theorem outcome_exited {code : Nat} (h : ∃ s, run around args (started files now) = .error (.exit code) s) :
    (outcome around files now args).1 = .exited code := by
  obtain ⟨s, hrun⟩ := h
  unfold outcome
  rw [show run around args ⟨.new files now, []⟩ = _ from hrun]

/-- Arguments that ask for a text leave with the code 0. A run that shows a manifest or verifies a library returns,
leaves with the code 1, or fails, and it fails just with what leaks from a configuration, a log file or a manifest. -/
theorem runs_end (around : Surroundings) (files : Files) (now : Double) (args : List String) :
    ((tool.read args = .version ∨ ∃ command, tool.read args = .help command) →
        (outcome around files now args).1 = .exited 0) ∧
      ∀ c settings operand, tool.read args = .run (some c) settings operand → c = showContract ∨ c = verify →
        ((outcome around files now args).1 = .returned ∨ (outcome around files now args).1 = .exited 1 ∨
            ∃ f, (outcome around files now args).1 = .failed f) ∧
          ∀ f, (outcome around files now args).1 = .failed f ↔ Leaks around files now c settings operand f := by
  constructor
  · rintro (h | ⟨command, h⟩)
    all_goals
      apply outcome_exited
      unfold run
      rw [h]
      exact ⟨_, rfl⟩
  · intro c settings operand h hc
    have hends : Ends (run around args) (started files now) (Leaks around files now c settings operand) := ends_run h hc
    refine ⟨?_, fun f => ?_⟩
    · rcases hends with ⟨s, hok⟩ | ⟨s, hexit⟩ | ⟨f, s, hfailed, -⟩
      · exact .inl (outcome_returned.mpr ⟨s, hok⟩)
      · exact .inr (.inl (outcome_exited ⟨s, hexit⟩))
      · exact .inr (.inr ⟨f, outcome_failed.mpr ⟨s, hfailed⟩⟩)
    · rw [outcome_failed]
      constructor
      · rintro ⟨s, hrun⟩
        rcases hends with ⟨_, hok⟩ | ⟨_, hexit⟩ | ⟨g, _, hfailed, hg⟩
        · cases hrun.symm.trans hok
        · cases hrun.symm.trans hexit
        · cases hrun.symm.trans hfailed
          exact hg
      · exact run_of_leaks h hc

/-- A list where a dictionary belongs. -/
def listFiles : Files := .ofTexts [("list.json", "[1]")]

def refusesShape : Except Failure Value → Bool
  | .error .notSettings => true
  | _ => false

theorem spoils_list : Spoils listFiles "list.json" .notSettings := by
  have h : refusesShape (listFiles.settings "" "" "list.json") = true := by decide +kernel
  apply (spoils_iff "" "").mpr
  generalize listFiles.settings "" "" "list.json" = document at h ⊢
  unfold refusesShape at h
  split at h
  · exact ⟨rfl, rfl⟩
  · cases h

def listConfigured : List String := ["--config", "list.json", "verify", "--library", "bell.so", "--contract", "bell.json"]

theorem runs_end_list :
    (∃ settings, tool.read listConfigured = .run (some verify) settings "") ∧
      (outcome bellAround listFiles default listConfigured).1 = .failed .notSettings := by
  have hread : tool.read listConfigured =
      .run (some verify) [("config", "list.json"), ("library", "bell.so"), ("contract", "bell.json")] "" := by
    decide +kernel
  refine ⟨⟨_, hread⟩, ?_⟩
  exact (((runs_end bellAround listFiles default listConfigured).2 _ _ _ hread (.inr rfl)).2 _).mpr
    (.configuration (by decide) spoils_list)

/-- A configuration that is a list ends the showing of a manifest with a failure of its own. -/
theorem list_not_told :
    (outcome bellAround listFiles default ["--config", "list.json", "show-contract", "bell.json"]).1 =
      .failed .notSettings := by
  have hread : tool.read ["--config", "list.json", "show-contract", "bell.json"] =
      .run (some showContract) [("config", "list.json")] "bell.json" := by
    decide +kernel
  exact outcome_failed.mpr (run_of_leaks hread (.inl rfl) (.configuration (by decide) spoils_list))

end Cli

end ForeignBridge
