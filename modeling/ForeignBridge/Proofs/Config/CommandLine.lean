import ForeignBridge.Cli.Program
import ForeignBridge.Config.Storage
import ForeignBridge.Proofs.Config.Environment

/-!
The configuration of the command line. Its flags, the variables of the environment, the document of its file and
what it is without them are laid over one another in layers; each setting comes from the first of them that has it.
-/

namespace ForeignBridge

namespace Field

/-- What the environment says of a setting. -/
def fromEnvironment (env : Environment) (f : Field) : Option Value :=
  RuntimeConfig.variableAt RuntimeConfig.variableStart env f.path RuntimeConfig.knownVariables

/-- What the flags of the command line say of a setting; an empty flag says nothing. -/
def fromFlags (level format : Option String) : Field → Option Value
  | .level => (level.bind named).map .ofText
  | .format => (format.bind named).map .ofText
  | _ => none

/-- What a setting is on the command line where nothing sets it: logging is quiet there, and in plain text. -/
def quiet (f : Field) : f.Kind :=
  match f with
  | .level => Level.warning
  | .format => LogFormat.text
  | f => f.absent

/-- Whether a setting has the value that was given for it, in the form of its check, or what it is by default if
none was. -/
def Takes (f : Field) (given : Option Value) (byDefault a : f.Kind) : Prop :=
  match given with
  | some v => f.entry v = .ok a
  | none => a = byDefault

instance (f : Field) : DecidableEq f.Kind :=
  match f with
  | space | libraryPath | manifestFile | outputFile => inferInstanceAs (DecidableEq (Option String))
  | verifyOnStart | logDispatch | warnOnLeakedHandles | includeThreadInfo => inferInstanceAs (DecidableEq Bool)
  | maxFileSizeMb | backupCount => inferInstanceAs (DecidableEq Int)
  | level => inferInstanceAs (DecidableEq Level)
  | format => inferInstanceAs (DecidableEq LogFormat)

instance (f : Field) (given : Option Value) (byDefault a : f.Kind) : Decidable (f.Takes given byDefault a) :=
  match given with
  | some v => inferInstanceAs (Decidable (f.entry v = .ok a))
  | none => inferInstanceAs (Decidable (a = byDefault))

theorem Takes.unique {f : Field} {given : Option Value} {byDefault a b : f.Kind} (ha : f.Takes given byDefault a)
    (hb : f.Takes given byDefault b) : a = b := by
  cases given with
  | none => exact ha.trans hb.symm
  | some v => exact Checked.ok.inj (ha.symm.trans hb)

end Field

/-! ### Files -/

/-- The document that a path gives: an empty one if there is no path or no file. -/
def Files.configuration (files : Files) (path : Option String) : Except Failure Value :=
  match path.bind named with
  | none => .ok (.dict [])
  | some p =>
    match files.settings "Configuration file" "configuration file" p with
    | .error (.noFile ..) => .ok (.dict [])
    | r => r

namespace RuntimeConfig

variable {files : Files} {env : Environment} {path level format : Option String} {doc : Value}
  {base set : RuntimeConfig}

/-- What is loaded is what the document gives with the environment over it. -/
theorem load_eq (hdoc : files.configuration path = .ok doc) (env : Environment) (start : String) :
    load files env path start true = (do withEnvironment start env (← ofDocument? doc)) := by
  unfold Files.configuration at hdoc
  unfold load
  cases hp : path.bind named with
  | none =>
    rw [hp] at hdoc
    cases hdoc
    rfl
  | some p =>
    rw [hp] at hdoc
    dsimp only at hdoc ⊢
    unfold ofFile
    cases hs : files.settings "Configuration file" "configuration file" p with
    | ok found =>
      rw [hs] at hdoc
      cases hdoc
      have hread : (do ofDocument? (← (Except.ok doc : Except Failure Value))) = ofDocument? doc := rfl
      rw [hread]
      -- a fault of the document is no missing file
      unfold ofDocument?
      cases ofDocument doc <;> rfl
    | error e =>
      rw [hs] at hdoc
      cases e with
      | noFile =>
        cases hdoc
        rfl
      | _ => cases hdoc

theorem load_base (hdoc : files.configuration path = .ok doc) (hbase : ofDocument doc = .ok base) (start : String) :
    load files env path start true = withEnvironment start env base := by
  rw [load_eq hdoc, ofDocument?_eq_ok.mpr hbase]
  rfl

/-! ### Flags -/

/-- Whether the flags that say something can be read. -/
def FlagsRead (level format : Option String) : Prop :=
  ∀ (f : Field) v, f.fromFlags level format = some v → ∃ a, f.entry v = .ok a

/-- What the tool lets an option be. -/
def choices (key : String) : List String :=
  (Cli.tool.options.filter (·.key = key)).flatMap fun o =>
    match o.kind with
    | .setting values => values
    | _ => []

/-- The flags that the tool lets through can be read. -/
theorem FlagsRead.of_choices (hl : ∀ s, level = some s → s ∈ choices "log-level")
    (hf : ∀ s, format = some s → s ∈ choices "log-format") : FlagsRead level format := by
  have hlevels : ∀ s ∈ choices "log-level", ∃ a ∈ [Level.debug, .info, .warning, .error],
      Field.level.entry (.ofText s) = .ok a := by decide +kernel
  have hformats : ∀ s ∈ choices "log-format", ∃ a ∈ [LogFormat.json, .text],
      Field.format.entry (.ofText s) = .ok a := by decide +kernel
  have hgiven : ∀ {flag : Option String} {v : Value}, (flag.bind named).map .ofText = some v →
      ∃ s, flag = some s ∧ v = .ofText s := by
    intro flag v hv
    obtain ⟨s, hs, rfl⟩ := Option.map_eq_some_iff.mp hv
    obtain ⟨t, rfl, ht⟩ := Option.bind_eq_some_iff.mp hs
    unfold named at ht
    split_ifs at ht
    cases ht
    exact ⟨s, rfl, rfl⟩
  intro f v hv
  cases f with
  | level =>
    obtain ⟨s, hs, rfl⟩ := hgiven hv
    obtain ⟨a, -, ha⟩ := hlevels s (hl s hs)
    exact ⟨a, ha⟩
  | format =>
    obtain ⟨s, hs, rfl⟩ := hgiven hv
    obtain ⟨a, -, ha⟩ := hformats s (hf s hs)
    exact ⟨a, ha⟩
  | _ => cases hv

/-- The setting of a flag, if the flag says something. -/
def flagMember (name : String) (flag : Option String) : List (String × Value) :=
  match flag.bind named with
  | some s => [(name, .ofText s)]
  | none => []

/-- The flags as the settings of logging. -/
def flagsDocument (level format : Option String) : Value :=
  .ofMembers (flagMember "level" level ++ flagMember "format" format)

theorem lookup_flagMember (name wanted : String) (flag : Option String) :
    Value.lookup wanted (flagMember name flag) = if wanted = name then (flag.bind named).map .ofText else none := by
  unfold flagMember
  cases flag.bind named with
  | none => simp [Value.lookup]
  | some s => simp [Value.lookup, eq_comm]

theorem field?_flags (level format : Option String) (name : String) :
    (flagsDocument level format).field? name =
      if name = "level" then (level.bind named).map .ofText
      else if name = "format" then (format.bind named).map .ofText
      else none := by
  rw [flagsDocument, Value.field?_ofMembers, Value.lookup_append, lookup_flagMember, lookup_flagMember]
  by_cases hl : name = "level"
  · subst hl
    rw [if_neg (by decide : "level" ≠ "format"), Option.or_none]
  · simp only [hl, if_false, Option.none_or]

/-- Flags that can be read set their own settings of logging and nothing else. -/
theorem flags_read (hflags : FlagsRead level format) :
    ∃ logging, LoggingConfig.ofDocument (flagsDocument level format) = .ok logging
      ∧ ∀ f : Field,
        f.read (f.fromFlags level format) = .ok (f.setting { byDefault with logging := .set logging }) := by
  have hread : ∀ f : Field, ∃ s, f.read (f.fromFlags level format) = .ok s := by
    intro f
    cases hv : f.fromFlags level format with
    | none => exact ⟨_, rfl⟩
    | some v =>
      obtain ⟨a, ha⟩ := hflags f v hv
      exact ⟨.set a, Checked.map_eq_ok.mpr ⟨a, ha, rfl⟩⟩
  obtain ⟨l, hl⟩ := hread .level
  obtain ⟨m, hm⟩ := hread .format
  refine ⟨{ LoggingConfig.byDefault with level := l, format := m }, ?_, fun f => ?_⟩
  · have hgiven : ∀ {α : Type} {name : String} {absent : α} {entry : Value → Checked α} {s : Setting α},
        Setting.ofGiven absent entry (if name = "level" then (level.bind named).map .ofText
          else if name = "format" then (format.bind named).map .ofText else none) = .ok s →
        Setting.read (flagsDocument level format) name absent entry = .ok s := by
      intro α name absent entry s h
      rw [Setting.read_eq_ok, field?_flags]
      exact h
    exact LoggingConfig.ofDocument_eq_ok.mpr ⟨hgiven hl, hgiven hm, hgiven rfl, hgiven rfl, hgiven rfl, hgiven rfl⟩
  · cases f with
    | level => exact hl
    | format => exact hm
    | _ => rfl

/-! ### All layers -/

/-- Logging on the command line where nothing sets it. -/
def quietBase : RuntimeConfig :=
  { byDefault with logging := .set { LoggingConfig.byDefault with level := .set .warning, format := .set .text } }

theorem quietBase_setting (f : Field) : (f.setting quietBase).value = f.quiet := by
  cases f <;> rfl

theorem ofCommandLine_eq {loaded : RuntimeConfig} {logging : LoggingConfig}
    (hloaded : load files env path variableStart true = .ok loaded)
    (hflags : LoggingConfig.ofDocument (flagsDocument level format) = .ok logging) :
    ofCommandLine files env path level format
      = merge [quietBase, loaded, { byDefault with logging := .set logging }] := by
  unfold ofCommandLine
  rw [hloaded]
  change (do
    let flags ← (LoggingConfig.ofDocument (flagsDocument level format)).result "LoggingConfig"
    merge [quietBase, loaded, { byDefault with logging := .set flags }]) = _
  rw [hflags]
  rfl

end RuntimeConfig

namespace Field

theorem entry_quiet (f : Field) : f.entry (f.shown f.quiet) = .ok f.quiet := by
  cases f with
  | level => exact level_entry .warning
  | format => exact format_entry .text
  | _ => exact entry_absent _

theorem takes_of_read {f : Field} {given : Option Value} {otherwise : f.Kind} {s : Setting f.Kind}
    (ho : f.entry (f.shown otherwise) = .ok otherwise)
    (h : f.read (given.or (some (f.shown otherwise))) = .ok s) : f.Takes given otherwise s.value := by
  cases given with
  | none =>
    obtain ⟨a, ha, rfl⟩ := Checked.map_eq_ok.mp h
    exact Checked.ok.inj (ha.symm.trans ho)
  | some v =>
    obtain ⟨a, ha, rfl⟩ := Checked.map_eq_ok.mp h
    exact ha

end Field

namespace RuntimeConfig

variable {files : Files} {env : Environment} {path level format : Option String} {doc : Value}
  {base set : RuntimeConfig}

/-- Where the document, the variables and the flags can be read there is a configuration, and it has every setting
from the first that gives it: the flags, then the environment, then the document; the rest is as by default. -/
theorem ofCommandLine_takes (hdoc : files.configuration path = .ok doc) (hbase : ofDocument? doc = .ok base)
    (hset : ofEnvironment variableStart env = .ok set)
    (hflags : FlagsRead level format) :
    ∃ c, ofCommandLine files env path level format = .ok c ∧ ∀ f : Field,
      f.Takes ((f.fromFlags level format).or ((f.fromEnvironment env).or (doc.at? f.path))) f.quiet
        (f.setting c).value := by
  have hbase := ofDocument?_eq_ok.mp hbase
  obtain ⟨loaded, hloaded, hlower⟩ := withEnvironment_read hbase hset
  rw [← load_base hdoc hbase] at hloaded
  obtain ⟨logging, hlogging, hupper⟩ := flags_read hflags
  rw [ofCommandLine_eq hloaded hlogging]
  set flags : RuntimeConfig := { byDefault with logging := .set logging }
  have hbelow : ∀ f : Field, (quietBase.document.overlay loaded.setDocument).at? f.path
      = ((f.setting loaded).asSet f.shown).or (some (f.shown f.quiet)) := by
    intro f
    rw [Value.at?_overlay loaded.setDocument_layer _ f.settingPath, (loaded.listed f).2, (quietBase.listed f).1,
      quietBase_setting]
  have habove : ∀ f : Field, flags.setDocument.at? f.path = (f.setting flags).asSet f.shown :=
    fun f => (flags.listed f).2
  -- what a layer lists reads as what the layer was read from
  have hreadBelow : ∀ f : Field, f.read ((quietBase.document.overlay loaded.setDocument).at? f.path)
      = f.read (((f.fromEnvironment env).or (doc.at? f.path)).or (some (f.shown f.quiet))) := by
    intro f
    rw [hbelow]
    exact Field.read_asSet (hlower f) _
  have hreadAbove : ∀ f : Field, f.read (flags.setDocument.at? f.path) = .ok (f.setting flags) := by
    intro f
    rw [habove, ← hupper f]
    simpa using Field.read_asSet (hupper f) none
  have hreadable : ∀ f : Field, ∃ s,
      f.read ((quietBase.document.overlay loaded.setDocument).at? f.path) = .ok s := by
    intro f
    rw [hreadBelow]
    exact Field.read_or ⟨_, hlower f⟩ ⟨_, Checked.map_eq_ok.mpr ⟨_, f.entry_quiet, rfl⟩⟩
  obtain ⟨c, hc, hsettings⟩ := ofDocument_overlay (quietBase.document_layer.overlay loaded.setDocument_layer)
    flags.setDocument_layer hreadable fun f => ⟨_, hreadAbove f⟩
  refine ⟨c, ofDocument?_eq_ok.mpr hc, fun f => Field.takes_of_read f.entry_quiet ?_⟩
  have h := hsettings f
  rw [habove, Field.read_asSet (hupper f), Field.read_or_congr (hreadBelow f)] at h
  rw [Option.or_assoc]
  exact h

/-- A file that sets a level and, as a text, a number of backups. -/
def quayFiles : Files :=
  .ofTexts [("quay.json", "\x7b\"logging\": \x7b\"level\": \"debug\", \"backup_count\": \"7\"\x7d\x7d")]

def quayEnvironment : Environment := [("FIREFLYFFI_LOG_LEVEL", "error"), ("FIREFLYFFI_VERIFY_ON_START", "off")]

def quayDocument : Value := ((quayFiles.configuration (some "quay.json")).toOption).getD .null

theorem ofCommandLine_takes_quay :
    ∃ c, ofCommandLine quayFiles quayEnvironment (some "quay.json") none (some "json") = .ok c
      ∧ c.logging.value.level.value = .error ∧ c.logging.value.format.value = .json
      ∧ c.logging.value.backupCount.value = 7 ∧ c.contract.value.verifyOnStart.value = false := by
  have hok : ∀ {α : Type} {x : Except Failure α}, x.isOk = true → ∃ a, x = .ok a := by
    intro α x hx
    cases x with
    | ok a => exact ⟨a, rfl⟩
    | error _ => cases hx
  have hdoc : quayFiles.configuration (some "quay.json") = .ok quayDocument := by
    obtain ⟨doc, hdoc⟩ := hok (by decide +kernel : (quayFiles.configuration (some "quay.json")).isOk = true)
    rw [quayDocument, hdoc]
    rfl
  obtain ⟨base, hbase⟩ := hok (by decide +kernel : (ofDocument? quayDocument).isOk = true)
  obtain ⟨set, hset⟩ := hok (by decide +kernel : (ofEnvironment variableStart quayEnvironment).isOk = true)
  have hflags : FlagsRead none (some "json") := .of_choices nofun fun s hs => by
    cases hs
    decide +kernel
  obtain ⟨c, hc, h⟩ := ofCommandLine_takes hdoc hbase hset hflags
  have htakes : ∀ (f : Field) a, f.Takes _ f.quiet a → (f.setting c).value = a := fun f a ha => (h f).unique ha
  exact ⟨c, hc, htakes .level .error (by decide +kernel), htakes .format .json (by decide +kernel),
    htakes .backupCount (7 : Int) (by decide +kernel), htakes .verifyOnStart false (by decide +kernel)⟩

end RuntimeConfig

end ForeignBridge
