import ForeignBridge.Config.Basic
import ForeignBridge.Proofs.Config.Settings

/-!
The settings of a configuration. Each stands at the end of a path of a document, is read from what it finds there,
and is listed there again; what was read and listed reads as the same.
-/

namespace ForeignBridge

/-- The settings of a configuration, those in its sections among them. -/
inductive Field
  | space
  | libraryPath
  | manifestFile
  | verifyOnStart
  | logDispatch
  | warnOnLeakedHandles
  | level
  | format
  | outputFile
  | maxFileSizeMb
  | backupCount
  | includeThreadInfo
deriving DecidableEq, Repr

namespace Field

/-- What a setting's value is. -/
@[reducible] def Kind : Field → Type
  | space | libraryPath | manifestFile | outputFile => Option String
  | verifyOnStart | logDispatch | warnOnLeakedHandles | includeThreadInfo => Bool
  | maxFileSizeMb | backupCount => Int
  | level => Level
  | format => LogFormat

def path : Field → List String
  | space => ["namespace"]
  | libraryPath => ["library_path"]
  | manifestFile => ["contract", "manifest_file"]
  | verifyOnStart => ["contract", "verify_on_start"]
  | logDispatch => ["callbacks", "log_dispatch"]
  | warnOnLeakedHandles => ["callbacks", "warn_on_leaked_handles"]
  | level => ["logging", "level"]
  | format => ["logging", "format"]
  | outputFile => ["logging", "output_file"]
  | maxFileSizeMb => ["logging", "max_file_size_mb"]
  | backupCount => ["logging", "backup_count"]
  | includeThreadInfo => ["logging", "include_thread_info"]

/-- The check of a setting, and the form that it gives to a value. -/
def entry : (f : Field) → Value → Checked f.Kind
  | space | libraryPath | manifestFile | outputFile => Entry.optionalText
  | verifyOnStart | logDispatch | warnOnLeakedHandles | includeThreadInfo => Entry.truth
  | maxFileSizeMb | backupCount => Entry.wholeFrom 1 none
  | level => LoggingConfig.levelEntry
  | format => LoggingConfig.formatEntry

/-- What a setting is where nothing sets it. -/
def absent : (f : Field) → f.Kind
  | space | libraryPath | manifestFile | outputFile => none
  | verifyOnStart | warnOnLeakedHandles | includeThreadInfo => true
  | logDispatch => false
  | maxFileSizeMb => (100 : Int)
  | backupCount => (5 : Int)
  | level => Level.info
  | format => LogFormat.json

/-- How a setting is listed. -/
def shown : (f : Field) → f.Kind → Value
  | space | libraryPath | manifestFile | outputFile => Listed.optionalText
  | verifyOnStart | logDispatch | warnOnLeakedHandles | includeThreadInfo => .bool
  | maxFileSizeMb | backupCount => .int
  | level => fun l => .text (Level.name l)
  | format => fun f => .text (LogFormat.name f)

/-- A configuration's setting; one in a section is set if its section is. -/
def setting (c : RuntimeConfig) : (f : Field) → Setting f.Kind
  | space => c.space
  | libraryPath => c.libraryPath
  | manifestFile => c.contract.within ContractConfig.manifestFile
  | verifyOnStart => c.contract.within ContractConfig.verifyOnStart
  | logDispatch => c.callbacks.within CallbackConfig.logDispatch
  | warnOnLeakedHandles => c.callbacks.within CallbackConfig.warnOnLeakedHandles
  | level => c.logging.within LoggingConfig.level
  | format => c.logging.within LoggingConfig.format
  | outputFile => c.logging.within LoggingConfig.outputFile
  | maxFileSizeMb => c.logging.within LoggingConfig.maxFileSizeMb
  | backupCount => c.logging.within LoggingConfig.backupCount
  | includeThreadInfo => c.logging.within LoggingConfig.includeThreadInfo

theorem settingPath (f : Field) : Value.SettingPath f.path := by
  cases f with
  | space | libraryPath => exact .outside (by decide)
  | _ => exact .within _ (by decide)

/-- A setting as it is read from what a document has at its path. -/
def read (f : Field) : Option Value → Checked (Setting f.Kind) := Setting.ofGiven f.absent f.entry

end Field

/-! ### Reading -/

theorem ContractConfig.ofDocument_eq_ok {doc : Value} {c : ContractConfig} : ofDocument doc = .ok c ↔
    Setting.read doc "manifest_file" none Entry.optionalText = .ok c.manifestFile
    ∧ Setting.read doc "verify_on_start" true Entry.truth = .ok c.verifyOnStart := by
  unfold ofDocument
  constructor
  · intro h
    obtain ⟨_, _, g₁, h₂, rfl⟩ := Checked.seq_eq_ok.mp h
    obtain ⟨_, h₁, rfl⟩ := Checked.fmap_eq_ok.mp g₁
    exact ⟨h₁, h₂⟩
  · rintro ⟨h₁, h₂⟩
    rw [h₁, h₂]
    rfl

theorem CallbackConfig.ofDocument_eq_ok {doc : Value} {c : CallbackConfig} : ofDocument doc = .ok c ↔
    Setting.read doc "log_dispatch" false Entry.truth = .ok c.logDispatch
    ∧ Setting.read doc "warn_on_leaked_handles" true Entry.truth = .ok c.warnOnLeakedHandles := by
  unfold ofDocument
  constructor
  · intro h
    obtain ⟨_, _, g₁, h₂, rfl⟩ := Checked.seq_eq_ok.mp h
    obtain ⟨_, h₁, rfl⟩ := Checked.fmap_eq_ok.mp g₁
    exact ⟨h₁, h₂⟩
  · rintro ⟨h₁, h₂⟩
    rw [h₁, h₂]
    rfl

theorem LoggingConfig.ofDocument_eq_ok {doc : Value} {c : LoggingConfig} : ofDocument doc = .ok c ↔
    Setting.read doc "level" .info levelEntry = .ok c.level
    ∧ Setting.read doc "format" .json formatEntry = .ok c.format
    ∧ Setting.read doc "output_file" none Entry.optionalText = .ok c.outputFile
    ∧ Setting.read doc "max_file_size_mb" 100 (Entry.wholeFrom 1 none) = .ok c.maxFileSizeMb
    ∧ Setting.read doc "backup_count" 5 (Entry.wholeFrom 1 none) = .ok c.backupCount
    ∧ Setting.read doc "include_thread_info" true Entry.truth = .ok c.includeThreadInfo := by
  unfold ofDocument
  constructor
  · intro h
    obtain ⟨_, _, g₅, h₆, rfl⟩ := Checked.seq_eq_ok.mp h
    obtain ⟨_, _, g₄, h₅, rfl⟩ := Checked.seq_eq_ok.mp g₅
    obtain ⟨_, _, g₃, h₄, rfl⟩ := Checked.seq_eq_ok.mp g₄
    obtain ⟨_, _, g₂, h₃, rfl⟩ := Checked.seq_eq_ok.mp g₃
    obtain ⟨_, _, g₁, h₂, rfl⟩ := Checked.seq_eq_ok.mp g₂
    obtain ⟨_, h₁, rfl⟩ := Checked.fmap_eq_ok.mp g₁
    exact ⟨h₁, h₂, h₃, h₄, h₅, h₆⟩
  · rintro ⟨h₁, h₂, h₃, h₄, h₅, h₆⟩
    rw [h₁, h₂, h₃, h₄, h₅, h₆]
    rfl

namespace RuntimeConfig

theorem ofDocument_eq_ok {doc : Value} {c : RuntimeConfig} : ofDocument doc = .ok c ↔
    Setting.read doc "namespace" none Entry.optionalText = .ok c.space
    ∧ Setting.read doc "library_path" none Entry.optionalText = .ok c.libraryPath
    ∧ Setting.read doc "contract" .byDefault (sectionEntry ContractConfig.ofDocument) = .ok c.contract
    ∧ Setting.read doc "callbacks" .byDefault (sectionEntry CallbackConfig.ofDocument) = .ok c.callbacks
    ∧ Setting.read doc "logging" .byDefault (sectionEntry LoggingConfig.ofDocument) = .ok c.logging := by
  unfold ofDocument
  constructor
  · intro h
    obtain ⟨_, _, g₄, h₅, rfl⟩ := Checked.seq_eq_ok.mp h
    obtain ⟨_, _, g₃, h₄, rfl⟩ := Checked.seq_eq_ok.mp g₄
    obtain ⟨_, _, g₂, h₃, rfl⟩ := Checked.seq_eq_ok.mp g₃
    obtain ⟨_, _, g₁, h₂, rfl⟩ := Checked.seq_eq_ok.mp g₂
    obtain ⟨_, h₁, rfl⟩ := Checked.fmap_eq_ok.mp g₁
    exact ⟨h₁, h₂, h₃, h₄, h₅⟩
  · rintro ⟨h₁, h₂, h₃, h₄, h₅⟩
    rw [h₁, h₂, h₃, h₄, h₅]
    rfl

theorem ofDocument?_eq_ok {doc : Value} {c : RuntimeConfig} : ofDocument? doc = .ok c ↔ ofDocument doc = .ok c := by
  unfold ofDocument?
  cases ofDocument doc <;> simp [Checked.result]

section Sections

variable {α β : Type} {doc : Value} {sect name : String} {whole : α} {check : Value → Checked α}
  {outer : Setting α}

/-- What a section has under a name is read as the setting within it. -/
theorem within_read {absent : β} {entry : Value → Checked β} {inner : α → Setting β}
    (h : Setting.read doc sect whole (sectionEntry check) = .ok outer) (hdefault : inner whole = .byDefault absent)
    (hcheck : ∀ v a, check v = .ok a → Setting.read v name absent entry = .ok (inner a)) :
    Setting.ofGiven absent entry (doc.at? [sect, name]) = .ok (outer.within inner) := by
  rw [Setting.read_eq_ok] at h
  rw [Value.at?_pair]
  cases hd : doc.field? sect with
  | none =>
    rw [hd] at h
    obtain rfl : Setting.byDefault whole = outer := Checked.ok.inj h
    simp only [Option.bind_none, Setting.ofGiven, Setting.within, Setting.byDefault, hdefault, Bool.false_and]
  | some v =>
    rw [hd] at h
    obtain ⟨a, ha, rfl⟩ := Checked.map_eq_ok.mp h
    have hv : check v = .ok a := by
      cases v with
      | dict entries => exact ha
      | _ => cases ha
    rw [Option.bind_some, Setting.read_eq_ok.mp (hcheck v a hv)]
    rfl

/-- A section of a layer can be read if all that it has can be. -/
theorem section_read (hl : doc.Layer) (hs : sect ∈ Value.sectionNames) (whole : α)
    (hcheck : ∀ v, doc.field? sect = some v → ∃ a, check v = .ok a) :
    ∃ s, Setting.read doc sect whole (sectionEntry check) = .ok s := by
  simp only [Setting.read_eq_ok]
  cases hd : doc.field? sect with
  | none => exact ⟨_, rfl⟩
  | some v =>
    have hv : v.Fits fun _ => Value.Leaf := by simpa [Value.LayerEntry, hs] using hl.of_field? hd
    obtain ⟨a, ha⟩ := hcheck v hd
    obtain ⟨members, rfl, -⟩ := hv
    exact ⟨.set a, Checked.map_eq_ok.mpr ⟨a, ha, rfl⟩⟩

end Sections

/-- Every setting of a configuration that was read is what its path has. -/
theorem read_of_ofDocument {doc : Value} {c : RuntimeConfig} (h : ofDocument doc = .ok c) (f : Field) :
    f.read (doc.at? f.path) = .ok (f.setting c) := by
  obtain ⟨hspace, hlibrary, hcontract, hcallbacks, hlogging⟩ := ofDocument_eq_ok.mp h
  cases f with
  | space => exact Value.at?_singleton doc _ ▸ Setting.read_eq_ok.mp hspace
  | libraryPath => exact Value.at?_singleton doc _ ▸ Setting.read_eq_ok.mp hlibrary
  | manifestFile => exact within_read hcontract rfl fun v a ha => (ContractConfig.ofDocument_eq_ok.mp ha).1
  | verifyOnStart => exact within_read hcontract rfl fun v a ha => (ContractConfig.ofDocument_eq_ok.mp ha).2
  | logDispatch => exact within_read hcallbacks rfl fun v a ha => (CallbackConfig.ofDocument_eq_ok.mp ha).1
  | warnOnLeakedHandles => exact within_read hcallbacks rfl fun v a ha => (CallbackConfig.ofDocument_eq_ok.mp ha).2
  | level => exact within_read hlogging rfl fun v a ha => (LoggingConfig.ofDocument_eq_ok.mp ha).1
  | format => exact within_read hlogging rfl fun v a ha => (LoggingConfig.ofDocument_eq_ok.mp ha).2.1
  | outputFile => exact within_read hlogging rfl fun v a ha => (LoggingConfig.ofDocument_eq_ok.mp ha).2.2.1
  | maxFileSizeMb => exact within_read hlogging rfl fun v a ha => (LoggingConfig.ofDocument_eq_ok.mp ha).2.2.2.1
  | backupCount => exact within_read hlogging rfl fun v a ha => (LoggingConfig.ofDocument_eq_ok.mp ha).2.2.2.2.1
  | includeThreadInfo => exact within_read hlogging rfl fun v a ha => (LoggingConfig.ofDocument_eq_ok.mp ha).2.2.2.2.2

/-- A layer gives a configuration if every setting in it can be read. -/
theorem ofDocument_of_read {doc : Value} (hl : doc.Layer) (h : ∀ f : Field, ∃ s, f.read (doc.at? f.path) = .ok s) :
    ∃ c, ofDocument doc = .ok c := by
  have hwithin : ∀ {sect name : String} {v : Value} {α : Type} {absent : α} {entry : Value → Checked α},
      doc.field? sect = some v → (∃ s, Setting.ofGiven absent entry (doc.at? [sect, name]) = .ok s) →
      ∃ s, Setting.read v name absent entry = .ok s := by
    intro sect name v α absent entry hv hs
    simpa only [Setting.read_eq_ok, Value.at?_pair, hv, Option.bind_some] using hs
  obtain ⟨space, hspace⟩ := h .space
  obtain ⟨library, hlibrary⟩ := h .libraryPath
  obtain ⟨contract, hcontract⟩ := section_read hl (by decide : "contract" ∈ Value.sectionNames)
      ContractConfig.byDefault fun v hv => by
    obtain ⟨_, h₁⟩ := hwithin hv (h .manifestFile)
    obtain ⟨_, h₂⟩ := hwithin hv (h .verifyOnStart)
    exact ⟨⟨_, _⟩, ContractConfig.ofDocument_eq_ok.mpr ⟨h₁, h₂⟩⟩
  obtain ⟨callbacks, hcallbacks⟩ := section_read hl (by decide : "callbacks" ∈ Value.sectionNames)
      CallbackConfig.byDefault fun v hv => by
    obtain ⟨_, h₁⟩ := hwithin hv (h .logDispatch)
    obtain ⟨_, h₂⟩ := hwithin hv (h .warnOnLeakedHandles)
    exact ⟨⟨_, _⟩, CallbackConfig.ofDocument_eq_ok.mpr ⟨h₁, h₂⟩⟩
  obtain ⟨logging, hlogging⟩ := section_read hl (by decide : "logging" ∈ Value.sectionNames)
      LoggingConfig.byDefault fun v hv => by
    obtain ⟨_, h₁⟩ := hwithin hv (h .level)
    obtain ⟨_, h₂⟩ := hwithin hv (h .format)
    obtain ⟨_, h₃⟩ := hwithin hv (h .outputFile)
    obtain ⟨_, h₄⟩ := hwithin hv (h .maxFileSizeMb)
    obtain ⟨_, h₅⟩ := hwithin hv (h .backupCount)
    obtain ⟨_, h₆⟩ := hwithin hv (h .includeThreadInfo)
    exact ⟨⟨_, _, _, _, _, _⟩, LoggingConfig.ofDocument_eq_ok.mpr ⟨h₁, h₂, h₃, h₄, h₅, h₆⟩⟩
  have hspace := Setting.read_eq_ok.mpr (Value.at?_singleton doc _ ▸ hspace)
  have hlibrary := Setting.read_eq_ok.mpr (Value.at?_singleton doc _ ▸ hlibrary)
  exact ⟨⟨space, library, contract, callbacks, logging⟩,
    ofDocument_eq_ok.mpr ⟨hspace, hlibrary, hcontract, hcallbacks, hlogging⟩⟩

/-! ### Listing -/

variable {α : Type} {c : RuntimeConfig}

theorem settings_names (c : RuntimeConfig) : (c.settings.map Listed.name).Nodup := by
  change ["namespace", "library_path", "contract", "callbacks", "logging"].Nodup
  decide

theorem contract_names (c : RuntimeConfig) : (c.contract.value.settings.map Listed.name).Nodup := by
  change ["manifest_file", "verify_on_start"].Nodup
  decide

theorem callbacks_names (c : RuntimeConfig) : (c.callbacks.value.settings.map Listed.name).Nodup := by
  change ["log_dispatch", "warn_on_leaked_handles"].Nodup
  decide

theorem logging_names (c : RuntimeConfig) : (c.logging.value.settings.map Listed.name).Nodup := by
  change ["level", "format", "output_file", "max_file_size_mb", "backup_count", "include_thread_info"].Nodup
  decide

/-- A setting in a section is listed in the section. -/
theorem listed_within {sect : String} {outer : Setting α} {settings : α → List Listed} {s : Listed}
    (hs : listSection sect outer settings ∈ c.settings) (hn : ((settings outer.value).map Listed.name).Nodup)
    (hi : s ∈ settings outer.value) :
    c.document.at? [sect, s.name] = some s.whole
    ∧ c.setDocument.at? [sect, s.name] = if outer.explicit && s.explicit then some s.asSet else none := by
  have hwhole : c.document.field? sect = some (Listed.document (settings outer.value)) :=
    Listed.document_field? c.settings_names hs
  have hset : c.setDocument.field? sect
      = if outer.explicit then some (Listed.setDocument (settings outer.value)) else none :=
    Listed.setDocument_field? c.settings_names hs
  rw [Value.at?_pair, Value.at?_pair, hwhole, hset, Option.bind_some, Listed.document_field? hn hi]
  refine ⟨rfl, ?_⟩
  cases outer.explicit with
  | false => rfl
  | true => simpa using Listed.setDocument_field? hn hi

theorem listed_outside {s : Listed} (hs : s ∈ c.settings) :
    c.document.at? [s.name] = some s.whole
    ∧ c.setDocument.at? [s.name] = if s.explicit then some s.asSet else none := by
  rw [Value.at?_singleton, Value.at?_singleton]
  exact ⟨Listed.document_field? c.settings_names hs, Listed.setDocument_field? c.settings_names hs⟩

/-- A configuration lists every setting at its path, in full and as far as it was set. -/
theorem listed (c : RuntimeConfig) (f : Field) :
    c.document.at? f.path = some (f.shown (f.setting c).value)
    ∧ c.setDocument.at? f.path = (f.setting c).asSet f.shown := by
  have hcontract : listSection "contract" c.contract ContractConfig.settings ∈ c.settings := by simp [settings]
  have hcallbacks : listSection "callbacks" c.callbacks CallbackConfig.settings ∈ c.settings := by simp [settings]
  have hlogging : listSection "logging" c.logging LoggingConfig.settings ∈ c.settings := by simp [settings]
  cases f with
  | space => exact listed_outside (s := .ofOptionalText "namespace" c.space) (by simp [settings])
  | libraryPath => exact listed_outside (s := .ofOptionalText "library_path" c.libraryPath) (by simp [settings])
  | manifestFile =>
    exact listed_within (s := .ofOptionalText "manifest_file" c.contract.value.manifestFile)
      hcontract c.contract_names (by simp [ContractConfig.settings])
  | verifyOnStart =>
    exact listed_within (s := .ofTruth "verify_on_start" c.contract.value.verifyOnStart)
      hcontract c.contract_names (by simp [ContractConfig.settings])
  | logDispatch =>
    exact listed_within (s := .ofTruth "log_dispatch" c.callbacks.value.logDispatch)
      hcallbacks c.callbacks_names (by simp [CallbackConfig.settings])
  | warnOnLeakedHandles =>
    exact listed_within (s := .ofTruth "warn_on_leaked_handles" c.callbacks.value.warnOnLeakedHandles)
      hcallbacks c.callbacks_names (by simp [CallbackConfig.settings])
  | level =>
    exact listed_within (s := .plain "level" c.logging.value.level.explicit (.text c.logging.value.level.value.name))
      hlogging c.logging_names (by simp [LoggingConfig.settings])
  | format =>
    exact listed_within (s := .plain "format" c.logging.value.format.explicit (.text c.logging.value.format.value.name))
      hlogging c.logging_names (by simp [LoggingConfig.settings])
  | outputFile =>
    exact listed_within (s := .ofOptionalText "output_file" c.logging.value.outputFile)
      hlogging c.logging_names (by simp [LoggingConfig.settings])
  | maxFileSizeMb =>
    exact listed_within (s := .ofWhole "max_file_size_mb" c.logging.value.maxFileSizeMb)
      hlogging c.logging_names (by simp [LoggingConfig.settings])
  | backupCount =>
    exact listed_within (s := .ofWhole "backup_count" c.logging.value.backupCount)
      hlogging c.logging_names (by simp [LoggingConfig.settings])
  | includeThreadInfo =>
    exact listed_within (s := .ofTruth "include_thread_info" c.logging.value.includeThreadInfo)
      hlogging c.logging_names (by simp [LoggingConfig.settings])

/-- A section is listed as a layer has it, if it lists leaves under names of their own. -/
theorem section_entry {sect : String} (hs : sect ∈ Value.sectionNames) {outer : Setting α}
    {settings : α → List Listed} (hn : ((settings outer.value).map Listed.name).Nodup)
    (hl : ∀ s ∈ settings outer.value, s.whole.Leaf ∧ s.asSet.Leaf) :
    Value.LayerEntry sect (listSection sect outer settings).whole
    ∧ Value.LayerEntry sect (listSection sect outer settings).asSet := by
  rw [Value.LayerEntry, Value.LayerEntry, if_pos hs, if_pos hs]
  exact ⟨Listed.document_fits hn fun s hs => (hl s hs).1, Listed.setDocument_fits hn fun s hs => (hl s hs).2⟩

theorem settings_entry (c : RuntimeConfig) :
    ∀ s ∈ c.settings, Value.LayerEntry s.name s.whole ∧ Value.LayerEntry s.name s.asSet := by
  have hcontract := section_entry (by decide : "contract" ∈ Value.sectionNames) (contract_names c)
    (by simp [ContractConfig.settings, Listed.ofOptionalText, Listed.ofTruth, Listed.plain])
  have hcallbacks := section_entry (by decide : "callbacks" ∈ Value.sectionNames) (callbacks_names c)
    (by simp [CallbackConfig.settings, Listed.ofTruth, Listed.plain])
  have hlogging := section_entry (by decide : "logging" ∈ Value.sectionNames) (logging_names c)
    (by simp [LoggingConfig.settings, Listed.ofOptionalText, Listed.ofWhole, Listed.ofTruth, Listed.plain])
  have houtside : ∀ name ∉ Value.sectionNames, ∀ s, Value.LayerEntry name (Listed.optionalText s) := by
    intro name hn s
    rw [Value.LayerEntry, if_neg hn]
    exact Listed.leaf_optionalText s
  intro s hs
  simp only [settings, List.mem_cons, List.not_mem_nil, or_false] at hs
  rcases hs with rfl | rfl | rfl | rfl | rfl
  · have hn := houtside "namespace" (by decide) c.space.value
    exact ⟨hn, hn⟩
  · have hn := houtside "library_path" (by decide) c.libraryPath.value
    exact ⟨hn, hn⟩
  · exact hcontract
  · exact hcallbacks
  · exact hlogging

theorem document_layer (c : RuntimeConfig) : c.document.Layer :=
  Listed.document_fits c.settings_names fun s hs => (c.settings_entry s hs).1

theorem setDocument_layer (c : RuntimeConfig) : c.setDocument.Layer :=
  Listed.setDocument_fits c.settings_names fun s hs => (c.settings_entry s hs).2

end RuntimeConfig

/-! ### What is listed reads as the same -/

namespace Field

theorem level_entry (l : Level) : LoggingConfig.levelEntry (.text l.name) = .ok l := by
  have hl : Level.ofName? l.name = some l := by cases l <;> decide +kernel
  refine Checked.andThen_eq_ok.mpr ⟨l.name, rfl, ?_⟩
  rw [hl]

theorem format_entry (f : LogFormat) : LoggingConfig.formatEntry (.text f.name) = .ok f := by
  have hf : LogFormat.ofName? f.name = some f := by cases f <;> decide +kernel
  refine Checked.andThen_eq_ok.mpr ⟨f.name, rfl, ?_⟩
  rw [hf]

theorem optionalText_entry (s : Option String) : Entry.optionalText (Listed.optionalText s) = .ok s := by
  cases s <;> rfl

theorem wholeFrom_int {least i : Int} (h : least ≤ i) : Entry.wholeFrom least none (.int i) = .ok i := by
  have hl : Entry.atLeast least i = .ok i := if_neg (Int.not_lt.mpr h)
  change (Entry.atLeast least i).andThen _ = _
  rw [hl]
  rfl

theorem le_of_wholeFrom {least i : Int} {v : Value} (h : Entry.wholeFrom least none v = .ok i) : least ≤ i := by
  obtain ⟨j, -, h⟩ := Checked.andThen_eq_ok.mp h
  obtain ⟨k, hk, h⟩ := Checked.andThen_eq_ok.mp h
  obtain rfl : k = i := Checked.ok.inj h
  unfold Entry.atLeast at hk
  split_ifs at hk with hj
  · cases hk
  · obtain rfl : j = k := Checked.ok.inj hk
    exact Int.not_lt.mp hj

theorem entry_shown {f : Field} {v : Value} {a : f.Kind} (h : f.entry v = .ok a) : f.entry (f.shown a) = .ok a := by
  cases f with
  | space | libraryPath | manifestFile | outputFile => exact optionalText_entry a
  | verifyOnStart | logDispatch | warnOnLeakedHandles | includeThreadInfo => rfl
  | maxFileSizeMb | backupCount => exact wholeFrom_int (le_of_wholeFrom h)
  | level => exact level_entry a
  | format => exact format_entry a

theorem entry_absent (f : Field) : f.entry (f.shown f.absent) = .ok f.absent := by
  cases f with
  | level => exact level_entry .info
  | format => exact format_entry .json
  | _ => rfl

/-- What was read and is listed as far as it was set reads as what it was read from did, whatever lies below. -/
theorem read_asSet {f : Field} {given : Option Value} {s : Setting f.Kind} (h : f.read given = .ok s)
    (rest : Option Value) : f.read ((s.asSet f.shown).or rest) = f.read (given.or rest) := by
  cases given with
  | none =>
    obtain rfl : Setting.byDefault f.absent = s := Checked.ok.inj h
    rfl
  | some v =>
    obtain ⟨a, ha, rfl⟩ := Checked.map_eq_ok.mp h
    change (f.entry (f.shown a)).map Setting.set = (f.entry v).map Setting.set
    rw [entry_shown ha, ha]

theorem read_or_congr {f : Field} {given given' : Option Value} (h : f.read given = f.read given')
    (upper : Option Value) : f.read (upper.or given) = f.read (upper.or given') := by
  cases upper with
  | none => exact h
  | some v => rfl

theorem read_or {f : Field} {upper given : Option Value} (hu : ∃ s, f.read upper = .ok s)
    (hg : ∃ s, f.read given = .ok s) : ∃ s, f.read (upper.or given) = .ok s := by
  cases upper with
  | none => exact hg
  | some v => exact hu

end Field

/-- A layer over another one gives a configuration if both can be read; its settings count before those of the
other. -/
theorem RuntimeConfig.ofDocument_overlay {below above : Value} (hb : below.Layer) (ha : above.Layer)
    (hrb : ∀ f : Field, ∃ s, f.read (below.at? f.path) = .ok s)
    (hra : ∀ f : Field, ∃ s, f.read (above.at? f.path) = .ok s) :
    ∃ c, ofDocument (below.overlay above) = .ok c
      ∧ ∀ f : Field, f.read ((above.at? f.path).or (below.at? f.path)) = .ok (f.setting c) := by
  have hat : ∀ f : Field, (below.overlay above).at? f.path = (above.at? f.path).or (below.at? f.path) :=
    fun f => Value.at?_overlay ha below f.settingPath
  obtain ⟨c, hc⟩ := ofDocument_of_read (hb.overlay ha) fun f => hat f ▸ Field.read_or (hra f) (hrb f)
  exact ⟨c, hc, fun f => hat f ▸ read_of_ofDocument hc f⟩

end ForeignBridge
