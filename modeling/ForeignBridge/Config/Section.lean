import ForeignBridge.Config.Setting

/-!
The sections of a configuration: logging, contract verification and callback dispatch. `ofDocument`
reads a section, `settings` lists it.
-/

namespace ForeignBridge

inductive LogFormat
  | json
  | text
deriving DecidableEq, Repr, Inhabited

def LogFormat.name : LogFormat → String
  | json => "json"
  | text => "text"

/-- The capital of a character, where that is one of A to Z. -/
def asciiCapital (c : Char) : Char :=
  if c = 'ı' then 'I' else if c = 'ſ' then 'S' else c.toUpper

/-- The level that a name means, in any case. -/
def Level.ofName? (name : String) : Option Level :=
  let capitals := String.ofList (name.toList.map asciiCapital)
  [Level.debug, .info, .warning, .error, .critical].find? (·.name == capitals)

/-- The format that a name means, in any case. -/
def LogFormat.ofName? (name : String) : Option LogFormat :=
  [LogFormat.json, .text].find? (·.name == name.toLower)

structure LoggingConfig where
  level : Setting Level
  format : Setting LogFormat
  outputFile : Setting (Option String)
  maxFileSizeMb : Setting Int
  backupCount : Setting Int
  includeThreadInfo : Setting Bool
deriving DecidableEq, Repr, Inhabited

namespace LoggingConfig

def byDefault : LoggingConfig :=
  ⟨.byDefault .info, .byDefault .json, .byDefault none, .byDefault 100, .byDefault 5, .byDefault true⟩

def levelEntry (v : Value) : Checked Level :=
  (Entry.text v).andThen fun s =>
    match Level.ofName? s with
    | some l => .ok l
    | none => .refuse (.unfit "Log level must be one of")

def formatEntry (v : Value) : Checked LogFormat :=
  (Entry.text v).andThen fun s =>
    match LogFormat.ofName? s with
    | some f => .ok f
    | none => .refuse (.unfit "Log format must be one of")

def ofDocument (doc : Value) : Checked LoggingConfig :=
  LoggingConfig.mk
    <$> Setting.read doc "level" .info levelEntry
    <*> Setting.read doc "format" .json formatEntry
    <*> Setting.read doc "output_file" none Entry.optionalText
    <*> Setting.read doc "max_file_size_mb" 100 (Entry.wholeFrom 1 none)
    <*> Setting.read doc "backup_count" 5 (Entry.wholeFrom 1 none)
    <*> Setting.read doc "include_thread_info" true Entry.truth

def settings (c : LoggingConfig) : List Listed :=
  [.plain "level" c.level.explicit (.text c.level.value.name),
    .plain "format" c.format.explicit (.text c.format.value.name),
    .ofOptionalText "output_file" c.outputFile,
    .ofWhole "max_file_size_mb" c.maxFileSizeMb,
    .ofWhole "backup_count" c.backupCount,
    .ofTruth "include_thread_info" c.includeThreadInfo]

end LoggingConfig

structure ContractConfig where
  manifestFile : Setting (Option String)
  verifyOnStart : Setting Bool
deriving DecidableEq, Repr, Inhabited

namespace ContractConfig

def byDefault : ContractConfig := ⟨.byDefault none, .byDefault true⟩

def ofDocument (doc : Value) : Checked ContractConfig :=
  ContractConfig.mk
    <$> Setting.read doc "manifest_file" none Entry.optionalText
    <*> Setting.read doc "verify_on_start" true Entry.truth

def settings (c : ContractConfig) : List Listed :=
  [.ofOptionalText "manifest_file" c.manifestFile, .ofTruth "verify_on_start" c.verifyOnStart]

end ContractConfig

structure CallbackConfig where
  logDispatch : Setting Bool
  warnOnLeakedHandles : Setting Bool
deriving DecidableEq, Repr, Inhabited

namespace CallbackConfig

def byDefault : CallbackConfig := ⟨.byDefault false, .byDefault true⟩

def ofDocument (doc : Value) : Checked CallbackConfig :=
  CallbackConfig.mk
    <$> Setting.read doc "log_dispatch" false Entry.truth
    <*> Setting.read doc "warn_on_leaked_handles" true Entry.truth

def settings (c : CallbackConfig) : List Listed :=
  [.ofTruth "log_dispatch" c.logDispatch, .ofTruth "warn_on_leaked_handles" c.warnOnLeakedHandles]

end CallbackConfig

end ForeignBridge
