import ForeignBridge.Config.Layers
import ForeignBridge.Contract.Manifest
import ForeignBridge.Document.File

/-!
Configurations and manifests in files.
-/

namespace ForeignBridge

namespace RuntimeConfig

def ofFile (files : Files) (path : String) : Except Failure RuntimeConfig := do
  ofDocument? (← files.settings "Configuration file" "configuration file" path)

/-- The text that saves a configuration. TOML leaves out what is null. -/
def fileText (c : RuntimeConfig) (format path : String) : Except Failure String :=
  (DocumentFormat.ofName format path).print c.document

/-- A configuration from a file, if there is one, with the environment laid over it. -/
def load (files : Files) (env : Environment) (path : Option String) (start : String)
    (useEnvironment : Bool) : Except Failure RuntimeConfig := do
  let base ←
    match path.bind named with
    | none => .ok byDefault
    | some p =>
      match ofFile files p with
      | .error (.noFile ..) => .ok byDefault
      | r => r
  if useEnvironment then withEnvironment start env base else .ok base

def variableStart : String := "FIREFLYFFI_"

/-- The configuration of the command line: quiet logging as text, the file and the environment over it, and
the flags over all. -/
def ofCommandLine (files : Files) (env : Environment) (path level format : Option String) :
    Except Failure RuntimeConfig := do
  let quiet : LoggingConfig :=
    { LoggingConfig.byDefault with level := .set .warning, format := .set .text }
  let base := { byDefault with logging := .set quiet }
  let loaded ← load files env path variableStart true
  let flag (name : String) (v : Option String) : List (String × Value) :=
    match v.bind named with | some s => [(name, .ofText s)] | none => []
  let flags ← (LoggingConfig.ofDocument (.ofMembers (flag "level" level ++ flag "format" format))).result
    "LoggingConfig"
  merge [base, loaded, { byDefault with logging := .set flags }]

end RuntimeConfig

namespace ContractManifest

def ofFile (files : Files) (path : String) : Except Failure ContractManifest := do
  ofDocument? (← files.settings "Contract manifest" "contract manifest" path)

def fileText (m : ContractManifest) (path : String) : Except Failure String :=
  (DocumentFormat.ofPath path).print m.document

end ContractManifest

end ForeignBridge
