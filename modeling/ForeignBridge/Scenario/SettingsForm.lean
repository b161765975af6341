import ForeignBridge.Config.Storage
import ForeignBridge.Contract.Verify
import ForeignBridge.Scenario.FailureForm
import ForeignBridge.Scenario.ValueForm

/-!
What a scenario writes of configurations, manifests and verifications, and the files and variables that it
starts with.
-/

namespace ForeignBridge.SettingsForm

/-- The files of a scenario, each at the place that its path leads to. -/
def files (v : Value) : Files :=
  .ofTexts <| (v.field "files").asMembers.foldl
    (fun texts f => Value.put (Files.placeNamed (Path.names f.1)) f.2.asText texts) []

def environment (v : Value) : Environment := (v.field "env").asMembers.map fun e => (e.1, e.2.asText)

def report (r : ContractReport) : Value :=
  .ofMembers [("namespace", .text r.space),
    ("contract_version", (r.version.map ValueForm.ofInteger).getD .null),
    ("checked", .list (r.checked.map .text)),
    ("mismatches", .list (r.mismatches.map fun m => .ofMembers (FailureForm.members (.contract m)))),
    ("ok", .bool r.isOk)]

def manifest (m : ContractManifest) : Value :=
  .ofMembers [("namespace", .text m.space), ("contract_version", ValueForm.ofInteger m.version),
    ("contract_version_symbol", Listed.optionalText m.versionSymbolOverride),
    ("checksums", .list (m.checksums.map fun c => .list [.text c.1, ValueForm.ofInteger c.2]))]

mutual

/-- A document as an answer holds it, with numbers as values are written. -/
def document (v : Value) : Value :=
  match v with
  | .int i => ValueForm.ofInteger i
  | .list items => .list (documents items)
  | .dict entries => .dict (documentEntries entries)
  | v => ValueForm.plain v

def documents : List Value → List Value
  | [] => []
  | v :: rest => document v :: documents rest

def documentEntries : List (Value × Value) → List (Value × Value)
  | [] => []
  | e :: rest => (e.1, document e.2) :: documentEntries rest

end

/-- A configuration, or a section of one that stands alone. -/
inductive Model
  | runtime (c : RuntimeConfig)
  | logging (c : LoggingConfig)
  | contract (c : ContractConfig)
  | callbacks (c : CallbackConfig)

namespace Model

def name : Model → String
  | runtime _ => "RuntimeConfig"
  | logging _ => "LoggingConfig"
  | contract _ => "ContractConfig"
  | callbacks _ => "CallbackConfig"

def settings : Model → List Listed
  | runtime c => c.settings
  | logging c => c.settings
  | contract c => c.settings
  | callbacks c => c.settings

/-- What a document gives, read as the model of a name. -/
def ofDocument (name : String) (data : Value) : Except Failure Model :=
  match name with
  | "LoggingConfig" => logging <$> (LoggingConfig.ofDocument data).result name
  | "ContractConfig" => contract <$> (ContractConfig.ofDocument data).result name
  | "CallbackConfig" => callbacks <$> (CallbackConfig.ofDocument data).result name
  | _ => runtime <$> RuntimeConfig.ofDocument? data

/-- The configuration that is asked for something which a section alone does not have. -/
def asked (method : String) : Model → Except Failure RuntimeConfig
  | runtime c => .ok c
  | m => .error (.noAttribute m.name method)

/-- Whether two are of one kind and have the same values. -/
def sameAs (a b : Model) : Bool :=
  a.name == b.name && (Listed.document a.settings).same (Listed.document b.settings)

/-- The configuration that results when each is laid over those before it. -/
def merge : List Model → Except Failure RuntimeConfig
  | [] => .ok .byDefault
  | first :: rest =>
    RuntimeConfig.layered (Listed.document first.settings) (rest.map fun m => Listed.setDocument m.settings)

/-- All of it, and what was set of it. -/
def answer (m : Model) : Value :=
  .ofMembers [("config", document (Listed.document m.settings)), ("set", document (Listed.setDocument m.settings))]

end Model

end ForeignBridge.SettingsForm
