import ForeignBridge.Config.Section
import ForeignBridge.Document.Merge
import ForeignBridge.Failure

/-!
The configuration of a runtime: its own settings and its sections. A configuration is read from a
document, listed as one, compared by its values, and looked over for settings that do not go together.
-/

namespace ForeignBridge

structure RuntimeConfig where
  space : Setting (Option String)
  libraryPath : Setting (Option String)
  contract : Setting ContractConfig
  callbacks : Setting CallbackConfig
  logging : Setting LoggingConfig
deriving DecidableEq, Repr, Inhabited

/-- What a check found as a result: a value, or a failure that names the model it was checked for. -/
def Checked.result {α : Type} (model : String) : Checked α → Except Failure α
  | ok a => .ok a
  | faults found => .error (.invalidDocument model found)

namespace RuntimeConfig

def byDefault : RuntimeConfig :=
  ⟨.byDefault none, .byDefault none, .byDefault .byDefault, .byDefault .byDefault,
    .byDefault .byDefault⟩

def sectionEntry {α : Type} (read : Value → Checked α) (v : Value) : Checked α :=
  match v with
  | .dict entries => read (.dict entries)
  | _ => .refuse .notSection

def ofDocument (doc : Value) : Checked RuntimeConfig :=
  RuntimeConfig.mk
    <$> Setting.read doc "namespace" none Entry.optionalText
    <*> Setting.read doc "library_path" none Entry.optionalText
    <*> Setting.read doc "contract" .byDefault (sectionEntry ContractConfig.ofDocument)
    <*> Setting.read doc "callbacks" .byDefault (sectionEntry CallbackConfig.ofDocument)
    <*> Setting.read doc "logging" .byDefault (sectionEntry LoggingConfig.ofDocument)

/-- The configuration that a document gives, or all that is wrong with it. -/
def ofDocument? (doc : Value) : Except Failure RuntimeConfig :=
  (ofDocument doc).result "RuntimeConfig"

def listSection {α : Type} (name : String) (s : Setting α) (settings : α → List Listed) : Listed :=
  ⟨name, s.explicit, Listed.document (settings s.value), Listed.setDocument (settings s.value)⟩

def settings (c : RuntimeConfig) : List Listed :=
  [.ofOptionalText "namespace" c.space,
    .ofOptionalText "library_path" c.libraryPath,
    listSection "contract" c.contract ContractConfig.settings,
    listSection "callbacks" c.callbacks CallbackConfig.settings,
    listSection "logging" c.logging LoggingConfig.settings]

def document (c : RuntimeConfig) : Value := Listed.document c.settings

def setDocument (c : RuntimeConfig) : Value := Listed.setDocument c.settings

/-- Whether two configurations have the same values, set or not. -/
def sameAs (a b : RuntimeConfig) : Bool := a.document.same b.document

def warnings (c : RuntimeConfig) : List String :=
  let contract := c.contract.value
  let hasManifest := (contract.manifestFile.value.bind named).isSome
  (if contract.verifyOnStart.value then []
    else ["Contract verification is disabled; skewed builds will not be detected at startup"])
  ++ (if contract.verifyOnStart.value && !hasManifest then
      ["No contract manifest file configured; one must be passed explicitly"]
    else [])
  ++ (if c.callbacks.value.logDispatch.value && c.logging.value.level.value != .debug then
      ["log_dispatch has no visible effect unless the log level is DEBUG"]
    else [])

end RuntimeConfig

end ForeignBridge
