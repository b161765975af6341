import ForeignBridge.Config.Basic

/-!
Configurations in layers: later ones over earlier ones, and the variables of the environment over a
file. A layer counts only as far as it was set.
-/

namespace ForeignBridge

abbrev Environment := List (String × String)

namespace RuntimeConfig

/-- The configuration that documents give, laid one over another. -/
def layered (first : Value) (rest : List Value) : Except Failure RuntimeConfig :=
  ofDocument? (rest.foldl Value.overlay first)

/-- Lays configurations one over another; the first counts in full. -/
def merge : List RuntimeConfig → Except Failure RuntimeConfig
  | [] => .ok byDefault
  | first :: rest => layered first.document (rest.map setDocument)

/-- The truth value of a variable; any word that does not affirm is false. -/
def affirms (s : String) : Bool := ["1", "true", "yes", "on"].contains s.toLower

/-- The variables that set something, by their names after the common beginning: the path of the
setting, and how the variable is read. -/
def knownVariables : List (String × List String × (String → Value)) := [
  ("NAMESPACE", ["namespace"], .ofText),
  ("LIBRARY_PATH", ["library_path"], .ofText),
  ("CONTRACT_MANIFEST", ["contract", "manifest_file"], .ofText),
  ("VERIFY_ON_START", ["contract", "verify_on_start"], fun s => .bool (affirms s)),
  ("LOG_DISPATCH", ["callbacks", "log_dispatch"], fun s => .bool (affirms s)),
  ("LOG_LEVEL", ["logging", "level"], .ofText),
  ("LOG_FORMAT", ["logging", "format"], .ofText),
  ("LOG_FILE", ["logging", "output_file"], .ofText)]

/-- A document with one entry at the end of a path. -/
def atPath (path : List String) (v : Value) : Value :=
  path.foldr (fun name inner => .ofMembers [(name, inner)]) v

def environmentDocument (start : String) (env : Environment) : Value :=
  knownVariables.foldl
    (fun doc x =>
      match Value.lookup (start ++ x.1) env with
      | some s => doc.overlay (atPath x.2.1 (x.2.2 s))
      | none => doc)
    (.dict [])

def ofEnvironment (start : String) (env : Environment) : Except Failure RuntimeConfig :=
  ofDocument? (environmentDocument start env)

/-- A configuration with what the environment sets laid over what the configuration sets. -/
def withEnvironment (start : String) (env : Environment) (c : RuntimeConfig) :
    Except Failure RuntimeConfig :=
  match environmentDocument start env with
  | .dict [] => .ok c
  | doc => ofDocument? (c.setDocument.overlay doc)

end RuntimeConfig

end ForeignBridge
