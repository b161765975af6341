import ForeignBridge.Document.JsonReader
import ForeignBridge.Document.JsonPrinter
import ForeignBridge.Document.Yaml.Reader
import ForeignBridge.Document.Yaml.Printer
import ForeignBridge.Document.Toml.Reader
import ForeignBridge.Document.Toml.Printer
import ForeignBridge.Files

/-!
Documents in files. The suffix of a file tells its format: YAML, TOML, or else JSON.
-/

namespace ForeignBridge

inductive DocumentFormat
  | json
  | yaml
  | toml
deriving DecidableEq, Repr, Inhabited

namespace DocumentFormat

/-- The format of a file, by its suffix in any case. -/
def ofPath (path : String) : DocumentFormat :=
  let suffix := (Path.suffix path).toLower
  if suffix = ".yml" ∨ suffix = ".yaml" then yaml else if suffix = ".toml" then toml else json

/-- The format that a name asks for; `auto` leaves it to the path, and an unknown name means JSON. -/
def ofName (name path : String) : DocumentFormat :=
  if name = "auto" then ofPath path
  else if name = "yaml" then yaml
  else if name = "toml" then toml
  else json

/-- The text of a file with every line end as one character. -/
def withPlainLineEnds (s : String) : String := String.ofList (go s.toList)
where
  go : List Char → List Char
    | '\r' :: '\n' :: rest => '\n' :: go rest
    | '\r' :: rest => '\n' :: go rest
    | c :: rest => c :: go rest
    | [] => []

def read (f : DocumentFormat) (s : String) : Except Unread Value :=
  let s := withPlainLineEnds s
  match f with
  | json => Json.read s
  | yaml => Yaml.read s
  | toml => Toml.read s

def print (f : DocumentFormat) (v : Value) : Except Failure String :=
  match f with
  | json => .ok (Json.print .pretty v)
  | yaml => .ok (Yaml.print v)
  | toml => match Toml.print? v with | some s => .ok s | none => .error (.pastEnd "list")

end DocumentFormat

/-- The settings of a document: a dictionary with texts as keys. An empty document has none. -/
def Value.settings (v : Value) : Except Failure Value :=
  if !v.truthy then .ok (.dict [])
  else
    match v with
    | .dict entries =>
      if entries.all fun e => match e.1 with | .text _ | .halved _ => true | _ => false then .ok (.dict entries)
      else .error .notSettings
    | _ => .error .notSettings

/-- The settings that a file holds; `missing` and `content` name the file in messages. -/
def Files.settings (files : Files) (missing content path : String) : Except Failure Value := do
  let text ← files.read missing path
  match (DocumentFormat.ofPath path).read text with
  | .error .malformed => throw (.unreadableDocument content)
  | .error (.failure f) => throw f
  | .ok v => v.settings

end ForeignBridge
