import ForeignBridge.Config.Setting
import ForeignBridge.Failure
import ForeignBridge.Text.Alphanumeric

/-!
Contract manifests: what the bindings were made for. A manifest names the interface, its version and the
checksum of every item that the native library must export.
-/

namespace ForeignBridge

structure ContractManifest where
  space : String
  version : Int
  /-- the symbol that tells the version, if it has a name of its own -/
  versionSymbolOverride : Option String
  /-- the symbols that tell checksums, with the checksums expected -/
  checksums : List (String × Int)
deriving DecidableEq, Repr, Inhabited

namespace ContractManifest

/-- Whether a text can name an interface: letters, digits and underscores, but not underscores alone. -/
def isIdentifier (s : String) : Bool :=
  let cs := s.toList.filter (· ≠ '_')
  !cs.isEmpty && cs.all isAlphanumeric

def spaceEntry (v : Value) : Checked String :=
  (Entry.text v).andThen fun s =>
    if isIdentifier s then .ok s
    else .refuse (.unfit "namespace must be a non-empty identifier")

def greatestVersion : Int := 2 ^ 32 - 1

def greatestChecksum : Int := 0xffff

/-- Every checksum must fit in 16 bits; the first that does not is named. -/
def checksumsEntry (v : Value) : Checked (List (String × Int)) :=
  (Entry.mapping Entry.whole v).andThen fun sums =>
    match sums.find? fun s => s.2 < 0 ∨ greatestChecksum < s.2 with
    | some s => .refuse (.unfit s!"checksum for {s.1} must fit in 16 bits")
    | none => .ok sums

def ofDocument (doc : Value) : Checked ContractManifest :=
  ContractManifest.mk
    <$> Entry.required doc "namespace" spaceEntry
    <*> Entry.required doc "contract_version" (Entry.wholeFrom 0 (some greatestVersion))
    <*> Entry.optional doc "contract_version_symbol" none Entry.optionalText
    <*> Entry.optional doc "checksums" [] checksumsEntry

/-- The manifest that a document gives, or all that is wrong with it. -/
def ofDocument? (doc : Value) : Except Failure ContractManifest :=
  match ofDocument doc with
  | .ok m => .ok m
  | .faults found => .error (.invalidDocument "ContractManifest" found)

def versionSymbol (m : ContractManifest) : String :=
  (m.versionSymbolOverride.bind named).getD s!"ffi_{m.space}_uniffi_contract_version"

/-- The manifest as a document, without what it does not say. -/
def document (m : ContractManifest) : Value :=
  .ofMembers <|
    [("namespace", .text m.space), ("contract_version", .int m.version)]
    ++ (match m.versionSymbolOverride with
        | none => []
        | some s => [("contract_version_symbol", .text s)])
    ++ [("checksums", .ofMembers (m.checksums.map fun s => (s.1, .int s.2)))]

end ContractManifest

end ForeignBridge
