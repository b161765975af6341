import ForeignBridge.Contract.Manifest
import ForeignBridge.World

/-!
Verifying a native library against a manifest. The version comes first, and the checksums count only if
it is the expected one. A verification stops at the first disagreement or collects them all.
-/

namespace ForeignBridge

/-- A native library: what its parameterless functions return, and the functions for buffers that it
exports. -/
structure NativeLibrary where
  symbols : List (String × Int)
  bufferExports : List String
deriving Repr, Inhabited

structure ContractReport where
  space : String
  version : Option Int
  checked : List String
  mismatches : List ContractFailure
deriving DecidableEq, Repr, Inhabited

def ContractReport.isOk (r : ContractReport) : Bool := r.mismatches.isEmpty

namespace NativeLibrary

/-- Calls a function of the library, which may lack it. -/
def read (l : NativeLibrary) (symbol : String) : Act (Except ContractFailure Int) := do
  match Value.lookup symbol l.symbols with
  | none => return .error (.missingSymbol symbol)
  | some value =>
    modify fun w =>
      { w with calls := Value.put symbol ((Value.lookup symbol w.calls).getD 0 + 1) w.calls }
    return .ok value

def readVersion (l : NativeLibrary) (m : ContractManifest) : Act (Except ContractFailure Int) :=
  l.read m.versionSymbol

end NativeLibrary

/-- Reports a disagreement: a strict verification ends with it. -/
def ContractReport.record (r : ContractReport) (strict : Bool) (why : ContractFailure) :
    Act ContractReport := do
  if strict then
    World.note .error .contract s!"Contract verification failed: {why.text}"
    throw (.contract why)
  else
    World.note .warning .contract s!"Contract verification: {why.text}"
    return { r with mismatches := r.mismatches ++ [why] }

def verifyChecksums (l : NativeLibrary) (strict : Bool) (r : ContractReport) :
    List (String × Int) → Act ContractReport
  | [] => return r
  | (symbol, expected) :: rest => do
    match ← l.read symbol with
    | .error why =>
      let r ← r.record strict why
      verifyChecksums l strict r rest
    | .ok actual =>
      let r := { r with checked := r.checked ++ [symbol] }
      let r ← if actual ≠ expected then r.record strict (.checksum symbol expected actual) else pure r
      verifyChecksums l strict r rest

def verifyContract (l : NativeLibrary) (m : ContractManifest) (strict : Bool) :
    Act ContractReport := do
  let r : ContractReport := ⟨m.space, none, [], []⟩
  match ← l.readVersion m with
  | .error why => r.record strict why
  | .ok version =>
    let r := { r with version := some version }
    if version ≠ m.version then r.record strict (.version m.space m.version version)
    else
      let r ← verifyChecksums l strict r m.checksums
      if r.isOk then
        let count := r.checked.length
        World.note .info .contract
          s!"Contract verified for '{m.space}' (version {version}, {count} checksums)"
      return r

end ForeignBridge
