import ForeignBridge.Cli.Program
import ForeignBridge.Config.Storage
import ForeignBridge.Contract.Verify
import ForeignBridge.Log.Manager

/-!
Running the tool. What it prints and what it logs to the standard output come in one order. A run returns,
leaves with a code, or fails.
-/

namespace ForeignBridge.Cli

inductive Printed
  | text (line : String)
  | logged (line : LogLine)
deriving Inhabited

structure State where
  logging : Logging
  printed : List Printed
deriving Inhabited

/-- What a run starts with: the environment, and the libraries that can be loaded by path. -/
structure Surroundings where
  environment : Environment
  libraries : List (String × NativeLibrary)
deriving Inhabited

inductive Ending
  | exit (code : Nat)
  | failed (why : Failure)
deriving Inhabited

/-- A step of a run. What it did before it ended the run stays done. -/
abbrev Step := EStateM Ending State

def say (line : String) : Step Unit :=
  modify fun s => { s with printed := s.printed ++ [.text (line ++ "\n")] }

def leave {α : Type} (code : Nat) : Step α := throw (.exit code)

def giveUp {α : Type} (why : String) : Step α := do
  say ("❌ " ++ why)
  leave 1

/-- Runs an action on the state of logging; what it writes to the standard output is printed. -/
def withLogging {α : Type} (x : LogAct α) : Step α := do
  let s ← get
  let keep (l : Logging) : Step Unit :=
    let fresh := { l with written := l.written.drop s.logging.written.length }
    set ({ logging := l, printed := s.printed ++ (fresh.linesTo .standard).map .logged } : State)
  match x s.logging with
  | .ok a l => keep l; return a
  | .error f l => keep l; throw (.failed f)

/-- A result, or the end of the run: a failure that `expected` tells of is said, any other one fails it. -/
def orGiveUp {α : Type} (r : Except Failure α) (expected : Failure → Option String) : Step α :=
  match r with
  | .ok a => return a
  | .error f => match expected f with | some why => giveUp why | none => throw (.failed f)

/-- What is said of a document that is not as it should be. -/
def documentFault? (f : Failure) : Option String :=
  match f with
  | .invalidDocument .. | .unreadableDocument .. | .unreadable .. => some f.message
  | _ => none

/-- What is said of a document that is not as it should be, or not there. -/
def manifestFault? (f : Failure) : Option String :=
  match f with
  | .noFile .. => some f.message
  | f => documentFault? f

/-- What is said of a manifest or a library that cannot be used. -/
def verificationFault? (f : Failure) : Option String :=
  match f with
  | .noLibrary .. | .notFile .. | .nameTooLong .. => some f.message
  | f => manifestFault? f

def createConfig (path : String) : Step Unit := do
  let s ← get
  let text ← orGiveUp (RuntimeConfig.byDefault.fileText "auto" path) fun _ => none
  let files ← orGiveUp (s.logging.files.save path text) fun _ => none
  set { s with logging := { s.logging with files := files } }
  say s!"Sample configuration written to {path}"

def padRight (width : Nat) (s : String) : String := s ++ Help.spaces (width - s.length)

def padLeft (width : Nat) (s : String) : String := Help.spaces (width - s.length) ++ s

/-- Prints what a manifest records, the checksums by symbol. -/
def showManifest (path : String) : Step Unit := do
  let m ← orGiveUp (ContractManifest.ofFile (← get).logging.files path) manifestFault?
  let count := m.checksums.length
  say s!"Namespace:        {m.space}"
  say s!"Contract version: {m.version}"
  say s!"Version symbol:   {m.versionSymbol}"
  say s!"Checksums:        {count}"
  for c in m.checksums.mergeSort fun a b => a.1 ≤ b.1 do
    say s!"  {padRight 60 c.1} {padLeft 5 (toString c.2)}"

def relay (entries : List LogEntry) : Step Unit :=
  for e in entries do
    withLogging (Logging.log e.channel.name e.level.number (.text e.message) [])

/-- Verifies a library and says what was found; leaves if they do not match. -/
def verifyLibrary (around : Surroundings) (library manifest : String) (strict : Bool) : Step Unit := do
  let m ← orGiveUp (ContractManifest.ofFile (← get).logging.files manifest) verificationFault?
  let l ← orGiveUp
    (match Value.lookup library around.libraries with
      | some l => .ok l
      | none => .error (.noLibrary library))
    verificationFault?
  match verifyContract l m strict (World.new []) with
  | .error f w =>
    relay w.log
    match f with
    | .contract why => giveUp why.text
    | f => throw (.failed f)
  | .ok report w =>
    relay w.log
    for why in report.mismatches do
      say ("❌ " ++ why.text)
    if report.isOk then
      let version := (report.version.map toString).getD "None"
      let count := report.checked.length
      say s!"✅ {library} matches contract '{m.space}' (version {version}, {count} checksums)"
    else
      let count := report.mismatches.length
      say s!"\n{count} mismatch(es) found"
      leave 1

/-- Runs a command, or shows what the tool is. -/
def runCommand (around : Surroundings) (config : RuntimeConfig) (command : Option Command)
    (settings : List (String × String)) (operand : String) : Step Unit := do
  match command with
  | none =>
    say banner
    modify fun s => { s with printed := s.printed ++ [.text tool.help] }
    leave 1
  | some c =>
    if c = initConfig then createConfig operand
    else if c = showContract then showManifest operand
    else
      let given (key : String) : Option String := (Value.lookup key settings).bind named
      let library := (given "library").or config.libraryPath.value
      let manifest := (given "contract").or config.contract.value.manifestFile.value
      match library.bind named, manifest.bind named with
      | some l, some m => verifyLibrary around l m (Value.lookup "all" settings).isNone
      | _, _ =>
        giveUp "Both a library (--library) and a contract manifest (--contract) are required"

def configuration (around : Surroundings) (files : Files) (settings : List (String × String)) :
    Except Failure RuntimeConfig :=
  RuntimeConfig.ofCommandLine files around.environment (Value.lookup "config" settings)
    (Value.lookup "log-level" settings) (Value.lookup "log-format" settings)

def run (around : Surroundings) (args : List String) : Step Unit := do
  match tool.read args with
  | .misuse => leave 2
  | .version => say s!"{tool.name} {tool.version}"; leave 0
  | .help command =>
    let help := match command with | some c => c.help tool.name | none => tool.help
    modify fun s => { s with printed := s.printed ++ [.text help] }
    leave 0
  | .run command settings operand =>
    let config ← orGiveUp (configuration around (← get).logging.files settings)
      fun f => (documentFault? f).map ("Invalid configuration: " ++ ·)
    withLogging (LoggingManager.setupShared (some config.logging.value))
    runCommand around config command settings operand

inductive Outcome
  | returned
  | exited (code : Nat)
  | failed (why : Failure)
deriving Inhabited

/-- The outcome of running the tool over some files, and what is then there. -/
def outcome (around : Surroundings) (files : Files) (now : Double) (args : List String) :
    Outcome × State :=
  match run around args ⟨.new files now, []⟩ with
  | .ok _ s => (.returned, s)
  | .error (.exit code) s => (.exited code, s)
  | .error (.failed why) s => (.failed why, s)

end ForeignBridge.Cli
