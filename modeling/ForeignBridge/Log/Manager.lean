import ForeignBridge.Config.Basic
import ForeignBridge.Document.File
import ForeignBridge.Log.Tree

/-!
Logging managers. A manager attaches handlers to the runtime's logger and to the callbacks' logger, as its
configuration says, and takes them away again. One manager may be shared by the whole program.
-/

namespace ForeignBridge

structure LoggingManager where
  config : LoggingConfig
  configured : Bool
  /-- the handlers it attached, each with the logger it is on -/
  handlers : List (String × Nat)
deriving DecidableEq, Repr, Inhabited

/-- The state of logging: the loggers, the managers, and all lines written, with where they went. -/
structure Logging where
  tree : LogTree
  handlersMade : Nat
  managers : List LoggingManager
  shared : Option Nat
  files : Files
  /-- seconds since 1970-01-01 in UTC, the time of all records -/
  now : Double
  written : List (Sink × LogLine)
deriving Inhabited

/-- An action on the state of logging. What it did before it failed stays done. -/
abbrev LogAct := EStateM Failure Logging

namespace Logging

def runtimeLogger : String := "fireflyffi"

def callbackLogger : String := "fireflyffi.callbacks"

def new (files : Files) (now : Double) : Logging :=
  { tree := .new, handlersMade := 0, managers := [], shared := none, files, now, written := [] }

def changeLogger (name : String) (f : Logger → Logger) : LogAct Unit :=
  modify fun s => { s with tree := s.tree.update name f }

/-- The logger of a name, made if need be, by the name that it gives itself. -/
def getLogger (name : String) : LogAct String := do
  modify fun s => { s with tree := s.tree.withLogger name }
  return LogTree.nameOf name

/-- Logs a message. A handler whose layout has no line for the record writes nothing. -/
def log (name : String) (level : Int) (message : Value) (extra : List (String × Value)) :
    LogAct Unit := do
  let logger ← getLogger name
  let s ← get
  if s.tree.enabled name level then
    if let some e := extra.find? fun e => LogRecord.reservedNames.contains e.1 then
      throw (.noKey s!"Attempt to overwrite {Quoted.text e.1} in LogRecord")
    let record := LogRecord.plain s.now logger level message extra
    let lines := (s.tree.receivers name level).filterMap fun h =>
      match h.layout.line record with
      | .ok line => some (h.sink, line)
      | .error _ => none
    set { s with written := s.written ++ lines }

/-- Attaches a new handler to a logger and gives its number. -/
def attach (name : String) (sink : Sink) (level : Int) (layout : LineLayout) : LogAct Nat := do
  let id := (← get).handlersMade
  modify fun s => { s with handlersMade := id + 1 }
  changeLogger name fun l => l.attach ⟨id, sink, level, layout⟩
  return id

/-- Opens a file to write lines at its end. -/
def openFile (path : String) : LogAct Sink := do
  let s ← get
  let (files, place, text) ← MonadExcept.ofExcept (s.files.openAt path)
  set { s with files := files.write place (text.getD "") }
  return .file (Path.ofNames place)

def linesTo (s : Logging) (sink : Sink) : List LogLine :=
  s.written.filterMap fun w => if w.1 = sink then some w.2 else none

end Logging

namespace LoggingManager

open Logging

def new (config : Option LoggingConfig) : LoggingManager :=
  ⟨config.getD .byDefault, false, []⟩

def create (config : Option LoggingConfig) : LogAct Nat := do
  let s ← get
  set { s with managers := s.managers ++ [new config] }
  return s.managers.length

def ofId (id : Nat) : LogAct LoggingManager := do return ((← get).managers[id]?).getD (new none)

def change (id : Nat) (f : LoggingManager → LoggingManager) : LogAct Unit :=
  modify fun s => { s with managers := s.managers.modify id f }

def level (m : LoggingManager) : Int := m.config.level.value.number

def layout (m : LoggingManager) (callbacks : Bool) : LineLayout :=
  match m.config.format.value with
  | .json => .json (.standard callbacks m.config.includeThreadInfo.value)
  | .text => .text

/-- Attaches a handler to one of the two loggers. -/
def attachOwn (id : Nat) (callbacks : Bool) (sink : Sink) : LogAct Unit := do
  let m ← ofId id
  let name := if callbacks then callbackLogger else runtimeLogger
  let h ← attach name sink m.level (m.layout callbacks)
  change id fun m => { m with handlers := m.handlers ++ [(name, h)] }

def attachFile (id : Nat) (path : String) : LogAct Unit := do
  for callbacks in [false, true] do
    attachOwn id callbacks (← openFile path)

/-- What a manager says of itself when it is set up. -/
def announcement (m : LoggingManager) : List (String × Value) :=
  [("log_level", .text m.config.level.value.name), ("format_type", .text m.config.format.value.name),
    ("output_file", Listed.optionalText m.config.outputFile.value)]

/-- Sets logging up, unless that is done: handlers for a stream and for the log file, if there is one, and
nothing passed up to the root. -/
def setup (id : Nat) (sink : Sink) : LogAct Unit := do
  let m ← ofId id
  if !m.configured then
    attachOwn id false sink
    attachOwn id true sink
    if let some path := m.config.outputFile.value.bind named then attachFile id path
    for name in [runtimeLogger, callbackLogger] do
      changeLogger name fun l => { l with level := m.level, propagates := false }
    change id fun m => { m with configured := true }
    log (runtimeLogger ++ ".logging") Level.info.number
      (.text "FireflyFFI logging system initialized") m.announcement

/-- The name of a logger, once logging is set up. -/
def loggerNamed (id : Nat) (name : String) : LogAct String := do
  setup id .standard
  getLogger name

/-- Takes away every handler that a manager attached; its loggers pass records up again. -/
def shutdown (id : Nat) : LogAct Unit := do
  for h in (← ofId id).handlers do
    changeLogger h.1 fun l => { l.detach h.2 with propagates := true }
  change id fun m => { m with handlers := [], configured := false }

/-- The shared manager, made at the first request for it. -/
def sharedManager (config : Option LoggingConfig) : LogAct Nat := do
  match (← get).shared with
  | some id => return id
  | none =>
    let id ← create config
    modify fun s => { s with shared := some id }
    return id

def setupShared (config : Option LoggingConfig) : LogAct Unit := do
  setup (← sharedManager config) .standard

/-- The name of a logger below the runtime's, once logging is set up. -/
def sharedLogger (name : String) : LogAct String := do
  loggerNamed (← sharedManager none) (runtimeLogger ++ "." ++ name)

def shutdownShared : LogAct Unit := do
  if let some id := (← get).shared then
    shutdown id
    modify fun s => { s with shared := none }

end LoggingManager

namespace Logging

/-- Makes a logger and the callbacks' logger below it write JSON to a sink and nowhere else. -/
def configureJson (name : String) (level : Int) (sink : Sink) : LogAct String := do
  for (name, callbacks) in [(name, false), (name ++ ".callbacks", true)] do
    changeLogger name fun l => { l with level := level, handlers := [] }
    let _ ← attach name sink level (.json (.standard callbacks true))
  changeLogger (name ++ ".callbacks") fun l => { l with propagates := false }
  getLogger name

end Logging

end ForeignBridge
