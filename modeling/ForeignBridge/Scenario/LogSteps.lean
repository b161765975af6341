import ForeignBridge.Cli.Run
import ForeignBridge.Scenario.Answer
import ForeignBridge.Scenario.LogForm
import ForeignBridge.Scenario.NativeForm
import ForeignBridge.Scenario.SettingsForm

/-!
Scenarios of logging and of the command line. What is written to streams and files is answered without what
depends on when and where it was written.
-/

namespace ForeignBridge.LogSteps

open Answer ValueForm NativeForm

/-! Logs -/

def logFormatOp (input : Value) : Value :=
  let n := vocabulary input
  let line := do
    check n (input.field "record")
    let layout ← LogForm.layout (input.field "formatter")
    (LineLayout.json layout).line (LogForm.record n (input.field "record"))
  obj (match line with
    | .ok l => [("text", txt l.shown)]
    | .error f => failureEntries f)

/-- The members of a line that depend on the run. -/
def ofTheRun : List String := ["timestamp", "module", "function", "line"]

def cleaned : LogLine → String
  | .json ms => (LogLine.json (ms.filter fun m => !ofTheRun.contains m.1)).shown
  | .text _ l level m => (LogLine.text "<time>" l level m).shown

def outputText (lines : List LogLine) : String := String.join (lines.map fun l => cleaned l ++ "\n")

def isOutside (place : String) : Bool := (Path.names place).head?.any ["..", "/"].contains

/-- The files in the working directory that are new or changed. -/
def filesAfter (before : Files) (l : Logging) : Entries :=
  (l.files.texts.map fun f => (f.1, f.2 ++ outputText (l.linesTo (.file f.1)))).filterMap fun f =>
    if isOutside f.1 || Value.lookup f.1 before.texts = some f.2 then none else some (f.1, txt f.2)

structure LogSession where
  logging : Logging
  managers : List (String × Nat) := []

abbrev LogRun := ExceptT Stop (StateM LogSession)

def logAct {α : Type} (x : LogAct α) : LogRun α := do
  let s ← get
  match x s.logging with
  | .ok a l => set { s with logging := l }; return a
  | .error f l => set { s with logging := l }; throw (.failure f)

def logStep (n : Vocabulary) (step : Value) : LogRun Value := do
  let s ← get
  let config : LogRun (Option LoggingConfig) := (step.given? "logging").mapM fun d => do
    let c ← logAct (MonadExcept.ofExcept (RuntimeConfig.ofDocument? (obj [("logging", document d)])))
    return c.logging.value
  let manager : LogRun Nat := do
    let name := ((step.field "manager").asText?).getD "m"
    match Value.lookup name s.managers with
    | some id => return id
    | none => throw (.noObject name)
  let keep (name : String) (id : Nat) : LogRun Unit :=
    modify fun s => { s with managers := Value.put name id s.managers }
  let name := step.textField "name"
  if let some stop := unreadable? n step then throw stop
  match doing step with
  | "create" =>
    keep (((step.field "as").asText?).getD "m") (← logAct (LoggingManager.create (← config)))
    return .null
  | "setup" =>
    let sink := if (step.field "default_stream").isTrue then Sink.standard else .stream
    logAct (LoggingManager.setup (← manager) sink)
    return .null
  | "get_logger" => return txt (← logAct (LoggingManager.loggerNamed (← manager) name))
  | "shutdown" => logAct (LoggingManager.shutdown (← manager)); return .null
  | "inspect" =>
    return LogForm.manager (← logAct (LoggingManager.ofId (← manager)))
  | "loggers" => return obj ([Logging.runtimeLogger, Logging.callbackLogger].map fun l =>
      (l, LogForm.logger (s.logging.tree.get l)))
  | "log" =>
    let extra := (step.field "extra").asPairs.map fun e => (e.1, read n e.2)
    let level ← logAct (MonadExcept.ofExcept (LogForm.messageLevel step))
    logAct (Logging.log (step.textField "logger") level (read n (step.field "msg")) extra)
    return .null
  | "handler" =>
    let layout := JsonLayout.standard (step.textField "formatter_type" = "callback") true
    let level ← logAct (MonadExcept.ofExcept (LogForm.level step))
    return obj [("level", num level), ("formatter", txt (LogForm.layoutKind (.json layout))),
      ("prefix", layout.mark)]
  | "configure_json" =>
    let logger := ((step.field "logger_name").asText?).getD Logging.runtimeLogger
    let level ← logAct (MonadExcept.ofExcept (LogForm.level step))
    return txt (← logAct (Logging.configureJson logger level .stream))
  | "global_setup" => logAct (LoggingManager.setupShared (← config)); return .null
  | "global_get" =>
    let id ← logAct (LoggingManager.sharedManager (← config))
    keep "global" id
    return .bool (← logAct (LoggingManager.ofId id)).configured
  | "global_logger" => return txt (← logAct (LoggingManager.sharedLogger name))
  | "global_shutdown" => logAct LoggingManager.shutdownShared; return .null
  | _ => return .null

def logResult (x : LogRun Value) : StateM LogSession Value := do
  let before := (← get).logging.written.length
  let r ← x.run
  let l := (← get).logging
  let fresh := { l with written := l.written.drop before }
  let shown (name : String) (sink : Sink) : Entries :=
    match fresh.linesTo sink with
    | [] => []
    | lines => [(name, names ((outputText lines).splitOn "\n"))]
  return obj ((match r with | .ok v => [("ok", v)] | .error stop => stopEntries stop)
    ++ shown "stream" .stream ++ shown "stdout" .standard)

def logManagerOp (input : Value) : Value :=
  let before := SettingsForm.files input
  let start : LogSession := { logging := .new before (LogForm.seconds 0) }
  let (rs, s) := ((steps input).mapM fun step => logResult (logStep (vocabulary input) step)).run start
  obj ([("results", arr rs)] ++ match filesAfter before s.logging with
    | [] => []
    | fs => [("files", obj fs)])

/-! The command line -/

/-- Whether a line ends with what a faulty document is reported by, and the rest is not answered. -/
def isCutOff (line : String) : Bool :=
  line.contains " validation error" || line.endsWith "Failed to parse configuration file"
    || line.endsWith "Failed to parse contract manifest"

def cliOp (input : Value) : Value :=
  let before := SettingsForm.files input
  let libraries := (input.field "libraries").asMembers.map fun l =>
    (l.1, library (obj [("symbols", l.2)]))
  let (outcome, s) := Cli.outcome ⟨SettingsForm.environment input, libraries⟩ before (LogForm.seconds 0)
    ((input.itemsField "argv").map Value.asText)
  let lines := (String.join (s.printed.map fun p => match p with
    | .text t => t
    | .logged l => cleaned l ++ "\n")).splitOn "\n"
  let lines := if (lines.dropLast.getLast?).any isCutOff then lines.dropLast else lines
  obj ((match outcome with
    | .returned => [("exit", .null)]
    | .exited code => [("exit", count code)]
    | .failed f => failureEntries f)
    ++ [("stdout", names lines), ("files", obj (filesAfter before s.logging))])

end ForeignBridge.LogSteps
