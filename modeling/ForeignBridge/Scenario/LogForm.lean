import ForeignBridge.Scenario.ValueForm
import ForeignBridge.Log.Manager

/-!
Log records, layouts, loggers and managers written as documents.
-/

namespace ForeignBridge.LogForm

def seconds (micros : Int) : Double := .ofRatio (micros < 0) micros.natAbs 1000000

/-- The text of a level given by a number, or the number of a level given by its name. -/
def levelText (v : Value) : Value :=
  match Level.byNumber.find? fun l => v.same (.int l.1), Level.byNumber.find? fun l => v.same (.text l.2) with
  | some l, _ => .text l.2
  | none, some l => .int l.1
  | none, none => .text ("Level " ++ v.shown)

/-- The number of the level under the name `level`, where the name of a level may stand for it. -/
def level (step : Value) : Except Failure Int :=
  match ValueForm.numberOr step "level" Level.info.number with
  | .int i => .ok i
  | .bool b => .ok (ValueForm.integer (.bool b))
  | .text name =>
    match Level.numberOfName? name with
    | some i => .ok i
    | none => .error (.unreadable (.logLevel name))
  | v => .error (.mismatch (.notLevel v.quoted))

/-- The level under the name `level` of a message, which has to be a number. -/
def messageLevel (step : Value) : Except Failure Int :=
  match ValueForm.numberOr step "level" Level.info.number with
  | .int i => .ok i
  | .bool b => .ok (ValueForm.integer (.bool b))
  | _ => .error (.mismatch .levelNumber)

/-- A record. A dictionary with entries that is its only argument stands for the arguments. -/
def record (n : Vocabulary) (v : Value) : LogRecord :=
  let r : LogRecord :=
    { logger := v.field "name"
      level := levelText (ValueForm.numberOr v "level" 0)
      message := ValueForm.read n (v.field "msg")
      arguments := match (v.itemsField "args").map (ValueForm.read n) with
        | [.dict (e :: rest)] => .dict (e :: rest)
        | vs => .tuple vs
      created := .float (seconds (ValueForm.integerField v "created_us" 0))
      file := match v.field? "pathname" with
        | some (.text path) => .text (Path.lastPart path)
        | place => place.getD (.text "")
      line := ValueForm.numberOr v "line" 0
      function := v.field "func"
      thread := (v.field? "thread").getD (.int 1)
      threadName := (v.field? "thread_name").getD (.text "MainThread")
      extra := []
      error := .ok (ValueForm.given? n v "exc") }
  (v.field "extra").asPairs.foldl (fun r e => r.put e.1 (ValueForm.read n e.2)) r

def layoutKind : LineLayout → String
  | .json l =>
    if l.mark.same (.text JsonLayout.callbackMark) then "CallbackLogFormatter" else "FireflyFFIJSONFormatter"
  | .text => "Formatter"

def handlerKind (h : Handler) : String :=
  match h.sink with
  | .file _ => "RotatingFileHandler"
  | _ => "StreamHandler"

def logger (l : Logger) : Value :=
  .ofMembers [("level", .int l.level), ("propagate", .bool l.propagates),
    ("handlers", .list (l.handlers.map fun h =>
      .list [.text (handlerKind h), .int h.level, .text (layoutKind h.layout)]))]

def manager (m : LoggingManager) : Value :=
  let c := m.config
  .ofMembers [("level", .int m.level), ("format", .text c.format.value.name),
    ("output_file", Listed.optionalText c.outputFile.value),
    ("max_file_size_mb", ValueForm.ofInteger c.maxFileSizeMb.value),
    ("backup_count", ValueForm.ofInteger c.backupCount.value),
    ("include_thread_info", .bool c.includeThreadInfo.value), ("configured", .bool m.configured)]

/-- The options that a layout takes; the mark of the callbacks' is fixed. -/
def optionNames (callbacks : Bool) : List String :=
  (if callbacks then [] else ["prefix"]) ++ ["include_extra", "include_thread_info"]

def layout (v : Value) : Except Failure JsonLayout :=
  let callbacks := v.textField "kind" == "callback"
  let options := v.field "options"
  let isSet (name : String) : Bool := match options.field? name with | some o => o.truthy | none => true
  match options.asMembers.find? fun o => !(optionNames callbacks).contains o.1 with
  | some o =>
    let type := layoutKind (.json (.standard callbacks true))
    .error (.mismatch (.arguments
      s!"{type}.__init__() got an unexpected keyword argument {Quoted.text o.1}"))
  | none =>
    let mark := options.field "prefix"
    .ok ⟨if mark.truthy then mark else (JsonLayout.standard callbacks true).mark, isSet "include_extra",
      isSet "include_thread_info"⟩

end ForeignBridge.LogForm
