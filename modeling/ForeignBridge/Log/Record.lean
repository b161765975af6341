import ForeignBridge.ErrorClass
import ForeignBridge.Log.Entry
import ForeignBridge.Number.Sum
import ForeignBridge.Text.Path
import ForeignBridge.Text.Template

/-!
Log records: what is known of an event when it is logged. A record may carry extra data. What takes the name of
something that the record has replaces it.
-/

namespace ForeignBridge

structure LogRecord where
  logger : Value
  level : Value
  message : Value
  /-- what the message, as a template, is filled in with; if it counts as false the message stands as it is -/
  arguments : Value
  /-- seconds since 1970-01-01 in UTC -/
  created : Value
  /-- the name of the file that the record was made in -/
  file : Value
  line : Value
  function : Value
  /-- the number of the thread, if it is known -/
  thread : Value
  threadName : Value
  extra : List (String × Value)
  /-- the error that the record reports, or why what it has in its place cannot be reported -/
  error : Except Failure (Option Value)
deriving Inhabited

namespace LogRecord

/-- A record of the main thread, with nothing said about where it was made. -/
def plain (created : Double) (logger : String) (level : Int) (message : Value)
    (extra : List (String × Value)) : LogRecord :=
  { logger := .text logger, level := .text (Level.textOfNumber level), message, arguments := .tuple [],
    created := .float created, file := .text "", line := .int 0, function := .null, thread := .int 1,
    threadName := .text "MainThread", extra, error := .ok none }

def ownNames : List String := [
  "name", "msg", "args", "levelname", "levelno", "pathname", "filename", "module", "exc_info",
  "exc_text", "stack_info", "lineno", "funcName", "created", "msecs", "relativeCreated", "thread",
  "threadName", "processName", "process"]

/-- The names that extra data must not take. -/
def reservedNames : List String := "message" :: "asctime" :: ownNames

/-- The names that are not shown as extra data. -/
def hiddenNames : List String := "taskName" :: "message" :: ownNames

/-- The error that is reported where a value says what to report: its type, itself, and where it arose. -/
def reported (v : Value) : Except Failure (Option Value) :=
  let items (what : String) (vs : List Value) : Except Failure (Option Value) :=
    if vs.length < 3 then .error (.pastEnd what) else .ok (vs[1]?)
  if !v.truthy then .ok none
  else
    match v with
    | .list vs => items "list" vs
    | .tuple vs => items "tuple" vs
    | .text s => items "string" (s.toList.map fun c => .text c.toString)
    | .halved s => items "string" (s.toList.map fun c => .ofChar c)
    | .dict entries => if (Value.entry? (.int 2) entries).isSome then .ok none else .error (.noKey "2")
    | v => .error (.mismatch (.notSubscriptable v.qualifiedTypeName))

/-- The record with a value put under a name. -/
def put (r : LogRecord) (name : String) (v : Value) : LogRecord :=
  match name with
  | "name" => { r with logger := v }
  | "levelname" => { r with level := v }
  | "msg" => { r with message := v }
  | "args" => { r with arguments := v }
  | "created" => { r with created := v }
  | "filename" => { r with file := v }
  | "lineno" => { r with line := v }
  | "funcName" => { r with function := v }
  | "thread" => { r with thread := v }
  | "threadName" => { r with threadName := v }
  | "exc_info" => { r with error := reported v }
  | name => { r with extra := Value.put name v r.extra }

def text (r : LogRecord) : Except Failure String := do
  Failure.ofShowing r.message
  if r.arguments.truthy then Template.fill r.message.shown r.arguments else return r.message.shown

/-- The seconds and microseconds of a time, to the nearest microsecond. -/
def clock (created : Value) : Except Failure (Int × Int) :=
  let outOfRange : Failure := .overflow "timestamp out of range for platform time_t"
  let checked (seconds micros : Int) : Except Failure (Int × Int) :=
    if -2 ^ 63 ≤ seconds && seconds < 2 ^ 63 then .ok (seconds, micros) else .error outOfRange
  match created, created.wholeNumber? with
  | .float x, _ =>
    match x.ratio? with
    | some (negative, n, d) =>
      let part := (Double.ofRatio false (n % d) d).mul (.ofRatio false 1000000 1)
      let micros := match part.ratio? with | some (_, a, b) => BinaryFormat.roundHalfEven a b | none => 0
      let all : Int := (n / d : Nat) * 1000000 + micros
      let all := if negative then -all else all
      checked (all.fdiv 1000000) (all.fmod 1000000)
    | none => .error (if x.isNaN then .malformedTemplate "Invalid value NaN (not a number)" else outOfRange)
  | _, some i => checked i 0
  | v, none =>
    .error (.mismatch (.arguments s!"'{v.qualifiedTypeName}' object cannot be interpreted as an integer"))

def time (r : LogRecord) : Except Failure Moment := do
  let (seconds, micros) ← clock r.created
  match Moment.ofInstant (seconds * 1000000 + micros) with
  | .ok t => return t
  | .error year =>
    if -2 ^ 31 ≤ year - 1900 && year - 1900 < 2 ^ 31 then throw (.yearOutOfRange year) else throw .timeTooLarge

def isPrivate (name : String) : Bool := name.startsWith "_"

/-- Whether a value says nothing: null and the empty text. -/
def saysNothing : Value → Bool
  | .null => true
  | .text s => s.isEmpty
  | _ => false

/-- The extra data that is shown: neither private nor empty, and under no name of the record's own. -/
def shownExtra (r : LogRecord) : List (String × Value) :=
  (r.extra.foldl (fun found e => Value.put e.1 e.2 found) []).filter fun e =>
    !(hiddenNames.contains e.1 || isPrivate e.1 || saysNothing e.2)

end LogRecord

end ForeignBridge
