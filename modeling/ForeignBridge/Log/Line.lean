import ForeignBridge.Document.JsonPrinter
import ForeignBridge.Log.Record

/-!
Log lines. A layout turns a record into a line: an object in JSON, or a text. In JSON every line carries a
mark, so that runtime and callback entries can be told apart in a mixed stream.
-/

namespace ForeignBridge

structure JsonLayout where
  mark : Value
  includeExtra : Bool
  includeThread : Bool
deriving Repr, Inhabited

namespace JsonLayout

def runtimeMark : String := "fireflyffi::runtime::log"

def callbackMark : String := "fireflyffi::callback::log"

/-- The layout of the runtime's lines, or of the callbacks'. -/
def standard (callbacks includeThread : Bool) : JsonLayout :=
  ⟨.text (if callbacks then callbackMark else runtimeMark), true, includeThread⟩

def memberIf (present : Bool) (name : String) (v : Value) : List (String × Value) :=
  if present then [(name, v)] else []

def ownMembers (f : JsonLayout) (r : LogRecord) (time message : String) : List (String × Value) :=
  [("timestamp", .text time), ("level", r.level), ("logger", r.logger), ("message", .text message),
    ("prefix", f.mark)]
  ++ memberIf (f.includeThread && r.thread.truthy) "thread"
    (if r.threadName.truthy then r.threadName else .text r.thread.shown)
  ++ memberIf r.file.truthy "module" r.file
  ++ memberIf (r.function.truthy && !r.function.same (.text "<module>")) "function" r.function
  ++ memberIf r.line.truthy "line" r.line

/-- The members of a record's line. Extra data takes the place of what has its name. -/
def members (f : JsonLayout) (r : LogRecord) : Except Failure (List (String × Value)) := do
  let time ← r.time
  let message ← r.text
  let own := f.ownMembers r (time.textWith "T") message
  let all := if f.includeExtra then r.shownExtra.foldl (fun ms e => Value.put e.1 e.2 ms) own else own
  return match ← r.error with
    | some e => Value.put "exception" (.text e.reportLine) all
    | none => all

end JsonLayout

/-- A line of a log, before it is written out. -/
inductive LogLine
  | json (members : List (String × Value))
  | text (time logger level message : String)
deriving Inhabited

def LogLine.shown : LogLine → String
  | json members => Json.print .line (.ofMembers members)
  | text time logger level message => s!"{time} - {logger} - {level} - {message}"

inductive LineLayout
  | json (layout : JsonLayout)
  | text
deriving Repr, Inhabited

namespace LineLayout

def clockText (t : Moment) : String :=
  { t with microsecond := 0 }.text ++ "," ++ padded 3 (t.microsecond.fdiv 1000)

/-- The line of a record. JSON has no text for some keys of dictionaries. -/
def line (f : LineLayout) (r : LogRecord) : Except Failure LogLine := do
  match f with
  | json f =>
    let members ← f.members r
    match Json.unprintable? (.ofMembers members) with
    | some (.key type) =>
      throw (.mismatch (.arguments s!"keys must be str, int, float, bool or None, not {type}"))
    | some (.lacking cls name) => throw (.noAttribute cls name)
    | none => return .json members
  | text =>
    let message ← r.text
    let time ← r.time
    let report := match ← r.error with | some e => "\n" ++ e.reportLine | none => ""
    return .text (clockText time) r.logger.shown r.level.shown (message ++ report)

end LineLayout

end ForeignBridge
