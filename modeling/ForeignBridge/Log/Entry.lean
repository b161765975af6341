/-!
Log entries: a level, the logger that writes, and a message.
-/

namespace ForeignBridge

inductive Level
  | debug
  | info
  | warning
  | error
  | critical
deriving DecidableEq, Repr, Inhabited

namespace Level

def number : Level → Int
  | debug => 10
  | info => 20
  | warning => 30
  | error => 40
  | critical => 50

def name : Level → String
  | debug => "DEBUG"
  | info => "INFO"
  | warning => "WARNING"
  | error => "ERROR"
  | critical => "CRITICAL"

def byNumber : List (Int × String) :=
  (0, "NOTSET") :: [debug, info, warning, error, critical].map fun l => (l.number, l.name)

/-- The number of a level given by its name; two levels have a second name. -/
def numberOfName? (name : String) : Option Int :=
  match byNumber.find? (·.2 = name), name with
  | some l, _ => some l.1
  | none, "WARN" => some warning.number
  | none, "FATAL" => some critical.number
  | none, _ => none

/-- The text of a level given by its number; a number without a name of its own is shown. -/
def textOfNumber (n : Int) : String := (byNumber.lookup n).getD s!"Level {n}"

end Level

inductive Channel
  | buffers
  | calls
  | objects
  | callbacks
  | contract
  | runtime
deriving DecidableEq, Repr, Inhabited

def Channel.name : Channel → String
  | buffers => "fireflyffi.native.buffer"
  | calls => "fireflyffi.native.call"
  | objects => "fireflyffi.objects"
  | callbacks => "fireflyffi.callbacks"
  | contract => "fireflyffi.contract"
  | runtime => "fireflyffi.runtime"

structure LogEntry where
  level : Level
  channel : Channel
  message : String
deriving DecidableEq, Repr, Inhabited

end ForeignBridge
