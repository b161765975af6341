import ForeignBridge.Failure

/-!
The classes of errors: what each takes to be made, what it derives from, what it remembers, and what it
says.
-/

namespace ForeignBridge

/-- A parameter of a class, with what it is if not given. -/
structure Parameter where
  name : String
  absent : Option Value

structure ErrorClass where
  name : String
  ancestors : List String
  /-- the named parameters, or `none` where any arguments do -/
  parameters : Option (List Parameter)
  sentence : List Value → String

structure MadeError where
  message : String
  classes : List String
  attributes : List (String × Value)

namespace ErrorClass

def required (name : String) : Parameter := ⟨name, none⟩

def truthyText (v : Value) : Option String := if v.truthy then some v.shown else none

/-- What an error says that was made from any arguments. -/
def plainSentence : List Value → String
  | [] => ""
  | [v] => v.shown
  | vs => (Value.tuple vs).quoted

def plain (name : String) (ancestors : List String) : ErrorClass :=
  ⟨name, ancestors, none, plainSentence⟩

def internal : List String := ["InternalError"]

def underContract : List String := ["ContractError", "InternalError"]

def argument (args : List Value) (i : Nat) : String := (args.getD i .null).shown

def every : List ErrorClass := [
  ⟨"FfiError", [], some [⟨"message", some (.text "")⟩], plainSentence⟩,
  plain "InternalError" [],
  ⟨"BufferUnderflowError", internal, some [required "needed", required "remaining"],
    fun a => Wording.underflow (argument a 0) (argument a 1)⟩,
  ⟨"TrailingBytesError", internal, some [required "leftover", ⟨"type_name", some .null⟩],
    fun a => Wording.trailing (argument a 0) (truthyText (a.getD 1 .null))⟩,
  ⟨"InvalidDiscriminantError", internal,
    some [required "type_name", required "discriminant", required "variant_count"],
    fun a => Wording.discriminant (argument a 0) (argument a 1) (argument a 2)⟩,
  plain "InvalidValueError" internal,
  ⟨"UnknownStatusCodeError", internal, some [required "code"],
    fun a => Wording.unknownStatus (argument a 0)⟩,
  ⟨"UnknownHandleError", internal, some [required "handle", ⟨"interface", some .null⟩],
    fun a => Wording.unknownHandle (argument a 0) (truthyText (a.getD 1 .null))⟩,
  plain "UseAfterDestroyError" internal,
  plain "BorrowSaturatedError" internal,
  plain "BufferReleasedError" internal,
  plain "ContractError" internal,
  ⟨"ContractVersionMismatch", underContract,
    some [required "namespace", required "expected", required "actual"],
    fun a => Wording.contractVersion (argument a 0) (argument a 1) (argument a 2)⟩,
  ⟨"ChecksumMismatchError", underContract,
    some [required "symbol", required "expected", required "actual"],
    fun a => Wording.checksum (argument a 0) (argument a 1) (argument a 2)⟩,
  ⟨"MissingSymbolError", underContract, some [required "symbol"],
    fun a => Wording.missingSymbol (argument a 0)⟩,
  plain "NativePanic" [],
  ⟨"FaultWhileHandlingFault", ["NativePanic"], some [], fun _ => Wording.faultWhileHandlingFault⟩]

def find? (name : String) : Option ErrorClass := every.find? (·.name == name)

/-- Names in a row: two joined by a word, more by commas and the word. -/
def enumerated : List String → String
  | [] => ""
  | [a] => a
  | [a, b] => a ++ " and " ++ b
  | names => ", ".intercalate names.dropLast ++ ", and " ++ names.getLastD ""

def tooManyText (c : ErrorClass) (parameters : List Parameter) (given : Nat) : String :=
  let most := parameters.length + 1
  let optional := (parameters.filter (·.absent.isSome)).length
  let takes :=
    if optional = 0 then s!"{most} positional argument" ++ (if most = 1 then "" else "s")
    else s!"from {most - optional} to {most} positional arguments"
  s!"{c.name}.__init__() takes {takes} but {given + 1} were given"

def tooFewText (c : ErrorClass) (missing : List Parameter) : String :=
  let plural := if missing.length = 1 then "" else "s"
  s!"{c.name}.__init__() missing {missing.length} required positional argument{plural}: "
    ++ enumerated (missing.map fun p => "'" ++ p.name ++ "'")

/-- Makes an error of a class from its arguments. -/
def make (c : ErrorClass) (args : List Value) : Except Failure MadeError :=
  match c.parameters with
  | none => .ok ⟨c.sentence args, c.name :: c.ancestors, []⟩
  | some parameters =>
    if parameters.length < args.length then
      .error (.mismatch (.arguments (c.tooManyText parameters args.length)))
    else
      let rest := parameters.drop args.length
      let missing := rest.filter (·.absent.isNone)
      if !missing.isEmpty then .error (.mismatch (.arguments (c.tooFewText missing)))
      else
        let all := args ++ rest.map fun p => p.absent.getD .null
        .ok ⟨c.sentence all, c.name :: c.ancestors, (parameters.map (·.name)).zip all⟩

/-- The classes of errors that belong to no package. -/
def standardNames : List String := [
  "BaseException", "Exception", "ArithmeticError", "AssertionError", "AttributeError", "BlockingIOError",
  "BrokenPipeError", "BufferError", "BytesWarning", "ChildProcessError", "ConnectionAbortedError",
  "ConnectionError", "ConnectionRefusedError", "ConnectionResetError", "DeprecationWarning", "EOFError",
  "EncodingWarning", "FileExistsError", "FileNotFoundError", "FloatingPointError", "FutureWarning",
  "GeneratorExit", "ImportError", "ImportWarning", "IndentationError", "IndexError", "InterruptedError",
  "IsADirectoryError", "KeyError", "KeyboardInterrupt", "LookupError", "MemoryError",
  "ModuleNotFoundError", "NameError", "NotADirectoryError", "NotImplementedError", "OSError",
  "OverflowError", "PendingDeprecationWarning", "PermissionError", "ProcessLookupError",
  "RecursionError", "ReferenceError", "ResourceWarning", "RuntimeError", "RuntimeWarning",
  "StopAsyncIteration", "StopIteration", "SyntaxError", "SyntaxWarning", "SystemError", "SystemExit",
  "TabError", "TimeoutError", "TypeError", "UnboundLocalError", "UnicodeError", "UnicodeWarning",
  "UserWarning", "ValueError", "Warning", "ZeroDivisionError"]

/-- The name of a class with its package: its own for the boundary's errors, and `values` for those that a
scenario makes up. -/
def qualifiedName (name : String) : String :=
  if standardNames.contains name then name
  else if (find? name).isSome then "fireflyffi.errors." ++ name
  else "values." ++ name

end ErrorClass

/-- The families of the named classes; any other class is an ordinary one. -/
def familyOfClass (name : String) : Family :=
  match ErrorClass.find? name with
  | some c =>
    if c.name = "InternalError" ∨ c.ancestors.contains "InternalError" then .contract
    else if c.name = "NativePanic" ∨ c.ancestors.contains "NativePanic" then .nativeFault
    else .ordinary
  | none =>
    if ["BaseException", "KeyboardInterrupt", "SystemExit", "GeneratorExit"].contains name then
      .unwinding
    else .ordinary

/-- The exception of a class that is made with one text. -/
def Value.exceptionOf (name text : String) : Value :=
  let cls := if ["IOError", "EnvironmentError"].contains name then "OSError" else name
  if cls = "FfiError" then .declared cls (.text text)
  else
    let message :=
      match (ErrorClass.find? cls).map (·.make [.text text]) with
      | some (.ok made) => made.message
      | _ => text
    .exception cls (familyOfClass cls) message

/-- Why an exception of a class is not made with one text. -/
def Value.exceptionFault? (cls text : String) : Option Failure :=
  let wants (maker : String) (count : Nat) : Option Failure :=
    some (.mismatch (.arguments s!"{maker} takes exactly {count} arguments (1 given)"))
  if ["UnicodeDecodeError", "UnicodeEncodeError"].contains cls then wants "function" 5
  else if cls = "UnicodeTranslateError" then wants "function" 4
  else if ["BaseExceptionGroup", "ExceptionGroup"].contains cls then wants "BaseExceptionGroup.__new__()" 2
  else
    (ErrorClass.find? cls).bind fun c =>
      match c.make [.text text] with
      | .error f => some f
      | .ok _ => none

/-- The class of a value as it is shown. -/
def Value.classText (v : Value) : String :=
  match v with
  | .member enum .. => s!"<enum {Quoted.text enum}>"
  | .declared .. | .exception .. | .record .. | .thing .. | .wrapper .. | .received .. | .implementation .. =>
    s!"<class {Quoted.text (ErrorClass.qualifiedName v.typeName)}>"
  | v => s!"<class {Quoted.text v.qualifiedTypeName}>"

/-- An error as the last line of a report shows it. -/
def Value.reportLine (v : Value) : String :=
  let name := match v with | .null => v.typeName | v => ErrorClass.qualifiedName v.typeName
  let shown := if v.lacking?.isSome then "<exception str() failed>" else v.shown
  let detail :=
    if shown.isEmpty && ["SyntaxError", "IndentationError", "TabError"].contains name then "<no detail available>"
    else shown
  if detail.isEmpty then name else name ++ ": " ++ detail

end ForeignBridge
