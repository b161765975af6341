import ForeignBridge.Value.Text
import ForeignBridge.Text.Utf8
import ForeignBridge.Document.Fault

/-!
Failures, by cause. Three families are kept apart: declared errors, which a native operation reports
as part of its interface; contract violations, which show that the two sides do not agree; and native
faults. The rest are errors of the managed code. `Failure.className` and `Failure.message?` give the
words.
-/

namespace ForeignBridge

inductive InvalidValue
  | negativeLength (length : Int) (typeName : String)
  | badBoolean (byte : Int)
  | notBoolean (value : String)
  | badUtf8 (fault : Utf8.Fault)
  | badPresence (flag : Nat) (typeName : String)
  | nanoseconds (nanos : Nat) (typeName : String)
  | timestampRange (seconds : Int)
  | durationRange (seconds : Nat)
  | zeroWidthCount (typeName : String) (count limit : Nat)
deriving DecidableEq, Repr

/-- Why a value has the wrong type for what is done with it. -/
inductive Mismatch
  | expected (typeName what actual : String)
  | notVariant (actual typeName : String)
  | notKind (actual typeName : String)
  | missingMethods (actual typeName : String) (missing : List String)
  | unhashable (actual : String)
  | noLength (actual : String)
  | cannotAppend (actual : String)
  | cannotSubtract (left right : String)
  | naiveSubtraction
  | notCallable (actual : String)
  | notRecordClass (name : String)
  | notBuffer (actual : String)
  | notIterable (actual : String)
  | notSubscriptable (actual : String)
  | noItems (actual : String)
  | listKey
  | textKey
  | cannotAdd (left right : String)
  /-- a value that is raised and is no exception -/
  | notException
  | notLevel (value : String)
  /-- a message logged at a level that is no number -/
  | levelNumber
  | arguments (text : String)
deriving DecidableEq, Repr

/-- Why a value of the right type is not one that can be sent. -/
inductive Unsendable
  | outOfRange (value typeName : String)
  | outOfBounds (value : Int) (typeName : String) (least greatest : Int)
  | tooLong (typeName : String) (length : Nat)
  | naiveTimestamp
  | negativeDuration
  | fieldMismatch (record : String) (missing unexpected : List String)
deriving DecidableEq, Repr

/-- Why a text or a number in a document stands for no value. -/
inductive Unreadable
  | whole (base : Nat) (text : String)
  | tooManyDigits (count : Nat)
  | float (text : String)
  | character
  | hexDigit (position : Nat)
  | logLevel (text : String)
  | calendar (why : CalendarFault)
deriving DecidableEq, Repr

/-- Why the native library does not match the bindings. -/
inductive ContractFailure
  | version (space : String) (expected actual : Int)
  | checksum (symbol : String) (expected actual : Int)
  | missingSymbol (symbol : String)
deriving DecidableEq, Repr

inductive Failure
  | underflow (needed remaining : Int)
  | trailing (leftover : Int) (typeName : Option String)
  | discriminant (typeName : String) (found : Int) (count : Nat)
  | invalidValue (why : InvalidValue)
  | unknownStatus (code : Int)
  | unknownHandle (handle : Int) (registry : String)
  | handlesExhausted (registry : String)
  | useAfterDestroy (typeName : String) (pointer : Int)
  | borrowSaturated (typeName : String) (pointer borrows : Int)
  | bufferReleased (buffer : String)
  | undeclaredError
  | contract (why : ContractFailure)
  | panic (message : String)
  | faultWhileHandlingFault
  | mismatch (why : Mismatch)
  | unsendable (why : Unsendable)
  | unreadable (why : Unreadable)
  /-- a text with halves of surrogate pairs where characters are wanted, with the codes and where they start -/
  | halves (position : Nat) (codes : List Nat)
  /-- a number that its layout cannot hold, or that is no number -/
  | packing (why : String)
  | intTooLarge
  | floatTooLarge
  | noAttribute (owner name : String)
  | unboundName (name : String)
  | noKey (text : String)
  | readerReleased
  | noBuffersLeft
  | unknownBuffer
  /-- a document that does not fit a model, with all that is wrong with it -/
  | invalidDocument (model : String) (found : List EntryFault)
  /-- a document that is no dictionary with texts as keys -/
  | notSettings
  /-- a text that cannot be read as a document, with what it was to be -/
  | unreadableDocument (what : String)
  /-- a value inside too many others, with what the innermost one is where that is told -/
  | nestedTooDeep (what : Option String)
  | noFile (what path : String)
  /-- a library that cannot be loaded -/
  | noLibrary (path : String)
  /-- a place behind the end of a row, with what the row is -/
  | pastEnd (what : String)
  /-- a template that cannot be filled in -/
  | malformedTemplate (text : String)
  /-- a number too large for what it is wanted for -/
  | overflow (text : String)
  | noMemory
  /-- a place in a file system that is no file -/
  | notFile (path : String)
  /-- a file where a directory is to be made -/
  | fileExists (path : String)
  /-- a directory that is to be made under a file -/
  | notDirectory (path : String)
  | nameTooLong (path : String)
  | nullInPath
  /-- an instant that no calendar year of four digits holds -/
  | yearOutOfRange (year : Int)
  /-- an instant in a year that cannot be counted -/
  | timeTooLarge
  | notRunning
  | noNamespace
  | noManifest
  | raised (value : Value)
deriving Repr

def InvalidValue.text : InvalidValue → String
  | negativeLength n t => s!"negative length {n} while reading {t}"
  | badBoolean b => s!"unexpected byte {b} for Boolean"
  | notBoolean v => s!"unexpected value {v} for Boolean"
  | badUtf8 f => s!"invalid UTF-8 in String: {f.text}"
  | badPresence f t => s!"unexpected presence flag {f} for {t}"
  | nanoseconds n t => s!"nanosecond field {n} out of range for {t}"
  | timestampRange s => s!"Timestamp {s}s is outside the datetime range"
  | durationRange s => s!"Duration {s}s is outside the timedelta range"
  | zeroWidthCount t c l => s!"{t} declares {c} zero-width elements (limit {l})"

def quotedNames (names : List String) : String :=
  "[" ++ ", ".intercalate (names.map Quoted.text) ++ "]"

def Mismatch.text : Mismatch → String
  | expected t what got => s!"{t} expects {what}, got {got}"
  | notVariant got t => s!"{got} is not a variant of {t}"
  | notKind got t => s!"{got} is not a kind of {t}"
  | missingMethods got t names => s!"{got} does not implement {t}: missing {quotedNames names}"
  | unhashable got => s!"unhashable type: '{got}'"
  | noLength got => s!"object of type '{got}' has no len()"
  | cannotAppend got => s!"can't concat {got} to bytearray"
  | cannotSubtract a b => s!"unsupported operand type(s) for -: '{a}' and '{b}'"
  | naiveSubtraction => "can't subtract offset-naive and offset-aware datetimes"
  | notCallable got => s!"'{got}' object is not callable"
  | notRecordClass name => s!"{name} is not a dataclass"
  | notBuffer got => s!"expected RustBuffer instance, got {got}"
  | notIterable got => s!"argument of type '{got}' is not iterable"
  | notSubscriptable got => s!"'{got}' object is not subscriptable"
  | noItems got => s!"'{got}' object does not support item assignment"
  | listKey => "list indices must be integers or slices, not str"
  | textKey => "string indices must be integers, not 'str'"
  | notException => "exceptions must derive from BaseException"
  | notLevel value => s!"Level not an integer or a valid string: {value}"
  | levelNumber => "level must be an integer"
  | cannotAdd a b => s!"unsupported operand type(s) for +=: '{a}' and '{b}'"
  | arguments text => text

def Unsendable.text : Unsendable → String
  | outOfRange v t => s!"{v} is out of range for {t}"
  | outOfBounds v t least greatest => s!"{v} is out of range for {t} [{least}, {greatest}]"
  | tooLong t n => s!"{t} of length {n} exceeds the 32-bit length prefix"
  | naiveTimestamp => "Timestamp requires a timezone-aware datetime"
  | negativeDuration => "Duration cannot be negative"
  | fieldMismatch r missing unexpected =>
    s!"converters for {r} do not match its fields "
      ++ s!"(missing: {quotedNames missing}, unexpected: {quotedNames unexpected})"

def Unreadable.text : Unreadable → String
  | whole base text => s!"invalid literal for int() with base {base}: {Quoted.text text}"
  | tooManyDigits count =>
    s!"Exceeds the limit (4300 digits) for integer string conversion: value has {count} digits; "
      ++ "use sys.set_int_max_str_digits() to increase the limit"
  | float text => s!"could not convert string to float: {Quoted.text text}"
  | character => "chr() arg not in range(0x110000)"
  | hexDigit position => s!"non-hexadecimal number found in fromhex() arg at position {position}"
  | logLevel text => s!"Unknown level: {Quoted.text text}"
  | calendar why => why.text

def ContractFailure.className : ContractFailure → String
  | version .. => "ContractVersionMismatch"
  | checksum .. => "ChecksumMismatchError"
  | missingSymbol .. => "MissingSymbolError"

/-- A pointer in hexadecimal, the sign after the mark. -/
def pointerText (p : Int) : String :=
  "0x" ++ (if p < 0 then "-" else "") ++ String.ofList (Nat.toDigits 16 p.natAbs)


namespace Wording

/- The sentences that errors say, over the texts of their parts. -/

def underflow (needed remaining : String) : String :=
  s!"buffer underflow: needed {needed} byte(s) but only {remaining} remain"

def trailing (leftover : String) (typeName : Option String) : String :=
  s!"{leftover} unread byte(s) left in buffer"
    ++ (match typeName with | none => "" | some t => " while lifting " ++ t)

def discriminant (typeName found count : String) : String :=
  s!"invalid discriminant {found} for {typeName} (expected 1..{count})"

def unknownStatus (code : String) : String := s!"unknown call status code: {code}"

def unknownHandle (handle : String) (registry : Option String) : String :=
  s!"unknown callback handle {handle}"
    ++ (match registry with | none => "" | some r => " in " ++ r ++ " registry")

def contractVersion (space expected actual : String) : String :=
  s!"contract version mismatch for '{space}': bindings expect {expected}, native library reports {actual}"

def checksum (symbol expected actual : String) : String :=
  s!"checksum mismatch for {symbol}: expected {expected}, native library reports {actual}"

def missingSymbol (symbol : String) : String := s!"native library does not export {symbol}"

def faultWhileHandlingFault : String := "native fault while handling a fault (no message available)"

end Wording

/-- A name that says something: the empty one counts as none. -/
def named (s : String) : Option String := if s.isEmpty then none else some s

def ContractFailure.text : ContractFailure → String
  | version space expected actual =>
    Wording.contractVersion space (toString expected) (toString actual)
  | checksum symbol expected actual => Wording.checksum symbol (toString expected) (toString actual)
  | missingSymbol symbol => Wording.missingSymbol symbol

namespace Failure

def className : Failure → String
  | underflow .. => "BufferUnderflowError"
  | trailing .. => "TrailingBytesError"
  | discriminant .. => "InvalidDiscriminantError"
  | invalidValue .. => "InvalidValueError"
  | unknownStatus .. => "UnknownStatusCodeError"
  | unknownHandle .. => "UnknownHandleError"
  | handlesExhausted .. => "InternalError"
  | useAfterDestroy .. => "UseAfterDestroyError"
  | borrowSaturated .. => "BorrowSaturatedError"
  | bufferReleased .. => "BufferReleasedError"
  | undeclaredError => "InternalError"
  | contract why => why.className
  | panic .. => "NativePanic"
  | faultWhileHandlingFault => "FaultWhileHandlingFault"
  | mismatch .. => "TypeError"
  | unsendable .. => "ValueError"
  | unreadable .. => "ValueError"
  | halves .. => "UnicodeEncodeError"
  | packing .. => "error"
  | intTooLarge => "OverflowError"
  | floatTooLarge => "OverflowError"
  | noAttribute .. => "AttributeError"
  | unboundName _ => "UnboundLocalError"
  | noKey .. => "KeyError"
  | readerReleased => "ValueError"
  | noBuffersLeft => "MemoryError"
  | unknownBuffer => "MemoryError"
  | invalidDocument .. => "ValidationError"
  | notSettings => "TypeError"
  | unreadableDocument .. => "ValueError"
  | nestedTooDeep .. => "RecursionError"
  | noFile .. => "FileNotFoundError"
  | noLibrary .. => "OSError"
  | pastEnd _ => "IndexError"
  | malformedTemplate .. => "ValueError"
  | overflow .. => "OverflowError"
  | noMemory => "MemoryError"
  | notFile .. => "IsADirectoryError"
  | fileExists .. => "FileExistsError"
  | notDirectory .. => "NotADirectoryError"
  | nameTooLong .. => "OSError"
  | nullInPath => "ValueError"
  | yearOutOfRange .. => "ValueError"
  | timeTooLarge => "OSError"
  | notRunning => "RuntimeError"
  | noNamespace => "ValueError"
  | noManifest => "ValueError"
  | raised v => v.typeName

def message : Failure → String
  | underflow needed remaining => Wording.underflow (toString needed) (toString remaining)
  | trailing leftover typeName => Wording.trailing (toString leftover) (typeName.bind named)
  | discriminant t found count => Wording.discriminant t (toString found) (toString count)
  | invalidValue why => why.text
  | unknownStatus code => Wording.unknownStatus (toString code)
  | unknownHandle handle registry => Wording.unknownHandle (toString handle) (named registry)
  | handlesExhausted registry => s!"{registry} handle space exhausted"
  | useAfterDestroy t p => s!"{t} object {pointerText p} has already been released"
  | borrowSaturated t p n => s!"{t} object {pointerText p} has {n} active borrows"
  | bufferReleased buffer => s!"read from released buffer {buffer}"
  | undeclaredError => "non-fallible native call reported a declared error"
  | contract why => why.text
  | panic message => message
  | faultWhileHandlingFault => Wording.faultWhileHandlingFault
  | mismatch why => why.text
  | unsendable why => why.text
  | unreadable why => why.text
  | halves position codes => "'utf-8' codec can't encode " ++ (match codes with
      | [code] => s!"character '{Quoted.codeEscape code}' in position {position}"
      | codes => s!"characters in position {position}-{position + codes.length - 1}")
      ++ ": surrogates not allowed"
  | packing why => why
  | intTooLarge => "int too large to convert to float"
  | floatTooLarge => "float too large to pack with f format"
  | noAttribute owner name => s!"'{owner}' object has no attribute '{name}'"
  | unboundName name => s!"cannot access local variable '{name}' where it is not associated with a value"
  | noKey text => text
  | readerReleased => "operation forbidden on released memoryview object"
  | noBuffersLeft => "no buffers left"
  | unknownBuffer => "free of unknown buffer"
  | invalidDocument model found =>
    let count := found.length
    let noun := if count = 1 then "error" else "errors"
    s!"{count} validation {noun} for {model}"
  | notSettings => "argument after ** must be a mapping"
  | unreadableDocument what => s!"Failed to parse {what}"
  | nestedTooDeep what => "maximum recursion depth exceeded"
      ++ (match what with | none => "" | some w => s!" while decoding a JSON {w} from a unicode string")
  | noFile what path => s!"{what} not found: {path}"
  | noLibrary path => s!"{path}: cannot open shared object file"
  | pastEnd what => s!"{what} index out of range"
  | malformedTemplate text => text
  | overflow text => text
  | noMemory => ""
  | notFile path => s!"[Errno 21] Is a directory: {Quoted.text path}"
  | fileExists path => s!"[Errno 17] File exists: {Quoted.text path}"
  | notDirectory path => s!"[Errno 20] Not a directory: {Quoted.text path}"
  | nameTooLong path => s!"[Errno 36] File name too long: {Quoted.text path}"
  | nullInPath => "embedded null byte"
  | yearOutOfRange year => s!"year {year} is out of range"
  | timeTooLarge => "[Errno 75] Value too large for defined data type"
  | notRunning => "FFI runtime is not running. Call start() first."
  | noNamespace => "A namespace is required to bind the native buffer allocator"
  | noManifest => "Contract verification requires a manifest"
  | raised v => v.shown

def ofEncoding (s : String) : Except Failure Bytes :=
  match Surrogate.firstRun? s.toList with
  | some (position, codes) => .error (.halves position codes)
  | none => .ok (Utf8.encode s)

/-- Why a value cannot be shown: a field of a record in it has no value. -/
def ofShowing (v : Value) : Except Failure Unit :=
  match v.lacking? with
  | some (cls, name) => .error (.noAttribute cls name)
  | none => .ok ()

/-- Why a failure has no text: what was raised cannot be shown. -/
def ofTelling : Failure → Except Failure Unit
  | raised v => ofShowing v
  | _ => .ok ()

def raising (v : Value) : Failure :=
  match v with
  | .declared .. | .exception .. => .raised v
  | _ => .mismatch .notException

def family : Failure → Family
  | underflow .. | trailing .. | discriminant .. | invalidValue .. | unknownStatus ..
  | unknownHandle .. | handlesExhausted .. | useAfterDestroy .. | borrowSaturated ..
  | bufferReleased .. | undeclaredError | contract .. => .contract
  | panic .. | faultWhileHandlingFault => .nativeFault
  | raised (.exception _ family _) => family
  | _ => .ordinary

/-- The declared error that a failure is, if it is one. -/
def declared? : Failure → Option Value
  | raised (.declared kind message) => some (.declared kind message)
  | _ => none

end Failure

end ForeignBridge
