import ForeignBridge.Document.Access
import ForeignBridge.Text.Hex
import ForeignBridge.Value.Equal
import ForeignBridge.ErrorClass
import ForeignBridge.Number.Literal
import ForeignBridge.Wire.Shape

/-!
Values written as documents, as a scenario holds them. What a document has no form for is a dictionary
whose first key tells what is written: a float by its bits, bytes by their digits, a record by its class
and its fields. `Vocabulary` holds what the names in a scenario stand for.
-/

namespace ForeignBridge

structure Vocabulary where
  enums : List (String × List (String × Value))
  /-- the fields that the classes of records declare, in order -/
  records : List (String × List String)
  /-- the classes of records with the class right above each -/
  bases : List (String × String)
  refs : String → Option Value

namespace Vocabulary

def empty : Vocabulary := ⟨[], [], [], fun _ => none⟩

def ancestry (n : Vocabulary) (cls : String) : Nat → List String
  | 0 => []
  | fuel + 1 =>
    match Value.lookup cls n.bases with
    | some b => b :: n.ancestry b fuel
    | none => []

end Vocabulary

namespace ValueForm

def integer : Value → Int
  | .int i => i
  | .bool b => if b then 1 else 0
  | v => (Literal.whole 10 (v.textField "int").toList).toOption.getD 0

def integerField (v : Value) (name : String) (absent : Int) : Int :=
  match v.given? name with
  | some a => integer a
  | none => absent

/-- A value under a name that is meant to be a number, as it stands there; `absent` if there is none. -/
def numberOr (v : Value) (name : String) (absent : Int) : Value :=
  match v.field? name with
  | some (.dict e) => .int (integer (.dict e))
  | found => found.getD (.int absent)

def bytes (v : Value) : Bytes := (Hex.decode v.asText).toOption.getD []

def float (digits : String) : Double :=
  if digits = "nan" then Double.quietNaN else .ofNatBits (ofBigEndian (bytes (.text digits)))

def moment (parts : List Value) : Value :=
  match parts with
  | [y, mo, d, h, mi, s, us, offset] =>
    .moment ⟨integer y, integer mo, integer d, integer h, integer mi, integer s, integer us,
      match offset with | .null => none | o => some (integer o)⟩
  | _ => .null

def span (parts : List Value) : Value :=
  match parts with
  | [d, s, us] => .span (.ofParts (integer d) (integer s) (integer us))
  | _ => .null

/-- A dictionary made by putting the pairs in one after another. -/
def dictionary (pairs : List (Value × Value)) : Value := .ofEntries pairs

/-- The fields that a class declares, with the values given; of a field given twice the later one counts. -/
def fieldsOf (declared : List String) (given : List (String × Value)) : List (String × Option Value) :=
  declared.map fun name => (name, Value.lookup name given.reverse)

/-- The fields that the values given name, each once. -/
def fieldNames (v : Value) : List String := ((v.field "fields").asPairs.map Prod.fst).eraseDups

/-- The value that a document writes. The fuel bounds its depth; things are numbered in the order in which they
are read, as each is one of its own. -/
def readWithin (n : Vocabulary) : Nat → Value → StateM Nat Value
  | 0, _ => return .null
  | fuel + 1, v => do
    let read := readWithin n fuel
    match v with
    | .list items => return .list (← items.mapM read)
    | .dict _ =>
      if ((v.field? "int").bind Value.asText?).isSome then return .int (integer v)
      else if let some s := (v.field? "float").bind Value.asText? then return .float (float s)
      else if let some xs := v.field? "tuple" then return .tuple (← xs.asItems.mapM read)
      else if let some xs := v.field? "dict" then
        return dictionary (← xs.asItems.mapM fun e => do
          match e with
          | .list [k, a] => return (← read k, ← read a)
          | _ => return (.null, .null))
      else if let some h := v.field? "bytes" then return .bytes .frozen (bytes h)
      else if let some h := v.field? "bytearray" then return .bytes .growable (bytes h)
      else if let some h := v.field? "memoryview" then return .bytes .view (bytes h)
      else if let some xs := v.field? "datetime" then return moment xs.asItems
      else if let some xs := v.field? "timedelta" then return span xs.asItems
      else if let some cls := (v.field? "record").bind Value.asText? then
        let given ← (v.field "fields").asPairs.mapM fun f => do return (f.1, ← read f.2)
        let declared := (Value.lookup cls n.records).getD (fieldNames v)
        return .record cls (n.ancestry cls n.bases.length) (fieldsOf declared given)
      else if let some e := (v.field? "enum").bind Value.asText? then
        let m := v.textField "member"
        match (Value.lookup e n.enums).bind fun ms => EnumType.resolve? ms m with
        | some (name, value) => return .member e name value
        | none => return .member e m (.text m)
      else if let some k := (v.field? "ffi_error").bind Value.asText? then return .declared k (← read (v.field "message"))
      else if let some c := (v.field? "exception").bind Value.asText? then
        return .exceptionOf c (v.textField "message")
      else if let some c := (v.field? "object").bind Value.asText? then
        let serial ← get
        set (serial + 1)
        return .thing c serial
      else if let some r := (v.field? "ref").bind Value.asText? then return (n.refs r).getD .null
      else return .null
    | v => return v

def read (n : Vocabulary) (v : Value) : Value := (readWithin n v.depth v 0).1

mutual

/-- The first of the dictionaries in a document that a test finds something in; those inside come first. -/
def findIn? {α : Type} (test : Value → Option α) : Value → Option α
  | .list items => findInItems? test items
  | .dict entries => (findInEntries? test entries).orElse fun _ => test (.dict entries)
  | _ => none

def findInItems? {α : Type} (test : Value → Option α) : List Value → Option α
  | [] => none
  | v :: rest => (findIn? test v).orElse fun _ => findInItems? test rest

def findInEntries? {α : Type} (test : Value → Option α) : List (Value × Value) → Option α
  | [] => none
  | e :: rest => (findIn? test e.2).orElse fun _ => findInEntries? test rest

end

/-! Why a document writes no value -/

def hexFault? (digits : String) : Option Failure :=
  match Hex.decode digits with
  | .ok _ => none
  | .error position => some (.unreadable (.hexDigit position))

def floatFault? (digits : String) : Option Failure :=
  if digits = "nan" then none
  else (hexFault? digits).orElse fun _ =>
    if (bytes (.text digits)).length = 8 then none else some (.packing "unpack requires a buffer of 8 bytes")

def integerFault? (digits : String) : Option Failure :=
  match Literal.whole 10 digits.toList with
  | .ok _ => none
  | .error .malformed => some (.unreadable (.whole 10 digits))
  | .error (.tooLong count) => some (.unreadable (.tooManyDigits count))

/-- The fault of a moment: of its offset first, which must be less than a day. -/
def momentFault? (v : Value) : Option Failure :=
  match v with
  | .moment t =>
    let day := Calendar.secondsPerDay
    match t.offset.filter fun o => o ≤ -day || day ≤ o, Moment.checked t with
    | some o, _ => some (.unreadable (.calendar (.offset (.ofParts 0 o 0))))
    | none, .error why => some (.unreadable (.calendar why))
    | none, .ok _ => none
  | _ => none

def spanFault? (v : Value) : Option Failure :=
  match v with
  | .span s =>
    if s.InRange then none
    else if -2 ^ 31 ≤ s.days && s.days < 2 ^ 31 then
      some (.overflow s!"days={s.days}; must have magnitude <= {Span.maxDays}")
    else some (.overflow "Python int too large to convert to C int")
  | _ => none

/-- The fault of a dictionary with a key that cannot be one. -/
def dictionaryFault? (n : Vocabulary) (pairs : Value) : Option Failure :=
  pairs.asItems.findSome? fun e =>
    match e with
    | .list (k :: _) => (read n k).unhashable?.map fun name => .mismatch (.unhashable name)
    | _ => none

/-- The fault of a member that its enum does not have. -/
def memberFault? (n : Vocabulary) (enum name : String) : Option Failure :=
  match (Value.lookup enum n.enums).bind fun ms => EnumType.resolve? ms name with
  | some _ => none
  | none => some (.noKey name)

/-- Why a document writes no value: it has no meaning, or what it means is not there or cannot be made. -/
def fault? (n : Vocabulary) : Value → Option Failure :=
  findIn? fun v => do
    let .dict entries := v | none
    entries.findSome? fun e =>
      match e.1, e.2.unhalved with
      | .text "int", .text digits => integerFault? digits
      | .text "float", .text digits => floatFault? digits
      | .text "bytes", .text digits | .text "bytearray", .text digits | .text "memoryview", .text digits
      | .text "hex", .text digits => hexFault? digits
      | .text "datetime", .list parts => momentFault? (moment parts)
      | .text "timedelta", .list parts => spanFault? (span parts)
      | .text "dict", pairs => dictionaryFault? n pairs
      | .text "enum", .text enum => memberFault? n enum (v.textField "member")
      | .text "exception", .text cls => Value.exceptionFault? cls (v.textField "message")
      | _, _ => none

def check (n : Vocabulary) (v : Value) : Except Failure Unit := (fault? n v).elim (.ok ()) .error

def unknownName? (n : Vocabulary) : Value → Option String :=
  findIn? fun v => do
    let name ← (← v.field? "ref").asText?
    if (n.refs name).isSome then none else some name

/-- The value under a name, if one is written there. -/
def given? (n : Vocabulary) (v : Value) (name : String) : Option Value :=
  (v.given? name).map (read n)

/-- The members that the declaration of an enum lists; a bare name is its own value. -/
def members (n : Vocabulary) (v : Value) : List (String × Value) :=
  v.asItems.map fun m =>
    match m with
    | .list [k, a] => (k.asText, read n a)
    | m => (m.asText, .text m.asText)

/-- Adds an enum, unless one of that name is known. -/
def declareEnum (n : Vocabulary) (name : String) (ms : List (String × Value)) : Vocabulary :=
  if (Value.lookup name n.enums).isSome then n else { n with enums := n.enums ++ [(name, ms)] }

/-- Adds a class of records, unless one of that name is known. -/
def declareRecord (n : Vocabulary) (name : String) (fields : List String) : Vocabulary :=
  if (Value.lookup name n.records).isSome then n else { n with records := n.records ++ [(name, fields)] }

/-- Adds a class of records as it is declared with its fields. -/
def declareClass (n : Vocabulary) (v : Value) : Vocabulary :=
  if (v.field? "fields").isSome then declareRecord n (v.textField "name") (fieldNames v) else n

/-- Adds what one dictionary declares. A value of an enum or of a record that is not declared yet declares it:
the enum has that member alone, and the record its fields after those of the class above it. -/
def declare (n : Vocabulary) (v : Value) : Vocabulary :=
  let n :=
    match v.field? "enum" with
    | some (.dict e) =>
      declareEnum n ((Value.dict e).textField "name") (members n ((Value.dict e).field "members"))
    | some (.text e) =>
      let m := v.textField "member"
      declareEnum n e [(m, (v.field? "value").map (read n) |>.getD (.text m))]
    | _ => n
  match v.field? "record", v.field? "union" with
  | some (.text c), _ =>
    let base := (v.field? "base").bind Value.asText?
    let above := ((base.bind fun b => Value.lookup b n.records).getD [])
    if (Value.lookup c n.records).isSome then n
    else
      let n := match base with | some b => { n with bases := Value.put c b n.bases } | none => n
      declareRecord n c (above ++ (fieldNames v).filter fun f => !above.contains f)
  | some r, _ => declareClass n r
  | none, some u => (u.itemsField "variants").foldl declareClass n
  | none, none => n

mutual

/-- Adds all that a document declares of enums and of record classes. -/
def collect (n : Vocabulary) : Value → Vocabulary
  | .list items => collectAll n items
  | .dict entries => collectEntries (declare n (.dict entries)) entries
  | _ => n

def collectAll (n : Vocabulary) : List Value → Vocabulary
  | [] => n
  | v :: rest => collectAll (collect n v) rest

def collectEntries (n : Vocabulary) : List (Value × Value) → Vocabulary
  | [] => n
  | e :: rest => collectEntries (collect n e.2) rest

end

/-- The vocabulary of a scenario; what its type and its interface declare counts first. -/
def vocabulary (scenario : Value) : Vocabulary :=
  collect (collect (collect .empty (scenario.field "type")) (scenario.field "interface")) scenario

/-- A whole number, as a text where doubles do not hold it exactly. -/
def ofInteger (i : Int) : Value :=
  if i.natAbs < 2 ^ 53 then .int i else .ofMembers [("int", .text (toString i))]

def ofBytes (data : Bytes) : Value := .ofMembers [("bytes", .text (Hex.encode data))]

mutual

/-- The document that writes a value; `refer` writes those that only a session knows. -/
def write (refer : Value → Value) (v : Value) : Value :=
  match v with
  | .null | .bool _ | .text _ | .halved _ => v
  | .int i => ofInteger i
  | .float x =>
    .ofMembers [("float", .text (if x.isNaN then "nan" else hexPadded 16 x.bits.toNat))]
  | .bytes _ data => ofBytes data
  | .list items => .list (writeAll refer items)
  | .tuple items => .ofMembers [("tuple", .list (writeAll refer items))]
  | .dict entries => .ofMembers [("dict", .list (writeEntries refer entries))]
  | .moment t => .ofMembers [("datetime", .list [.int t.year, .int t.month, .int t.day, .int t.hour,
      .int t.minute, .int t.second, .int t.microsecond,
      match t.offset with | none => .null | some o => .int o])]
  | .span s => .ofMembers [("timedelta", .list [.int s.days, .int s.seconds, .int s.microseconds])]
  | .record cls _ fields =>
    .ofMembers [("record", .text cls), ("fields", .list (writeFields refer fields))]
  | .member e m _ => .ofMembers [("enum", .text e), ("member", .text m)]
  | .declared k m => .ofMembers [("ffi_error", .text k), ("message", write refer m)]
  | .exception c _ m => .ofMembers [("exception", .text c), ("message", .text m)]
  | .thing c _ => .ofMembers [("object", .text c)]
  | v => refer v

def writeAll (refer : Value → Value) : List Value → List Value
  | [] => []
  | v :: rest => write refer v :: writeAll refer rest

def writeEntries (refer : Value → Value) : List (Value × Value) → List Value
  | [] => []
  | e :: rest => .list [write refer e.1, write refer e.2] :: writeEntries refer rest

def writeFields (refer : Value → Value) : List (String × Option Value) → List Value
  | [] => []
  | (name, some v) :: rest => .list [.text name, write refer v] :: writeFields refer rest
  | (_, none) :: rest => writeFields refer rest

end

/-- The document that writes a value which no session has to know. -/
def plain (v : Value) : Value := write (fun _ => .null) v

end ValueForm

end ForeignBridge
