import ForeignBridge.Failure
import ForeignBridge.Number.Fixed
import ForeignBridge.Value.Equal

/-!
Filling in templates. A percent sign starts a place for an argument: perhaps the name of an entry in
parentheses, flags, a least width, a precision, and a letter for the kind of text. Every argument must find
its place, and every place its argument.
-/

namespace ForeignBridge.Template

structure Flags where
  left : Bool
  plus : Bool
  space : Bool
  alternate : Bool
  zero : Bool

/-- A place for an argument, as far as it has been read. -/
structure Place where
  flags : Flags
  width : Nat
  precision : Option Nat

/-- What is left to fill in: the rest of the template with its position, and the arguments. -/
structure State where
  rest : List Char
  position : Nat
  arguments : List Value

abbrev Fill := EStateM Failure State

def mistyped {α : Type} (text : String) : Fill α := throw (.mismatch (.arguments text))

def malformed {α : Type} (text : String) : Fill α := throw (.malformedTemplate text)

/-- The next character of the template, which must have one. -/
def nextChar : Fill Char := do
  let st ← get
  match st.rest with
  | [] => malformed "incomplete format"
  | c :: rest =>
    set { st with rest := rest, position := st.position + 1 }
    return c

def peek : Fill (Option Char) := do return (← get).rest.head?

def nextArgument : Fill Value := do
  let st ← get
  match st.arguments with
  | [] => mistyped "not enough arguments for format string"
  | v :: rest =>
    set { st with arguments := rest }
    return v

/-- The name in parentheses; parentheses inside it come in pairs. -/
def entryName : Nat → Nat → List Char → Fill String
  | 0, _, _ => malformed "incomplete format key"
  | fuel + 1, depth, sofar => do
    match ← peek with
    | none => malformed "incomplete format key"
    | some c =>
      let _ ← nextChar
      if c = ')' && depth = 0 then return String.ofList sofar.reverse
      else
        let depth := if c = '(' then depth + 1 else if c = ')' then depth - 1 else depth
        entryName fuel depth (c :: sofar)

/-- Makes the entry of a name the only argument that is left. -/
def takeEntry (mapping : Option Value) (name : String) : Fill Unit := do
  match mapping with
  | some (.dict entries) =>
    match Value.entry? (.text name) entries with
    | some v => modify fun st => { st with arguments := [v] }
    | none => throw (.noKey name)
  | some (.list _) => throw (.mismatch .listKey)
  | some (.bytes .view _) => mistyped "memoryview: invalid slice key"
  | some (.bytes .frozen _) => mistyped "byte indices must be integers or slices, not str"
  | some (.bytes .growable _) => mistyped "bytearray indices must be integers or slices, not str"
  | _ => mistyped "format requires a mapping"

def readFlags : Nat → Flags → Fill Flags
  | 0, f => return f
  | fuel + 1, f => do
    let next (f : Flags) : Fill Flags := do
      let _ ← nextChar
      readFlags fuel f
    match ← peek with
    | some '-' => next { f with left := true }
    | some '+' => next { f with plus := true }
    | some ' ' => next { f with space := true }
    | some '#' => next { f with alternate := true }
    | some '0' => next { f with zero := true }
    | _ => return f

def readDigits : Nat → Nat → Fill Nat
  | 0, n => return n
  | fuel + 1, n => do
    match ← peek with
    | some c =>
      if c.isDigit then
        let _ ← nextChar
        readDigits fuel (n * 10 + (c.toNat - 48))
      else return n
    | none => return n

/-- The greatest sizes that can be counted with, and the least that no text has. -/
def greatestWidth : Nat := 2 ^ 63 - 1

def greatestPrecision : Nat := 2 ^ 31 - 1

def unheardOfLength : Nat := 2 ^ 32

/-- A number of the template, or the argument that an asterisk stands for; `what` and `kind` name it in
messages. -/
def readSize (fuel : Nat) (what kind : String) (greatest : Nat) : Fill (Option Int) := do
  match ← peek with
  | some '*' =>
    let _ ← nextChar
    match (← nextArgument).wholeNumber? with
    | some i =>
      if greatest < i ∨ i < -(greatest : Int) - 1 then
        throw (.overflow s!"Python int too large to convert to C {kind}")
      return some i
    | none => mistyped "* wants int"
  | some c =>
    if c.isDigit then
      let n ← readDigits fuel 0
      if greatest < n then malformed s!"{what} too big"
      return some n
    else return none
  | none => return none

def readPlace (fuel : Nat) : Fill Place := do
  let flags ← readFlags fuel ⟨false, false, false, false, false⟩
  let width := (← readSize fuel "width" "ssize_t" greatestWidth).getD 0
  let flags := if width < 0 then { flags with left := true } else flags
  let precision ←
    if (← peek) = some '.' then do
      let _ ← nextChar
      pure (some (((← readSize fuel "precision" "int" greatestPrecision).getD 0).toNat))
    else pure none
  if (← peek).any "hlL".toList.contains then
    let _ ← nextChar
  return ⟨flags, width.natAbs, precision⟩

/-- A text at its place; zeros go between the sign and the digits of a number. -/
def pad (p : Place) (isNumber : Bool) (lead body : String) : String :=
  let missing := p.width - (lead.length + body.length)
  let fill (c : Char) : String := String.ofList (List.replicate missing c)
  if p.flags.left then lead ++ body ++ fill ' '
  else if isNumber && p.flags.zero then lead ++ fill '0' ++ body
  else fill ' ' ++ lead ++ body

def signText (p : Place) (negative : Bool) : String :=
  if negative then "-" else if p.flags.plus then "+" else if p.flags.space then " " else ""

def padText (p : Place) (s : String) : String :=
  let cut := match p.precision with | none => s | some n => String.ofList (s.toList.take n)
  pad p false "" cut

/-- A text with escapes for all that is not ASCII. -/
def asciiText (s : String) : String :=
  String.join (s.toList.map fun c =>
    if c.toNat < 0x80 then c.toString else Quoted.codeEscape (Surrogate.codeOf c))

/-- The whole number that an argument is for a letter of numbers. -/
def wholeFor (letter : Char) (v : Value) : Fill Int :=
  let decimal := letter = 'd' || letter = 'i' || letter = 'u'
  match v with
  | .float x =>
    if !decimal then mistyped s!"%{letter} format: an integer is required, not float"
    else
      match x.ratio? with
      | some (negative, num, den) =>
        let n : Int := (num / den : Nat)
        return if negative then -n else n
      | none =>
        if x.isNaN then malformed "cannot convert float NaN to integer"
        else throw (.overflow "cannot convert float infinity to integer")
  | v =>
    match v.wholeNumber? with
    | some i => return i
    | none =>
      let wanted := if decimal then "a real number" else "an integer"
      mistyped s!"%{letter} format: {wanted} is required, not {v.qualifiedTypeName}"

def wholeText (p : Place) (letter : Char) (i : Int) : String :=
  let base := if letter = 'o' then 8 else if letter = 'x' || letter = 'X' then 16 else 10
  let digits := Nat.toDigits base i.natAbs
  let digits := List.replicate (p.precision.getD 0 - digits.length) '0' ++ digits
  let digits := if letter = 'X' then digits.map Char.toUpper else digits
  let mark :=
    if !p.flags.alternate then ""
    else if letter = 'o' then "0o"
    else if letter = 'x' then "0x"
    else if letter = 'X' then "0X"
    else ""
  pad p true (signText p (i < 0) ++ mark) (String.ofList digits)

/-- The number that an argument is for a letter of fractions. -/
def floatFor (v : Value) : Fill Double :=
  match v with
  | .float x => return x
  | v =>
    match v.wholeNumber? with
    | none => mistyped s!"must be real number, not {v.qualifiedTypeName}"
    | some i =>
      match Double.ofInt? i with
      | some x => return x
      | none => throw .intTooLarge

def floatText (p : Place) (letter : Char) (x : Double) : String :=
  let precision := p.precision.getD 6
  let body :=
    match x.ratio? with
    | none => if x.isNaN then "nan" else "inf"
    | some (_, num, den) =>
      match letter.toLower with
      | 'f' => Double.fixedText num den precision p.flags.alternate
      | 'e' => Double.scientificText num den precision p.flags.alternate
      | _ => Double.generalText num den precision p.flags.alternate
  let negative := !x.isNaN && x.text.startsWith "-"
  pad p true (signText p negative) (if letter.isUpper then body.map Char.toUpper else body)

def charFor (v : Value) : Fill String :=
  match v with
  | .text s | .halved s => if s.length = 1 then return s else mistyped "%c requires int or char"
  | v =>
    match v.wholeNumber? with
    | none => mistyped "%c requires int or char"
    | some i =>
      match if 0 ≤ i then Surrogate.charOf? i.toNat else none with
      | some c => return c.toString
      | none => throw (.overflow "%c arg not in range(0x110000)")

def shown (v : Value) : Fill Unit := MonadExcept.ofExcept (Failure.ofShowing v)

/-- The text of an argument at a place, by the letter. -/
def placed (p : Place) (letter : Char) (v : Value) : Fill String := do
  match letter with
  | 's' => shown v; return padText p v.shown
  | 'r' => shown v; return padText p v.quoted
  | 'a' => shown v; return padText p (asciiText v.quoted)
  | 'c' => return pad p false "" (← charFor v)
  | 'd' | 'i' | 'u' | 'o' | 'x' | 'X' => return wholeText p letter (← wholeFor letter v)
  | 'e' | 'E' | 'f' | 'F' | 'g' | 'G' => return floatText p letter (← floatFor v)
  | c =>
    let code := String.ofList (Nat.toDigits 16 c.toNat)
    let shown := if 31 < c.toNat ∧ c.toNat < 127 then c.toString else "?"
    malformed s!"unsupported format character '{shown}' (0x{code}) at index {(← get).position - 1}"

/-- Fills in one place, behind its percent sign; another percent sign right there stands for itself. -/
def fillPlace (mapping : Option Value) (fuel : Nat) : Fill String := do
  if (← peek) = some '%' then
    let _ ← nextChar
    return "%"
  if (← peek) = some '(' then
    if mapping.isNone then mistyped "format requires a mapping"
    let _ ← nextChar
    takeEntry mapping (← entryName fuel 0 [])
  let p ← readPlace fuel
  let letter ← nextChar
  let v ← nextArgument
  if unheardOfLength ≤ p.width then
    let _ ← placed { p with width := 0 } letter v
    throw .noMemory
  else placed p letter v

def fillRest (mapping : Option Value) : Nat → List String → Fill String
  | 0, sofar => return String.join sofar.reverse
  | fuel + 1, sofar => do
    let st ← get
    let plain := st.rest.takeWhile (· ≠ '%')
    let sofar := String.ofList plain :: sofar
    match st.rest.drop plain.length with
    | [] => return String.join sofar.reverse
    | _ :: rest =>
      set { st with rest := rest, position := st.position + plain.length + 1 }
      let s ← fillPlace mapping st.rest.length
      fillRest mapping fuel (s :: sofar)

/-- Fills in a template. What is no tuple is the only argument; one with items may give them by name, and need
not be used up. -/
def fill (template : String) (given : Value) : Except Failure String :=
  let mapping := match given with | .dict _ | .list _ | .bytes .. => some given | _ => none
  let arguments := match given with | .tuple vs => vs | v => [v]
  let cs := template.toList
  match fillRest mapping (cs.length + 1) [] ⟨cs, 0, arguments⟩ with
  | .error f _ => .error f
  | .ok s st =>
    if st.arguments.isEmpty || mapping.isSome then .ok s
    else .error (.mismatch (.arguments "not all arguments converted during string formatting"))

end ForeignBridge.Template
