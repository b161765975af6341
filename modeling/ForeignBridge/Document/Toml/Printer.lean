import ForeignBridge.Value.Text
import ForeignBridge.Document.Access

/-!
Printing documents as TOML: the plain entries of a table first, then its tables under headings of their
own. A text is written as its quoted form with double quotes around it. TOML has no null: such an entry
is left out.
-/

namespace ForeignBridge.Toml

/-- The parts of a text around the places where an escape by two digits starts. -/
def splitAtHexEscapes : List Char → List (List Char)
  | '\\' :: 'x' :: rest => [] :: splitAtHexEscapes rest
  | c :: rest =>
    match splitAtHexEscapes rest with
    | first :: more => (c :: first) :: more
    | [] => [[c]]
  | [] => [[]]

/-- A text with every pair of backslashes made one. -/
def singleBackslashes : List Char → List Char
  | '\\' :: '\\' :: rest => '\\' :: singleBackslashes rest
  | c :: rest => c :: singleBackslashes rest
  | [] => []

/-- How many backslashes end a text. One that the whole text consists of does not count. -/
def closingBackslashes (cs : List Char) : Nat :=
  let n := (cs.reverse.takeWhile (· = '\\')).length
  if n = cs.length then n - 1 else n

/-- Joins two parts at an escape by two digits, of which only the letter stays after an even number of
backslashes; after an odd number the escape by four digits takes its place. -/
def joinAtHexEscape (part next : List Char) : Option (List Char) :=
  let part := singleBackslashes part
  part.getLast?.map fun last =>
    let stays := (last ≠ '\\') != (closingBackslashes part % 2 = 1)
    part ++ (if stays then ['x'] else ['u', '0', '0']) ++ next

/-- Joins all parts; an empty part that starts the text is left out, and then two more must follow. -/
def joinHexEscapes (part : List Char) : List (List Char) → Option (List Char)
  | [] => some part
  | next :: rest =>
    if part.isEmpty then
      match rest with
      | [] => none
      | following :: rest => (joinAtHexEscape next following).bind fun p => joinHexEscapes p rest
    else (joinAtHexEscape part next).bind fun p => joinHexEscapes p rest

/-- A text in double quotes, if it can be written. -/
def quoted? (s : String) : Option String :=
  let cs := (Quoted.text s).toList
  let body := (cs.drop 1).dropLast
  let body :=
    if cs.head? = some '\'' then
      let plain := unescapeQuotes body
      plain.flatMap fun c => if c = '"' then ['\\', '"'] else [c]
    else body
  let parts :=
    match splitAtHexEscapes body with
    | first :: rest => joinHexEscapes first rest
    | [] => some []
  parts.map fun cs => String.ofList ('"' :: cs ++ ['"'])
where
  unescapeQuotes : List Char → List Char
    | '\\' :: '\'' :: rest => '\'' :: unescapeQuotes rest
    | c :: rest => c :: unescapeQuotes rest
    | [] => []

/-- Whether a key needs no quotes; a line break at its end is not looked at. -/
def isBareKey (s : String) : Bool :=
  let cs := s.toList
  let cs := if cs.getLast? = some '\n' then cs.dropLast else cs
  !cs.isEmpty && cs.all fun c => c.isAlphanum || c = '_' || c = '-'

def keyText? (s : String) : Option String := if isBareKey s then some s else quoted? s

/-- The text of a plain entry; `none` if it cannot be written. -/
def plain? (v : Value) : Option String :=
  match v with
  | .text s => quoted? s
  | .bool b => some (if b then "true" else "false")
  | .int i => some (toString i)
  | v => some v.shown

/-- The lines of the plain entries of a table. -/
def plainLines? : List (Value × Value) → Option String
  | [] => some ""
  | (_, .null) :: rest => plainLines? rest
  | (_, .dict _) :: rest => plainLines? rest
  | (k, v) :: rest => do
    let name ← keyText? k.shown
    let text ← plain? v
    return name ++ " = " ++ text ++ "\n" ++ (← plainLines? rest)

/-- The tables inside a table, under their written names. -/
def tables? : List (Value × Value) → Option (List (String × List (Value × Value)))
  | [] => some []
  | (k, .dict entries) :: rest => do
    let name ← keyText? k.shown
    return (name, entries) :: (← tables? rest)
  | _ :: rest => tables? rest

/-- Puts a blank line between a text and a heading. -/
def separated (sofar : String) : String :=
  if sofar.isEmpty || sofar.endsWith "\n\n" then sofar else sofar ++ "\n"

/-- Adds tables to a text, all of one depth before those inside them. The fuel bounds the depth. -/
def addTables : Nat → String → List (String × List (Value × Value)) → Option String
  | 0, sofar, _ => some sofar
  | fuel + 1, sofar, tables =>
    if tables.isEmpty then some sofar
    else do
      let (text, inner) ← tables.foldlM
        (fun (text, inner) (name, entries) => do
          let lines ← plainLines? entries
          let below ← tables? entries
          let heading := if lines.isEmpty && !below.isEmpty then "" else "[" ++ name ++ "]\n"
          let text := if heading.isEmpty then text else separated text ++ heading ++ lines
          return (text, inner ++ below.map fun t => (name ++ "." ++ t.1, t.2)))
        (sofar, [])
      addTables fuel text inner

/-- The TOML text of a document, if its texts can be written. -/
def print? (v : Value) : Option String :=
  match v with
  | .dict entries => do
    let lines ← plainLines? entries
    addTables v.depth lines (← tables? entries)
  | v => plain? v

end ForeignBridge.Toml
