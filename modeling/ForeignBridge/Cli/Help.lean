import ForeignBridge.Cli.Grammar

/-!
Help texts: a line of usage, and a table of operands and options whose second column begins at the same
place in every row. Lines are at most 78 characters long.
-/

namespace ForeignBridge.Cli

namespace Help

def lineWidth : Nat := 78

def latestColumn : Nat := 24

def spaces (n : Nat) : String := String.ofList (List.replicate n ' ')

/-- Words in lines: the first has `room` left for them, the others have `width`. -/
def fill (width : Nat) (room : Nat) (line : String) : List String → List String
  | [] => [line]
  | w :: rest =>
    if line.isEmpty then fill width room w rest
    else if line.length + 1 + w.length ≤ room then fill width room (line ++ " " ++ w) rest
    else line :: fill width width w rest

def usage (name : String) (options operands : List String) : String :=
  let start := "usage: "
  let whole := start ++ " ".intercalate (name :: options ++ operands)
  if whole.length ≤ lineWidth then whole
  else
    let indent := start.length + name.length + 1
    let width := lineWidth - indent
    let first := fill width (lineWidth - start.length) "" (name :: options)
    let rest := if operands.isEmpty then [] else fill width width "" operands
    start ++ ("\n" ++ spaces indent).intercalate (first ++ rest)

/-- A row of a table, indented by its depth. -/
structure Row where
  depth : Nat
  header : String
  about : String

def columnOf (rows : List Row) : Nat :=
  min latestColumn ((rows.map fun r => r.header.length + 2).foldl max 0 + 2)

def Row.text (column : Nat) (r : Row) : String :=
  let width := column - r.depth - 2
  let lines := fill (lineWidth - column) (lineWidth - column) "" (r.about.splitOn " ")
  let joined := ("\n" ++ spaces column).intercalate lines
  let front := spaces r.depth ++ r.header
  if r.header.length ≤ width then front ++ spaces (width - r.header.length) ++ "  " ++ joined
  else front ++ "\n" ++ spaces column ++ joined

def valueText (o : OptionRule) : String :=
  match o.kind with
  | .setting [] => " " ++ o.key.toUpper
  | .setting choices => " \x7b" ++ ",".intercalate choices ++ "\x7d"
  | _ => ""

def optionRow (o : OptionRule) : Row :=
  ⟨2, ", ".intercalate (o.names.map (· ++ valueText o)), o.about⟩

def optionUsage (o : OptionRule) : String := "[" ++ o.names.headD "" ++ valueText o ++ "]"

def table (column : Nat) (heading : String) (rows : List Row) : List String :=
  if rows.isEmpty then []
  else [heading ++ ":\n" ++ "\n".intercalate (rows.map (Row.text column))]

/-- A help text; the table of operands comes before that of options. -/
def text (name : String) (about : List String) (operandUsage : List String) (operands : List Row)
    (options : List OptionRule) (ending : List String) : String :=
  let optionRows := options.map optionRow
  let column := columnOf (operands ++ optionRows)
  "\n\n".intercalate ([usage name (options.map optionUsage) operandUsage] ++ about
    ++ table column "positional arguments" operands ++ table column "options" optionRows ++ ending)
    ++ "\n"

end Help

def Command.help (c : Command) (tool : String) : String :=
  Help.text (tool ++ " " ++ c.name) [] (c.operand.toList.map Prod.fst)
    (c.operand.toList.map fun o => ⟨2, o.1, o.2⟩) c.options []

namespace Tool

def commandNames (t : Tool) : String := "\x7b" ++ ",".intercalate (t.commands.map (·.name)) ++ "\x7d"

def usage (t : Tool) : String :=
  Help.usage t.name (t.options.map Help.optionUsage) [t.commandNames ++ " ..."]

/-- The help of a tool, with a row for each command. -/
def help (t : Tool) : String :=
  Help.text t.name [t.about] [t.commandNames ++ " ..."]
    (⟨2, t.commandNames, t.commandsAbout⟩ :: t.commands.map fun c => ⟨4, c.name, c.about⟩) t.options
    [t.ending]

end Tool

end ForeignBridge.Cli
