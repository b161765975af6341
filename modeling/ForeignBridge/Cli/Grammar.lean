import ForeignBridge.Value.Basic

/-!
Command lines. A tool has options and commands, and a command has options and perhaps an operand. Long
options may be cut short as long as one name fits, and their values may follow an equals sign.
`Tool.read` says what a list of arguments asks for.
-/

namespace ForeignBridge.Cli

inductive OptionKind
  | help
  | version
  | switch
  /-- takes a value; if there are choices, one of them -/
  | setting (choices : List String)
deriving DecidableEq, Repr, Inhabited

structure OptionRule where
  names : List String
  kind : OptionKind
  about : String
deriving DecidableEq, Repr, Inhabited

/-- A command; its operand comes with what it means. -/
structure Command where
  name : String
  about : String
  operand : Option (String × String)
  options : List OptionRule
deriving DecidableEq, Repr, Inhabited

structure Tool where
  name : String
  version : String
  about : String
  commandsAbout : String
  ending : String
  options : List OptionRule
  commands : List Command
deriving DecidableEq, Repr, Inhabited

/-- The name under which the value of an option is kept. -/
def OptionRule.key (o : OptionRule) : String :=
  String.ofList ((o.names.getLastD "").toList.dropWhile (· = '-'))

/-- What stands in one argument with an option: what follows an equals sign, or more letters. -/
inductive Attachment
  | value (s : String)
  | letters (cs : List Char)
deriving DecidableEq, Repr

inductive Piece
  | option (rule : OptionRule) (attached : Option Attachment)
  | unknown
  | separator
  | word (s : String)

namespace Piece

/-- A name and what follows the first equals sign. -/
def splitEquals (arg : String) : String × Option String :=
  let cs := arg.toList
  let name := cs.takeWhile (· ≠ '=')
  match cs.drop name.length with
  | _ :: value => (String.ofList name, some (String.ofList value))
  | [] => (arg, none)

def named (rules : List OptionRule) : List (String × OptionRule) :=
  rules.flatMap fun o => o.names.map fun n => (n, o)

/-- The options that a cut name or a group of letters can mean. -/
def candidates (rules : List OptionRule) (arg : String) : List Piece :=
  if arg.startsWith "--" then
    let (stem, value) := splitEquals arg
    (named rules).filterMap fun (name, o) =>
      if name.startsWith stem then some (.option o (value.map .value)) else none
  else
    (named rules).filterMap fun (name, o) =>
      if name.toList = arg.toList.take 2 then some (.option o (some (.letters (arg.toList.drop 2))))
      else if name.startsWith arg then some (.option o none)
      else none

/-- Whether an argument is a number below zero, which is a word in spite of its dash. -/
def isNegativeNumber (arg : String) : Bool :=
  let digits := arg.toList.drop 1
  let whole := digits.takeWhile (·.isDigit)
  match digits.drop whole.length with
  | [] => !whole.isEmpty
  | '.' :: fraction => !fraction.isEmpty && fraction.all (·.isDigit)
  | _ => false

/-- What one argument is, or `none` if it can mean several options. -/
def ofArgument (rules : List OptionRule) (arg : String) : Option Piece :=
  let exact (name : String) (attached : Option Attachment) : Option Piece :=
    (Value.lookup name (named rules)).map fun o => .option o attached
  if !arg.startsWith "-" then some (.word arg)
  else if let some p := exact arg none then some p
  else if arg = "-" then some (.word arg)
  else
    let (name, value) := splitEquals arg
    match value.bind fun v => exact name (some (.value v)) with
    | some p => some p
    | none =>
      match candidates rules arg with
      | _ :: _ :: _ => none
      | [p] => some p
      | [] => some (if isNegativeNumber arg || arg.contains ' ' then .word arg else .unknown)

/-- What the arguments are, each with its text; behind the separator all are words. -/
def ofArguments (rules : List OptionRule) : List String → Option (List (Piece × String))
  | [] => some []
  | "--" :: rest => some ((.separator, "--") :: rest.map fun a => (.word a, a))
  | a :: rest => do
    let p ← ofArgument rules a
    return (p, a) :: (← ofArguments rules rest)

end Piece

/-- What a list of arguments gave: values by key, an operand, and whether anything fitted nowhere. -/
structure Given where
  settings : List (String × String)
  operand : Option String
  stray : Bool
deriving DecidableEq, Repr, Inhabited

/-- Why reading arguments ends without a command to run. -/
inductive Halt
  | help
  | version
  | misuse
deriving DecidableEq, Repr, Inhabited

inductive Operands
  | none
  | one
  | command
deriving DecidableEq, Repr

namespace Given

def set (g : Given) (o : OptionRule) (v : String) : Given :=
  { g with settings := Value.put o.key v g.settings }

/-- Gives an option the value that was written for it, if it may have it. -/
def setChecked (g : Given) (o : OptionRule) (v : String) : Except Halt Given :=
  match o.kind with
  | .setting choices =>
    if choices.isEmpty || choices.contains v then .ok (g.set o v) else .error .misuse
  | _ => .error .misuse

def take (g : Given) (o : OptionRule) : Except Halt Given :=
  match o.kind with
  | .help => .error .help
  | .version => .error .version
  | .switch => .ok (g.set o "")
  | .setting _ => .error .misuse

/-- The options that letters behind another one mean, and whether the letters end with one that means
none. Neither a dash nor a value may follow. -/
def letterOptions (rules : List OptionRule) : List Char → Option (List OptionRule × Bool)
  | [] => none
  | c :: rest =>
    if c = '-' then none
    else
      match Value.lookup (String.ofList ['-', c]) (Piece.named rules) with
      | none => some ([], true)
      | some o =>
        if rest.isEmpty then some ([o], false)
        else if rest.head? = some '=' then none
        else (letterOptions rules rest).map fun (os, stray) => (o :: os, stray)

/-- Takes an option with what is attached to it: its value, or further letters that are options themselves. -/
def takeAttached (rules : List OptionRule) (g : Given) (o : OptionRule) (attached : Attachment) :
    Except Halt Given :=
  match o.kind, attached with
  | .setting _, .value v => g.setChecked o v
  | .setting _, .letters cs => g.setChecked o (String.ofList cs)
  | _, .value _ => .error .misuse
  | _, .letters cs =>
    match letterOptions rules cs with
    | none => .error .misuse
    | some (os, stray) => do
      let g ← (o :: os).foldlM take g
      return { g with stray := g.stray || stray }

/-- Reads arguments one after another, and gives those that belong to a command. -/
def read (rules : List OptionRule) (wants : Operands) (g : Given) :
    List (Piece × String) → Except Halt (Given × List String)
  | [] => .ok (g, [])
  | (.option o none, _) :: (.word w, a) :: rest =>
    match o.kind with
    | .setting _ => do read rules wants (← g.setChecked o w) rest
    | _ => do read rules wants (← g.take o) ((.word w, a) :: rest)
  | (.option o none, _) :: rest => do read rules wants (← g.take o) rest
  | (.option o (some x), _) :: rest => do read rules wants (← g.takeAttached rules o x) rest
  | (.unknown, _) :: rest => read rules wants { g with stray := true } rest
  | (.separator, _) :: rest =>
    match wants with
    | .command => .error .misuse
    | .one => read rules wants g rest
    | .none => read rules wants { g with stray := true } rest
  | (.word w, _) :: rest =>
    match wants with
    | .command => .ok ({ g with operand := some w }, rest.map Prod.snd)
    | .one =>
      if g.operand.isNone then read rules wants { g with operand := some w } rest
      else read rules wants { g with stray := true } rest
    | .none => read rules wants { g with stray := true } rest

def ofArguments (rules : List OptionRule) (wants : Operands) (args : List String) :
    Except Halt (Given × List String) :=
  match Piece.ofArguments rules args with
  | none => .error .misuse
  | some pieces => read rules wants ⟨[], none, false⟩ pieces

end Given

/-- What a list of arguments asks a tool for. -/
inductive Request
  | help (command : Option Command)
  | version
  | misuse
  | run (command : Option Command) (settings : List (String × String)) (operand : String)
deriving DecidableEq, Repr, Inhabited

namespace Request

def ofHalt (command : Option Command) : Halt → Request
  | .help => help command
  | .version => version
  | .misuse => misuse

end Request

def Command.read (c : Command) (above : Given) (args : List String) : Request :=
  match Given.ofArguments c.options (if c.operand.isSome then .one else .none) args with
  | .error halt => .ofHalt (some c) halt
  | .ok (g, _) =>
    if above.stray || g.stray || (c.operand.isSome && g.operand.isNone) then .misuse
    else .run (some c) (above.settings ++ g.settings) (g.operand.getD "")

def Tool.read (t : Tool) (args : List String) : Request :=
  match Given.ofArguments t.options .command args with
  | .error halt => .ofHalt none halt
  | .ok (g, rest) =>
    match g.operand with
    | none => if g.stray then .misuse else .run none g.settings ""
    | some name =>
      match t.commands.find? (·.name == name) with
      | some c => c.read g rest
      | none => .misuse

end ForeignBridge.Cli
