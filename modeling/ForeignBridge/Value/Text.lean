import ForeignBridge.Value.Basic
import ForeignBridge.Text.Quoted

/-!
The text of a value as messages show it: `quoted`, which tells `'1'` from `1`, and `shown`, which
gives a text as it is.
-/

namespace ForeignBridge.Value

def boolText (b : Bool) : String := if b then "True" else "False"

mutual

/-- The form of a value inside a list or after an equals sign. -/
def quoted : Value → String
  | null => "None"
  | bool b => boolText b
  | int i => toString i
  | float x => x.text
  | text s => Quoted.textOf Char.toNat s
  | halved s => Quoted.text s
  | bytes .frozen data => Quoted.bytes data
  | bytes .growable data => "bytearray(" ++ Quoted.bytes data ++ ")"
  | bytes .view _ => "<memory>"
  | list items => "[" ++ ", ".intercalate (quotedAll items) ++ "]"
  | tuple [item] => "(" ++ item.quoted ++ ",)"
  | tuple items => "(" ++ ", ".intercalate (quotedAll items) ++ ")"
  | dict entries => "\x7b" ++ ", ".intercalate (quotedEntries entries) ++ "\x7d"
  | moment t => t.quoted
  | date d => d.quoted
  | span s => s.quoted
  | record cls _ fields => cls ++ "(" ++ ", ".intercalate (quotedFields fields) ++ ")"
  | member enum name value => "<" ++ enum ++ "." ++ name ++ ": " ++ value.quoted ++ ">"
  | declared kind message => kind ++ "(" ++ message.quoted ++ ")"
  | exception cls _ message => cls ++ "(" ++ Quoted.text message ++ ")"
  | thing cls _ => "<" ++ cls ++ ">"
  | wrapper cls _ => "<" ++ cls ++ ">"
  | received cls _ => "<" ++ cls ++ ">"
  | implementation cls _ _ => "<" ++ cls ++ ">"

def quotedAll : List Value → List String
  | [] => []
  | v :: rest => v.quoted :: quotedAll rest

def quotedEntries : List (Value × Value) → List String
  | [] => []
  | (k, v) :: rest => (k.quoted ++ ": " ++ v.quoted) :: quotedEntries rest

def quotedFields : List (String × Option Value) → List String
  | [] => []
  | (name, some v) :: rest => (name ++ "=" ++ v.quoted) :: quotedFields rest
  | (_, none) :: rest => quotedFields rest

end

def shown : Value → String
  | text s | halved s => s
  | moment t => t.text
  | span s => s.text
  | member enum name _ => enum ++ "." ++ name
  | declared _ message => message.shown
  | exception cls _ message => if cls = "KeyError" then Quoted.text message else message
  | v => v.quoted

mutual

/-- The first field without a value that keeps a value from being shown, with the class that declares it. -/
def lacking? : Value → Option (String × String)
  | list items | tuple items => lackingIn? items
  | dict entries => lackingInEntries? entries
  | record cls _ fields => lackingInFields? cls fields
  | member _ _ value => value.lacking?
  | declared _ message => message.lacking?
  | _ => none

def lackingIn? : List Value → Option (String × String)
  | [] => none
  | v :: rest => v.lacking?.orElse fun _ => lackingIn? rest

def lackingInEntries? : List (Value × Value) → Option (String × String)
  | [] => none
  | (k, v) :: rest => (k.lacking?.orElse fun _ => v.lacking?).orElse fun _ => lackingInEntries? rest

def lackingInFields? (cls : String) : List (String × Option Value) → Option (String × String)
  | [] => none
  | (_, some v) :: rest => v.lacking?.orElse fun _ => lackingInFields? cls rest
  | (name, none) :: _ => some (cls, name)

end

end ForeignBridge.Value
