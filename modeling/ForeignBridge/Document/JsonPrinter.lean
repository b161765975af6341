import ForeignBridge.Text.Surrogate
import ForeignBridge.Value.Text

/-!
Printing JSON. A style says how items are separated, whether they stand on lines of their own, and
whether all characters but the printable ASCII ones are escaped. A value that JSON does not have is
printed as the text that shows it.
-/

namespace ForeignBridge.Json

structure Style where
  /-- the width of a level of indentation, if items stand on lines of their own -/
  indent : Option Nat
  itemSeparator : String
  keySeparator : String
  ascii : Bool

namespace Style

def dense : Style := ⟨none, ",", ":", false⟩

/-- No blanks, escapes for all that is not printable ASCII. -/
def line : Style := ⟨none, ",", ":", true⟩

def pretty : Style := ⟨some 2, ",", ": ", true⟩

end Style

def unicodeEscapeText (n : Nat) : String := "\\u" ++ hexPadded 4 n

def escapedChar (ascii : Bool) (c : Char) : String :=
  if c = '"' then "\\\""
  else if c = '\\' then "\\\\"
  else if c = '\n' then "\\n"
  else if c = '\r' then "\\r"
  else if c = '\t' then "\\t"
  else if c = '\x0c' then "\\f"
  else if c = '\x08' then "\\b"
  else if c.toNat < 0x20 then unicodeEscapeText c.toNat
  else if !ascii || c.toNat < 0x7f then c.toString
  else
    let code := Surrogate.codeOf c
    if code < 0x10000 then unicodeEscapeText code
    else unicodeEscapeText (0xd800 + (code - 0x10000) / 0x400) ++ unicodeEscapeText (0xdc00 + code % 0x400)

def quotedText (style : Style) (s : String) : String :=
  "\"" ++ String.join (s.toList.map (escapedChar style.ascii)) ++ "\""

def numberText (x : Double) : String :=
  match x.unpack with
  | .nan .. => "NaN"
  | .infinite s => if s then "-Infinity" else "Infinity"
  | .finite .. => x.text

/-- The text of a key, which JSON has only for some values. -/
def keyText : Value → String
  | .text s | .halved s => s
  | .null => "null"
  | .bool b => if b then "true" else "false"
  | .int i => toString i
  | .float x => numberText x
  | v => v.shown

inductive Unprintable
  /-- a key of a type that JSON has no text for -/
  | key (type : String)
  /-- a field without a value, in what is printed as the text that shows it -/
  | lacking (cls name : String)
deriving DecidableEq, Repr

def keyFault? : Value → Option Unprintable
  | .text _ | .halved _ | .null | .bool _ | .int _ | .float _ => none
  | v => some (.key v.qualifiedTypeName)

mutual

def unprintable? : Value → Option Unprintable
  | .list items | .tuple items => unprintableItem? items
  | .dict entries => unprintableEntry? entries
  | .text _ | .halved _ => none
  | .member .. => none
  | v => v.lacking?.map fun (cls, name) => .lacking cls name

def unprintableItem? : List Value → Option Unprintable
  | [] => none
  | v :: rest => (unprintable? v).orElse fun _ => unprintableItem? rest

def unprintableEntry? : List (Value × Value) → Option Unprintable
  | [] => none
  | (k, v) :: rest =>
    ((keyFault? k).orElse fun _ => unprintable? v).orElse fun _ => unprintableEntry? rest

end

def newline (style : Style) (depth : Nat) : String :=
  match style.indent with
  | none => ""
  | some width => "\n" ++ String.ofList (List.replicate (width * depth) ' ')

def enclosed (style : Style) (depth : Nat) (opening closing : String) (items : List String) :
    String :=
  if items.isEmpty then opening ++ closing
  else
    opening ++ newline style (depth + 1)
      ++ (style.itemSeparator ++ newline style (depth + 1)).intercalate items
      ++ newline style depth ++ closing

mutual

def textAt (style : Style) (depth : Nat) : Value → String
  | .null => "null"
  | .bool b => if b then "true" else "false"
  | .int i => toString i
  | .float x => numberText x
  | .text s | .halved s => quotedText style s
  | .list items | .tuple items => enclosed style depth "[" "]" (itemTexts style (depth + 1) items)
  | .dict entries =>
    enclosed style depth "\x7b" "\x7d" (entryTexts style (depth + 1) entries)
  | v => quotedText style v.shown

def itemTexts (style : Style) (depth : Nat) : List Value → List String
  | [] => []
  | v :: rest => textAt style depth v :: itemTexts style depth rest

def entryTexts (style : Style) (depth : Nat) : List (Value × Value) → List String
  | [] => []
  | (k, v) :: rest =>
    (quotedText style (keyText k) ++ style.keySeparator ++ textAt style depth v)
      :: entryTexts style depth rest

end

def print (style : Style) (v : Value) : String := textAt style 0 v

end ForeignBridge.Json
