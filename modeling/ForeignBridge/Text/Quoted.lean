import ForeignBridge.Text.Printable
import ForeignBridge.Text.Surrogate

/-!
Quoted forms of text and of bytes. A text stands in single quotes unless it holds one and no double
quote; what is not printable is escaped by its code.
-/

namespace ForeignBridge

def hexDigit (n : Nat) : Char := "0123456789abcdef".toList.getD n '0'

def hexPadded (width n : Nat) : String :=
  let digits := Nat.toDigits 16 n
  String.ofList (List.replicate (width - digits.length) '0' ++ digits)

namespace Quoted

def quoteFor (hasSingle hasDouble : Bool) : Char :=
  if hasSingle && !hasDouble then '"' else '\''

def codeEscape (code : Nat) : String :=
  if code < 0x100 then "\\x" ++ hexPadded 2 code
  else if code < 0x10000 then "\\u" ++ hexPadded 4 code
  else "\\U" ++ hexPadded 8 code

def escapedChar (codeOf : Char → Nat) (quote c : Char) : String :=
  if c = quote ∨ c = '\\' then String.ofList ['\\', c]
  else if c = '\n' then "\\n"
  else if c = '\r' then "\\r"
  else if c = '\t' then "\\t"
  else if isPrintable c then c.toString
  else codeEscape (codeOf c)

/-- A text in quotes, given the codes that its characters stand for. -/
def textOf (codeOf : Char → Nat) (s : String) : String :=
  let cs := s.toList
  let quote := quoteFor (cs.contains '\'') (cs.contains '"')
  quote.toString ++ String.join (cs.map (escapedChar codeOf quote)) ++ quote.toString

/-- A text in quotes that may hold halves of surrogate pairs. -/
def text (s : String) : String := textOf Surrogate.codeOf s

def escapedByte (quote : Char) (b : UInt8) : String :=
  let c := Char.ofNat b.toNat
  if c = quote ∨ c = '\\' then String.ofList ['\\', c]
  else if c = '\n' then "\\n"
  else if c = '\r' then "\\r"
  else if c = '\t' then "\\t"
  else if b < 0x20 ∨ 0x7f ≤ b then "\\x" ++ hexPadded 2 b.toNat
  else c.toString

def bytes (bs : List UInt8) : String :=
  let quote := quoteFor (bs.contains 39) (bs.contains 34)
  "b" ++ quote.toString ++ String.join (bs.map (escapedByte quote)) ++ quote.toString

end Quoted

end ForeignBridge
