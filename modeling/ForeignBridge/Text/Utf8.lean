/-!
UTF-8. A machine reads one byte at a time, holding the character begun; it refuses a text at the first
byte that no continuation could save, and can replace what it refuses instead.
-/

namespace ForeignBridge.Utf8

def encode (s : String) : List UInt8 := s.toList.flatMap String.utf8EncodeChar

inductive Reason
  | badStart
  | badContinuation
  | endOfData
deriving DecidableEq, Repr

/-- The longest run of bytes that begins a character and cannot be completed. -/
structure Fault where
  position : Nat
  length : Nat
  first : UInt8
  reason : Reason
deriving DecidableEq, Repr

/-- A character begun: its first byte, the bytes taken, those still owed, and the bounds of the next. -/
structure Begun where
  first : UInt8
  taken : Nat
  owed : Nat
  low : UInt8
  high : UInt8
  code : Nat
deriving DecidableEq, Repr

/-- The state after a first byte above ASCII. The bounds leave out overlong forms, surrogates and
codes past the last. -/
def begin? (b : UInt8) : Option Begun :=
  let begun (owed : Nat) (low high : UInt8) (code : Nat) : Option Begun :=
    some ⟨b, 1, owed, low, high, code⟩
  if b < 0xc2 then none
  else if b < 0xe0 then begun 1 0x80 0xbf (b.toNat - 0xc0)
  else if b = 0xe0 then begun 2 0xa0 0xbf 0
  else if b = 0xed then begun 2 0x80 0x9f 0xd
  else if b < 0xf0 then begun 2 0x80 0xbf (b.toNat - 0xe0)
  else if b = 0xf0 then begun 3 0x90 0xbf 0
  else if b < 0xf4 then begun 3 0x80 0xbf (b.toNat - 0xf0)
  else if b = 0xf4 then begun 3 0x80 0x8f 4
  else none

def Begun.accepts (p : Begun) (b : UInt8) : Bool := p.low ≤ b && b ≤ p.high

def Begun.push (p : Begun) (b : UInt8) : Begun :=
  ⟨p.first, p.taken + 1, p.owed - 1, 0x80, 0xbf, p.code * 64 + (b.toNat - 0x80)⟩

/-- Decodes from a position, with the character begun before it. -/
def decodeFrom (position : Nat) (begun : Option Begun) : List UInt8 → Except Fault (List Char)
  | [] =>
    match begun with
    | none => .ok []
    | some p => .error ⟨position - p.taken, p.taken, p.first, .endOfData⟩
  | b :: rest =>
    match begun with
    | none =>
      if b < 0x80 then (decodeFrom (position + 1) none rest).map (Char.ofNat b.toNat :: ·)
      else match begin? b with
        | none => .error ⟨position, 1, b, .badStart⟩
        | some p => decodeFrom (position + 1) (some p) rest
    | some p =>
      if p.accepts b then
        if p.owed = 1 then
          (decodeFrom (position + 1) none rest).map (Char.ofNat (p.push b).code :: ·)
        else decodeFrom (position + 1) (some (p.push b)) rest
      else .error ⟨position - p.taken, p.taken, p.first, .badContinuation⟩

def decode (bs : List UInt8) : Except Fault String :=
  (decodeFrom 0 none bs).map String.ofList

/-- The character that stands for bytes that are no text. -/
def replacement : Char := Char.ofNat 0xfffd

/-- Decodes with every run that `decode` would refuse replaced. -/
def replaceFrom (begun : Option Begun) : List UInt8 → List Char
  | [] => if begun.isSome then [replacement] else []
  | b :: rest =>
    let start : List Char :=
      if b < 0x80 then Char.ofNat b.toNat :: replaceFrom none rest
      else match begin? b with
        | none => replacement :: replaceFrom none rest
        | some p => replaceFrom (some p) rest
    match begun with
    | none => start
    | some p =>
      if p.accepts b then
        if p.owed = 1 then Char.ofNat (p.push b).code :: replaceFrom none rest
        else replaceFrom (some (p.push b)) rest
      else replacement :: start

def decodeReplacing (bs : List UInt8) : String := String.ofList (replaceFrom none bs)

def Reason.text : Reason → String
  | .badStart => "invalid start byte"
  | .badContinuation => "invalid continuation byte"
  | .endOfData => "unexpected end of data"

def hexByte (b : UInt8) : String :=
  let digit (n : Nat) : Char := (Nat.toDigits 16 n).headD '0'
  String.ofList [digit (b.toNat / 16), digit (b.toNat % 16)]

def Fault.text (f : Fault) : String :=
  let place :=
    if f.length = 1 then s!"byte 0x{hexByte f.first} in position {f.position}"
    else s!"bytes in position {f.position}-{f.position + f.length - 1}"
  s!"'utf-8' codec can't decode {place}: {f.reason.text}"

end ForeignBridge.Utf8
