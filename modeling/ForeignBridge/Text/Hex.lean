import ForeignBridge.Value.Basic
import ForeignBridge.Text.Quoted

/-!
Bytes as pairs of hexadecimal digits.
-/

namespace ForeignBridge.Hex

def digit? (c : Char) : Option Nat :=
  if '0' ≤ c ∧ c ≤ '9' then some (c.toNat - 48)
  else if 'a' ≤ c ∧ c ≤ 'f' then some (c.toNat - 87)
  else if 'A' ≤ c ∧ c ≤ 'F' then some (c.toNat - 55)
  else none

def encode (bs : Bytes) : String :=
  String.ofList (bs.flatMap fun b => [hexDigit (b.toNat / 16), hexDigit (b.toNat % 16)])

def isBetween (c : Char) : Bool := c = ' ' || (0x09 ≤ c.toNat && c.toNat ≤ 0x0d)

/-- The bytes of a text from a position on, or the position where a digit is missing. -/
def decodeFrom (position : Nat) : List Char → Except Nat Bytes
  | [] => .ok []
  | [c] => if isBetween c then .ok [] else .error (if (digit? c).isSome then position + 1 else position)
  | c :: l :: rest =>
    if isBetween c then decodeFrom (position + 1) (l :: rest)
    else
      match digit? c, digit? l with
      | none, _ => .error position
      | some _, none => .error (position + 1)
      | some high, some low => (UInt8.ofNat (high * 16 + low) :: ·) <$> decodeFrom (position + 2) rest

/-- The bytes that a text writes, or the position where it writes none. -/
def decode (s : String) : Except Nat Bytes :=
  match s.toList.findIdx? (0x80 ≤ ·.toNat) with
  | some position => .error position
  | none => decodeFrom 0 s.toList

def number? (cs : List Char) : Option Nat :=
  cs.foldl (fun n c => do return (← n) * 16 + (← digit? c)) (some 0)

end ForeignBridge.Hex
