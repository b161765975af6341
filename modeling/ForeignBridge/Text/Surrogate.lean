/-!
Halves of surrogate pairs that stand alone. A half is no character; a text keeps in its place the private
character that lies 0x100000 above it.
-/

namespace ForeignBridge.Surrogate

def isHalf (code : Nat) : Bool := 0xd800 ≤ code && code < 0xe000

/-- The character that a code is kept as, if it is a code of a character or a half. -/
def charOf? (code : Nat) : Option Char :=
  if isHalf code then some (Char.ofNat (0x100000 + code))
  else if h : code.isValidChar then some (Char.ofNatAux code h)
  else none

/-- The code that a character of a text stands for. -/
def codeOf (c : Char) : Nat :=
  if isHalf (c.toNat - 0x100000) then c.toNat - 0x100000 else c.toNat

def occursIn (cs : List Char) : Bool := cs.any fun c => isHalf (codeOf c)

/-- The first halves that stand in a row, with where they start. -/
def firstRun? (cs : List Char) : Option (Nat × List Nat) :=
  let before := cs.takeWhile fun c => !isHalf (codeOf c)
  match (cs.drop before.length).map codeOf |>.takeWhile isHalf with
  | [] => none
  | run => some (before.length, run)

end ForeignBridge.Surrogate
