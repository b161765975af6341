import ForeignBridge.Value.Equal
import ForeignBridge.Failure
import ForeignBridge.Number.Sum

/-!
Hashes of keys, as far as they can be compared: equal keys have equal hashes, and numbers are hashed by
their residue at a prime, so that some that differ agree.
-/

namespace ForeignBridge.Value

def hashPrime : Nat := 2 ^ 61 - 1

def powAtPrime (base : Nat) : Nat → Nat
  | 0 => 1
  | n + 1 => powAtPrime base n * base % hashPrime

/-- The hash of `± n / d` for a power of two `d`; no number hashes to `-1`. -/
def ratioHash (negative : Bool) (n d : Nat) : Int :=
  let half := 2 ^ 60
  let h : Int := n % hashPrime * powAtPrime half d.log2 % hashPrime
  let h := if negative then -h else h
  if h = -1 then -2 else h

def infinityHash : Nat := 314159

/-- The units in which a text of these codes is kept: as many bytes for each as the widest one needs. -/
def textUnits (codes : List Nat) : Bytes :=
  let width := if codes.all (· < 0x100) then 1 else if codes.all (· < 0x10000) then 2 else 4
  codes.flatMap fun n => (List.range width).map fun i => UInt8.ofNat (n / 256 ^ i)

/-- The bytes in which a date or a moment without an offset is kept. -/
def dateUnits (d : Date) : Bytes := [d.year / 256, d.year % 256, d.month, d.day].map fun i => UInt8.ofNat i.toNat

def momentUnits (t : Moment) : Bytes :=
  dateUnits ⟨t.year, t.month, t.day⟩
    ++ [t.hour, t.minute, t.second, t.microsecond / 65536, t.microsecond / 256 % 256,
      t.microsecond % 256].map fun i => UInt8.ofNat i.toNat

/-- Runs of bytes have the hash of a number only if they are empty. -/
def bytesKey (units : Bytes) : Value := if units.isEmpty then int 0 else bytes .frozen units

def spanKey (s : Span) : Value :=
  tuple ([s.days, s.seconds, s.microseconds].map fun i => int (ratioHash (i < 0) i.natAbs 1))

mutual

/-- A value that stands for the hash of another: two hashes are the same if these values are. A text and bytes
are hashed as the bytes that they are kept in, a span as its parts, and a member of an enum as its name. -/
def hashKey : Value → Value
  | bool b => int (if b then 1 else 0)
  | int i => int (ratioHash (i < 0) i.natAbs 1)
  | float x =>
    match x.ratio? with
    | some (s, n, d) => int (ratioHash s n d)
    | none => if x.isNaN then float x else int (if x.isNegative then -infinityHash else infinityHash)
  | text s => bytesKey (textUnits (s.toList.map Char.toNat))
  | halved s => bytesKey (textUnits (s.toList.map Surrogate.codeOf))
  | bytes _ data => bytesKey data
  | tuple items => tuple (hashKeys items)
  | date d => bytesKey (dateUnits d)
  | moment t =>
    match t.instant? with
    | none => bytesKey (momentUnits t)
    | some micros => spanKey ⟨micros - Calendar.dayBefore * Calendar.microsPerDay⟩
  | span s => spanKey s
  | member _ name _ => bytesKey (textUnits (name.toList.map Surrogate.codeOf))
  | declared kind message => declared kind message.hashKey
  | v => v

def hashKeys : List Value → List Value
  | [] => []
  | v :: rest => v.hashKey :: hashKeys rest

end

/-- Whether two values are equal; two records of a class are only if they have all their fields. -/
def checkedSame (a b : Value) : Except Failure Bool := do
  match a, b with
  | .record c _ _, .record d _ _ =>
    if c = d then
      for v in [a, b] do
        if let .record cls _ fields := v then
          if let some f := fields.find? (·.2.isNone) then throw (.noAttribute cls f.1)
  | _, _ => pure ()
  return a.same b

/-- Whether two values have the same hash; some have none. -/
def sameHash (a b : Value) : Except Failure Bool :=
  match a.unhashable?, b.unhashable? with
  | some name, _ => .error (.mismatch (.unhashable name))
  | none, some name => .error (.mismatch (.unhashable name))
  | none, none => .ok (a.hashKey.same b.hashKey)

end ForeignBridge.Value
