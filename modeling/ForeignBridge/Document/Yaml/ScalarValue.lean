import ForeignBridge.Document.Unread
import ForeignBridge.Document.Yaml.Tag
import ForeignBridge.Number.Literal
import ForeignBridge.Number.Sum

/-!
The values of YAML scalars. A scalar may say a kind that its text does not look like; then the text is read
as that kind all the same, or it has no value.
-/

namespace ForeignBridge.Yaml

def base64Digit? (c : Char) : Option Nat :=
  if 'A' ≤ c && c ≤ 'Z' then some (c.toNat - 65)
  else if 'a' ≤ c && c ≤ 'z' then some (c.toNat - 71)
  else if '0' ≤ c && c ≤ '9' then some (c.toNat + 4)
  else if c = '+' then some 62
  else if c = '/' then some 63
  else none

/-- The bytes of a text in base sixty-four, of which `count` digits with the value `held` wait for more.
Other characters do not count, and the padding ends the text where it fits. -/
def base64Bytes? : Nat → Nat → Nat → List Char → Option Bytes
  | count, _, _, [] => if count = 0 then some [] else none
  | count, held, pads, c :: rest =>
    if c = '=' then
      if 2 ≤ count && 4 ≤ count + pads + 1 then some []
      else base64Bytes? count held (pads + 1) rest
    else
      match base64Digit? c with
      | none => base64Bytes? count held pads rest
      | some d =>
        let held := held * 64 + d
        let byte (n : Nat) : UInt8 := UInt8.ofNat (n % 256)
        match count with
        | 0 => base64Bytes? 1 held 0 rest
        | 1 => (base64Bytes? 2 held 0 rest).map (byte (held / 16) :: ·)
        | 2 => (base64Bytes? 3 held 0 rest).map (byte (held / 4) :: ·)
        | _ => (base64Bytes? 0 0 0 rest).map (byte held :: ·)

namespace ScalarValue

def noCharacter {α : Type} : Except Unread α := .error (.failure (.pastEnd "string"))

/-- The number that a text writes in a base. -/
def wholeIn (base : Nat) (cs : List Char) : Except Unread Int :=
  match Literal.whole base cs with
  | .ok i => .ok i
  | .error .malformed => .error (.ofUnreadable (.whole base (String.ofList cs)))
  | .error (.tooLong n) => .error (.ofUnreadable (.tooManyDigits n))

/-- The number that parts in base sixty write, the highest first. -/
def sixties (parts : List Int) : Int := parts.foldl (fun n p => n * 60 + p) 0

/-- A whole number, which may say its base, or have parts in base sixty. -/
def whole (s : List Char) : Except Unread Int := do
  let cs := s.filter (· ≠ '_')
  let (negative, body) ←
    match cs with
    | [] => noCharacter
    | '-' :: rest => pure (true, rest)
    | '+' :: rest => pure (false, rest)
    | cs => pure (false, cs)
  let n ←
    match body with
    | [] => noCharacter
    | ['0'] => pure 0
    | '0' :: 'b' :: rest => wholeIn 2 rest
    | '0' :: 'x' :: rest => wholeIn 16 rest
    | '0' :: rest => wholeIn 8 ('0' :: rest)
    | body =>
      if body.contains ':' then sixties <$> (Tag.splitAt ':' body).mapM (wholeIn 10)
      else wholeIn 10 body
  return if negative then -n else n

def floatOf (cs : List Char) : Except Unread Double :=
  match Literal.float? cs with
  | some x => .ok x
  | none => .error (.ofUnreadable (.float (String.ofList cs)))

/-- The sum of parts in base sixty, the lowest first, each rounded. -/
def sumSixties : Int → Double → List Double → Except Unread Double
  | _, sofar, [] => .ok sofar
  | base, sofar, part :: rest =>
    match Double.ofInt? base with
    | none => .error (.failure .intTooLarge)
    | some b => sumSixties (base * 60) (sofar.add (part.mul b)) rest

def negated (x : Double) : Double := x.mul (.ofRatio true 1 1)

/-- A float, which may have parts in base sixty. -/
def float (s : List Char) : Except Unread Double := do
  let cs := (s.filter (· ≠ '_')).map Char.toLower
  let (negative, body) ←
    match cs with
    | [] => noCharacter
    | '-' :: rest => pure (true, rest)
    | '+' :: rest => pure (false, rest)
    | cs => pure (false, cs)
  if body = ".inf".toList then return .infinity negative
  if body = ".nan".toList then return Double.quietNaN
  let x ←
    if body.contains ':' then do
      let parts ← (Tag.splitAt ':' body).mapM floatOf
      sumSixties 1 (.ofRatio false 0 1) parts.reverse
    else floatOf body
  return if negative then negated x else x

def truth (s : String) : Except Unread Bool :=
  let word := s.toLower
  if ["yes", "true", "on"].contains word then .ok true
  else if ["no", "false", "off"].contains word then .ok false
  else .error (.failure (.noKey word))

/-- The digits of a fraction of a second as microseconds. -/
def micros (fraction : List Char) : Int :=
  let ds := fraction.take 6
  (ds ++ List.replicate (6 - ds.length) '0').foldl (fun n c => n * 10 + (c.toNat - 48 : Nat)) 0

def number (ds : List Char) : Int := ds.foldl (fun n c => n * 10 + (c.toNat - 48 : Nat)) 0

/-- A zone is less than a day away from the zero one. -/
def zoneOffset (negative : Bool) (hours minutes : Int) : Except Unread Int :=
  let seconds := hours * 3600 + minutes * 60
  let seconds := if negative then -seconds else seconds
  if seconds.natAbs < 86400 then .ok seconds
  else .error (.ofUnreadable (.calendar (.offset (.ofParts 0 seconds 0))))

def calendar {α : Type} (x : Except CalendarFault α) : Except Unread α :=
  x.mapError fun why => .ofUnreadable (.calendar why)

def moment (s : List Char) : Except Unread Value :=
  match Tag.moment? s with
  | none => .error (.failure (.noAttribute "NoneType" "groupdict"))
  | some w => do
    let (y, m, d) := (number w.year, number w.month, number w.day)
    match w.time with
    | none => return .date (← calendar (Date.checked y m d))
    | some (hour, minute, second, fraction) =>
      let offset ←
        match w.zone with
        | none => pure none
        | some none => pure (some 0)
        | some (some (negative, hours, minutes)) =>
          some <$> zoneOffset negative (number hours) (number minutes)
      return .moment (← calendar (Moment.checked
        ⟨y, m, d, number hour, number minute, number second, micros fraction, offset⟩))

/-- Bytes; their text is ASCII. -/
def bytes (s : List Char) : Except Unread Value :=
  match (if s.all (·.toNat < 0x80) then base64Bytes? 0 0 0 s else none) with
  | some data => .ok (.bytes .frozen data)
  | none => .error .malformed

/-- The value of a scalar of a kind; a collection and what no kind knows have none. -/
def ofTag (t : Tag) (s : String) : Except Unread Value :=
  match t with
  | .null => .ok .null
  | .truth => .bool <$> truth s
  | .whole => .int <$> whole s.toList
  | .float => .float <$> float s.toList
  | .moment => moment s.toList
  | .text => .ok (.ofText s)
  | .bytes => bytes s.toList
  | .items | .pairs | .names | .entries | .merge | .scalarKey | .unknown => .error .malformed

end ScalarValue

end ForeignBridge.Yaml
