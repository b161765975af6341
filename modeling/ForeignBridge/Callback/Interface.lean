import ForeignBridge.Wire.Shape
import ForeignBridge.Failure
import ForeignBridge.Number.Sum
import ForeignBridge.Value.Equal

/-!
Callback interfaces and their implementations. An interface lists its methods in the order of its
vtable. An implementation is described by what each of its attributes does when it is called; it may
keep a count of calls or a sum, so it has a state.
-/

namespace ForeignBridge

structure CallbackMethod where
  name : String
  arguments : List Shape
  returns : Option Shape
  errors : Option Shape
  /-- the attribute that implements the method, if it has another name -/
  otherName : Option String
deriving Inhabited

/-- The attribute of an implementation that is called for the method. -/
def CallbackMethod.implementedBy (m : CallbackMethod) : String := (m.otherName.bind named).getD m.name

structure CallbackInterface where
  name : String
  methods : List CallbackMethod
deriving Inhabited

namespace CallbackInterface

def required (i : CallbackInterface) : List String := i.methods.map (·.implementedBy)

def method? (i : CallbackInterface) (name : String) : Option CallbackMethod :=
  i.methods.find? (·.name == name)

inductive Slot
  | dispatch
  | free
deriving DecidableEq, Repr

/-- The name of the function in a vtable that frees a handle. -/
def freeName : String := "free"

/-- The vtable: a function for each method, and one that frees a handle. -/
def vtable (i : CallbackInterface) : List (String × Slot) :=
  i.methods.map (fun m => (m.name, .dispatch)) ++ [(freeName, .free)]

end CallbackInterface

inductive Action
  | returns (value : Value)
  | raises (value : Value)
  /-- one of its arguments; a negative index counts from the end -/
  | echo (index : Int)
  | countCalls
  /-- the sum of the last arguments of all calls -/
  | sum

structure Behaviour where
  /-- what is raised if the last argument is negative -/
  onNegative : Option Value
  action : Action

inductive Attribute
  | method (behaviour : Behaviour) (calls : Nat) (total : Value)
  | constant (value : Value)

structure Implementation where
  cls : String
  attributes : List (String × Attribute)
deriving Inhabited

namespace Implementation

/-- The names of the attributes that can be called. -/
def callable (p : Implementation) : List String :=
  p.attributes.filterMap fun a =>
    match a.2 with
    | .method .. => some a.1
    | .constant _ => none

/-- Whether a value is a number less than zero. -/
def isNegative (v : Value) : Except Failure Bool :=
  match v, v.wholeNumber? with
  | .float x, _ => .ok (x.isNegative && !x.isZero && !x.isNaN)
  | _, some i => .ok (i < 0)
  | v, none => .error (.mismatch (.arguments
      s!"'<' not supported between instances of '{v.qualifiedTypeName}' and 'int'"))

def asDouble (v : Value) : Except Failure (Option Double) :=
  match v, v.wholeNumber? with
  | .float x, _ => .ok (some x)
  | _, some i => (Double.ofInt? i).elim (.error .intTooLarge) (.ok ∘ some)
  | _, none => .ok none

/-- A total with a value added to it; a float on either side makes it one. -/
def plus (total v : Value) : Except Failure Value := do
  match total.wholeNumber?, v.wholeNumber? with
  | some a, some b => return .int (a + b)
  | _, _ =>
    match ← asDouble total, ← asDouble v with
    | some a, some b => return .float (a.add b)
    | _, _ => throw (.mismatch (.cannotAdd total.qualifiedTypeName v.qualifiedTypeName))

def argument (args : List Value) (i : Int) : Except Failure Value :=
  let place := if i < 0 then i + args.length else i
  ((if 0 ≤ place then args[place.toNat]? else none)).elim (.error (.pastEnd "tuple")) .ok

/-- Calls a method: its result, and the method after the call. -/
def Behaviour.run (b : Behaviour) (calls : Nat) (total : Value) (args : List Value) :
    Except Failure Value × Attribute :=
  let calls := calls + 1
  let outcome : Except Failure (Value × Value) := do
    if let some v := b.onNegative then
      if ← isNegative (← argument args (-1)) then throw (.raising v)
    match b.action with
    | .returns v => return (v, total)
    | .raises v => throw (.raising v)
    | .echo i => return (← argument args i, total)
    | .countCalls => return (.int calls, total)
    | .sum =>
      let sum ← plus total (← argument args (-1))
      return (sum, sum)
  match outcome with
  | .ok (v, total) => (.ok v, .method b calls total)
  | .error f => (.error f, .method b calls total)

def call (p : Implementation) (name : String) (args : List Value) :
    Except Failure Value × Implementation :=
  match Value.lookup name p.attributes with
  | none => (.error (.noAttribute p.cls name), p)
  | some (.constant v) => (.error (.mismatch (.notCallable v.qualifiedTypeName)), p)
  | some (.method b calls total) =>
    let (r, after) := Behaviour.run b calls total args
    (r, { p with attributes := Value.put name after p.attributes })

end Implementation

end ForeignBridge
