import ForeignBridge.Memory.Allocator

/-!
Calls of native functions. The status that a function leaves becomes a result, a declared error, or a
failure, and a failed call is logged under the function's name.
-/

namespace ForeignBridge

/-- A native function: its name, and what it does with its arguments. -/
structure NativeFunction where
  name : String
  run : List Value → Act (Value × CallStatus)

namespace NativeFunction

def describe (name : String) : String := if name.isEmpty then "<anonymous native fn>" else name

/-- A function that leaves an outcome and returns a value. -/
def scripted (name : String) (result : Value) (o : NativeOutcome) : NativeFunction :=
  { name := describe name,
    run := fun _ => do
      let s ← writeOutcome o
      return (result, s) }

end NativeFunction

inductive CallOutcome
  | ok (value : Value)
  | err (error : Value)

/-- Calls a function and gives its result or its declared error. -/
def Allocator.invoke (a : Allocator) (f : NativeFunction) (args : List Value) (errors : Option Shape) :
    Act CallOutcome := do
  let (result, status) ← f.run args
  match ← World.onFailure (a.settle errors status) (noteFailedCall f.name) with
  | some error => return .err error
  | none => return .ok result

/-- Calls a function; a declared error is raised. -/
def Allocator.call (a : Allocator) (f : NativeFunction) (args : List Value) (errors : Option Shape) :
    Act Value := do
  match ← a.invoke f args errors with
  | .ok value => return value
  | .err error => throw (.raising error)

end ForeignBridge
