import ForeignBridge.Document.Access
import ForeignBridge.Scenario.FailureForm
import ForeignBridge.Scenario.ValueForm

/-!
Answers to scenarios. A scenario has steps, each of which has a result: what it gives, or why it gives nothing.
-/

namespace ForeignBridge.Answer

open ValueForm

abbrev Entries := List (String × Value)

def obj : Entries → Value := .ofMembers

def arr (xs : List Value) : Value := .list xs

def txt (s : String) : Value := .text s

def num (i : Int) : Value := ofInteger i

def count (n : Nat) : Value := .int n

def names (xs : List String) : Value := arr (xs.map txt)

def failureEntries (f : Failure) : Entries := FailureForm.members f

def resultOf (r : Except Failure Value) : Value :=
  match r with
  | .ok v => obj [("ok", v)]
  | .error f => obj (failureEntries f)

def results (rs : List Value) : Value := obj [("results", arr rs)]

def steps (input : Value) : List Value := input.itemsField "steps"

def doing (step : Value) : String := step.textField "do"

inductive Stop
  | noObject (name : String)
  | failure (f : Failure)

def stopEntries : Stop → Entries
  | .noObject name => [("error", txt "NoObject"), ("message", txt name)]
  | .failure f => failureEntries f

/-- Why what a step holds cannot be read: it names something that is not there, or writes no value. -/
def unreadable? (n : Vocabulary) (step : Value) : Option Stop :=
  ((unknownName? n step).map .noObject).or ((fault? n step).map .failure)

/-- The result of a step that can be read. -/
def resultOnceRead (n : Vocabulary) (step : Value) (r : Except Failure Value) : Value :=
  match unreadable? n step with
  | some stop => obj (stopEntries stop)
  | none => resultOf r

end ForeignBridge.Answer
