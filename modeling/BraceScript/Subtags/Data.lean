import BraceScript.Run.Script

namespace BraceScript.Subtags

/-- An array and the variable that holds it, if it was given by name. -/
structure Listing where
  items : List Value
  name? : Option String

def resolveArray (text : String) : Action Listing :=
  match Value.items? text with
  | some items => pure ⟨items, none⟩
  | none => do
    let name := Text.trim text
    match (← Action.getVariable name).bind Value.asItems? with
    | some items => return ⟨items, some name⟩
    | none => throw (.notAnArray text)

def get (_ : Invocation) : Action (Option String) := do
  let name ← Action.value 0
  return (← Action.getVariable name).map Value.render

/-- No value removes the variable, one is stored as what its text stands for and several as an
array of texts. -/
def set (_ : Invocation) : Action (Option String) := do
  let name ← Action.value 0
  match ← Action.values 1 with
  | [] => Action.resetVariable name
  | [text] => Action.setVariable name (.ofText text)
  | texts => Action.setVariable name (.list (texts.map .text))
  return none

def nothing (_ : Invocation) : Action (Option String) := pure none

def shuffle (_ : Invocation) : Action (Option String) := do
  let array ← resolveArray (← Action.value 0)
  let items ← Action.shuffle array.items
  match array.name? with
  | some name =>
    Action.setVariable name (.list items)
    return none
  | none => return some (Value.list items).print

def length (_ : Invocation) : Action (Option String) := do
  let text ← Action.value 0
  return some (toString (match Value.items? text with
    | some items => items.length
    | none => text.length))

def element {α : Type} (items : List α) (index : Int) (what : String) : Action α :=
  Action.ofOption (.outOfRange index what items.length)
    (if 0 ≤ index then items[index.toNat]? else none)

def index (c : Invocation) : Action (Option String) := do
  let array ← resolveArray (← Action.value 0)
  let position ← c.integer (← Action.value 1)
  return some (← element array.items position "length").render

def join (_ : Invocation) : Action (Option String) := do
  let array ← resolveArray (← Action.value 0)
  let separator ← Action.value 1
  return some (separator.intercalate (array.items.map Value.render))

def getDeclaration : Declaration Handler where
  id := "get"
  category := .variables
  description := "Reads a variable. The prefix of the name picks its scope."
  signatures := [
    (["name"], "Returns the stored value of `name`, or nothing if it is unset.", .script get)]

def setDeclaration : Declaration Handler where
  id := "set"
  category := .variables
  description := "Writes a variable. The prefix of the name picks its scope."
  signatures := [
    (["name", "values*"],
      "Resets `name` when no value is given, stores a single value as is and several as an array.",
      .script set)]

def shuffleDeclaration : Declaration Handler where
  id := "shuffle"
  category := .arrays
  description := "Shuffles an array."
  signatures := [
    ([], "Returns nothing.", .script nothing),
    (["array"],
      "Returns a literal array shuffled, or shuffles the array held by a variable in place.",
      .script shuffle)]

def lengthDeclaration : Declaration Handler where
  id := "length"
  category := .arrays
  description := "Counts array elements, or characters of text."
  signatures := [(["value"], "Returns the length of `value`.", .script length)]

def indexDeclaration : Declaration Handler where
  id := "index"
  category := .arrays
  description := "Reads one array element."
  signatures := [
    (["array", "index"], "Returns the element of `array` at the zero-based `index`.",
      .script index)]

def joinDeclaration : Declaration Handler where
  id := "join"
  category := .arrays
  description := "Joins array elements into text."
  signatures := [
    (["array", "separator"], "Joins the elements of `array` with `separator`.", .script join)]

def dataDeclarations : List (Declaration Handler) :=
  [getDeclaration, setDeclaration, shuffleDeclaration, lengthDeclaration, indexDeclaration,
    joinDeclaration]

end BraceScript.Subtags
