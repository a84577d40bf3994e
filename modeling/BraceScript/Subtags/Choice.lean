import BraceScript.Subtags.Data
import BraceScript.Text.Search

namespace BraceScript.Subtags

/-- Runs the argument of parameter `slot` or, when the condition is false, of the next one. An
omitted argument gives nothing. -/
def branch (condition : Bool) (slot : Nat) : Action (Option String) := do
  let chosen := if condition then slot else slot + 1
  if ← Action.isSupplied chosen then return some (← Action.value chosen) else return none

def ifTrue (c : Invocation) : Action (Option String) := do
  let text ← Action.value 0
  let condition ← Action.ofOption (.notABoolean text) (c.plugins.boolean? text)
  branch condition 1

/-- Compares as numbers if both sides are numbers, and as texts otherwise. Numbers that do not
compare make every operator false. -/
def compareTexts (c : Invocation) (left operator right : String) : Except Error Bool :=
  let ordering := match c.number left, c.number right with
    | .ok l, .ok r => l.compare? r
    | _, _ => some (Text.order left right)
  match ordering with
  | none => .ok false
  | some ordering =>
    if operator = "==" then .ok ordering.isEq
    else if operator = "!=" then .ok ordering.isNe
    else if operator = "<" then .ok ordering.isLT
    else if operator = "<=" then .ok ordering.isLE
    else if operator = ">" then .ok ordering.isGT
    else if operator = ">=" then .ok ordering.isGE
    else if operator = "startswith" then .ok (Text.startsWith left right)
    else if operator = "endswith" then .ok (Text.endsWith left right)
    else if operator = "includes" then .ok (Text.holds left right)
    else .error (.invalidOperator operator)

def ifCompare (c : Invocation) : Action (Option String) := do
  let left ← Action.value 0
  let operator ← Action.value 1
  let right ← Action.value 2
  let condition ← Action.settle (compareTexts c left (Text.trim operator) right)
  branch condition 3

def choose (c : Invocation) : Action (Option String) := do
  let index ← c.integer (← Action.value 0)
  let count ← Action.count 1
  if 0 ≤ index && index < count then
    return some (← Action.valueAt 1 index.toNat)
  else throw (.outOfRange index "choices" count)

def chooseAtRandom (_ : Invocation) : Action (Option String) := do
  let count ← Action.count 0
  let index ← Action.pick count
  if index < count then
    return some (← Action.valueAt 0 index)
  else return none

def ifDeclaration : Declaration Handler where
  id := "if"
  category := .control
  description := "Runs one of two branches. Only the selected branch is evaluated."
  signatures := [
    (["condition", "~then", "~else?"], "Runs `then` if `condition` is true, else `else`.",
      .script ifTrue),
    (["left", "operator", "right", "~then", "~else?"],
      "Compares `left` and `right` with `operator` (==, !=, <, <=, >, >=, startswith, endswith, includes).",
      .script ifCompare)]

def chooseDeclaration : Declaration Handler where
  id := "choose"
  category := .control
  description := "Runs the choice at a zero-based index."
  signatures := [(["index", "~choices+"], "Evaluates only `choices[index]`.", .script choose)]

def randchooseDeclaration : Declaration Handler where
  id := "randchoose"
  category := .control
  description := "Runs one choice picked at random."
  signatures := [(["~choices+"], "Evaluates one random choice.", .script chooseAtRandom)]

def choiceDeclarations : List (Declaration Handler) :=
  [ifDeclaration, chooseDeclaration, randchooseDeclaration]

end BraceScript.Subtags
