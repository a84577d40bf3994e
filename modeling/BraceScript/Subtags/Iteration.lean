import BraceScript.Subtags.Data

namespace BraceScript.Subtags

/-- Runs one iteration and goes on with the output so far, or ends with it when the run has
stopped. -/
def iteration (body : Action String) (output : String) (next : String → Action String) :
    Action String := do
  if ← Action.isRunning then
    Action.iterate
    let text ← body
    next (output ++ text)
  else return output

/-- Runs `body` a number of times after `output`, telling it how often it ran before. -/
def times (body : Nat → Action String) : (count start : Nat) → String → Action String
  | 0, _, output => pure output
  | n + 1, i, output => iteration (body i) output fun output ↦ times body n (i + 1) output

def each {α : Type} (body : α → Action String) : List α → String → Action String
  | [], output => pure output
  | item :: items, output => iteration (body item) output fun output ↦ each body items output

def repeatCode (c : Invocation) : Action (Option String) := do
  let amount ← c.integer (← Action.value 1)
  if amount < 0 then throw .negativeAmount
  return some (← times (fun _ ↦ Action.again 0) amount.toNat 0 "")

/-- The loop variable is put back however the loop ends. An error of the loop wins over an error of
putting the variable back. -/
def forEach (_ : Invocation) : Action (Option String) := do
  let name ← Action.value 0
  let array ← resolveArray (← Action.value 1)
  let previous ← Action.getVariable name
  let body (item : Value) : Action String := do
    Action.setVariable name item
    Action.again 2
  let result ← Action.outcome (each body array.items "")
  let restored ← Action.restore name previous
  let output ← Action.settle result
  Action.settle restored
  return some output

def repeatDeclaration : Declaration Handler where
  id := "repeat"
  category := .loops
  aliases := ["loop"]
  description := "Runs code a number of times."
  signatures := [
    (["~code", "amount"], "Evaluates `code` `amount` times and joins the output.",
      .script repeatCode)]

def foreachDeclaration : Declaration Handler where
  id := "foreach"
  category := .loops
  description := "Runs code once per element of an array."
  signatures := [
    (["variable", "array", "~code"],
      "Sets `variable` to each element in turn and evaluates `code`. The variable is restored afterwards.",
      .script forEach)]

def iterationDeclarations : List (Declaration Handler) := [repeatDeclaration, foreachDeclaration]

end BraceScript.Subtags
