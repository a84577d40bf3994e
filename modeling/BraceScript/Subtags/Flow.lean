import BraceScript.Run.Script

namespace BraceScript.Subtags

/-- Evaluates `count` arguments of parameter `0` from `start` on, as long as the run is running. -/
def evaluateFrom (start : Nat) : Nat → Action Unit
  | 0 => pure ()
  | count + 1 => do
    if ← Action.isRunning then
      let _ ← Action.valueAt 0 start
      evaluateFrom (start + 1) count

def discard (_ : Invocation) : Action (Option String) := do
  let count ← Action.count 0
  evaluateFrom 0 count
  return none

def leave (c : Invocation) : Action (Option String) := do
  let forced ← c.boolean (← Action.value 0) false
  Action.leave forced
  return none

def tryCatch (_ : Invocation) : Action (Option String) := do
  match ← Action.attempt 0 with
  | some text => return some text
  | none => return some (← Action.value 1)

def raise (_ : Invocation) : Action (Option String) := do
  let message ← Action.value 0
  throw (.custom (if message.isEmpty then "A custom error occurred" else message))

def voidDeclaration : Declaration Handler where
  id := "void"
  category := .control
  description := "Runs code and discards its output."
  signatures := [
    (["~code*"], "Evaluates every argument and returns nothing.", .script discard)]

def returnDeclaration : Declaration Handler where
  id := "return"
  category := .control
  description := "Stops the current function, or the whole tag when forced."
  signatures := [
    (["force?"], "Returns from the nearest function, or ends everything if `force` is true.",
      .script leave)]

def tryDeclaration : Declaration Handler where
  id := "try"
  category := .control
  description := "Runs code and intercepts the errors it raises. Terminal errors still abort."
  signatures := [
    (["~code", "~catch?"], "Returns `code`, or `catch` if `code` raised an error.",
      .script tryCatch)]

def throwDeclaration : Declaration Handler where
  id := "throw"
  category := .control
  description := "Raises a custom error."
  signatures := [(["message?"], "Fails with `message`.", .script raise)]

def flowDeclarations : List (Declaration Handler) :=
  [voidDeclaration, returnDeclaration, tryDeclaration, throwDeclaration]

end BraceScript.Subtags
