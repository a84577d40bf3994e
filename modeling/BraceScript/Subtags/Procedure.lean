import BraceScript.Subtags.Data
import BraceScript.Text.Search

namespace BraceScript.Subtags

def callLead : String := "func."

def functionName (text : String) : String :=
  let name := Text.lower (Text.trim text)
  (Text.after? callLead name).getD name

def defineFunction (_ : Invocation) : Action (Option String) := do
  let name := functionName (← Action.value 0)
  if name.isEmpty then throw (.custom "Must provide a name")
  Action.define name 1
  return none

def callFunction (c : Invocation) : Action (Option String) := do
  let name := (Text.after? callLead c.name).getD ""
  if ← Action.hasFunction name then
    let params ← Action.values 0
    return some (← Action.activate name params)
  else throw (.notFound "function" name)

def allParams (_ : Invocation) : Action (Option String) := do
  let frame ← Action.frame
  return some (Value.list (frame.params.map .text)).print

def param (c : Invocation) : Action (Option String) := do
  let position ← c.integer (← Action.value 0)
  let frame ← Action.frame
  return some (← element frame.params position "params")

def functionDeclaration : Declaration Handler where
  id := "function"
  category := .functions
  aliases := ["func"]
  description := "Defines a function for the rest of the execution."
  signatures := [
    (["name", "!code"], "Stores `code` so that `\x7bfunc.name\x7d` runs it.",
      .script defineFunction)]

def callDeclaration : Declaration Handler where
  id := callLead
  category := .functions
  family := true
  description := "Calls a function defined with `\x7bfunction\x7d`."
  signatures := [
    (["args*"], "Runs the function body in a new scope with `args` as its parameters.",
      .script callFunction)]

def paramsDeclaration : Declaration Handler where
  id := "params"
  category := .functions
  description := "Reads the arguments of the current function call."
  signatures := [
    ([], "Returns every parameter as an array.", .script allParams),
    (["index"], "Returns the parameter at the zero-based `index`.", .script param)]

def procedureDeclarations : List (Declaration Handler) :=
  [functionDeclaration, callDeclaration, paramsDeclaration]

end BraceScript.Subtags
