import BraceScript.Run.Script

namespace BraceScript.Subtags

def setQuiet (c : Invocation) : Action (Option String) := do
  let quiet ← c.boolean (← Action.value 0) true
  Action.setQuiet quiet
  return none

def clearFallback (_ : Invocation) : Action (Option String) := do
  Action.setFallback none
  return none

def setFallback (_ : Invocation) : Action (Option String) := do
  let text ← Action.value 0
  Action.setFallback (some text)
  return none

def constant (text : String) (_ : Invocation) : Action (Option String) := pure (some text)

def escape (_ : Invocation) : Action (Option String) := do
  return some (";".intercalate (← Action.sources 0))

def constantDeclaration (id text description : String) : Declaration Handler :=
  { id
    category := .escapes
    description
    signatures := [([], description, .script (constant text))] }

def quietDeclaration : Declaration Handler where
  id := "quiet"
  category := .scope
  description := "Sets whether lookups in the current scope suppress their error output."
  signatures := [
    (["value?"], "Sets the quiet flag; an empty `value` means true.", .script setQuiet)]

def fallbackDeclaration : Declaration Handler where
  id := "fallback"
  category := .scope
  description := "Sets the text shown in place of failed calls in the current scope."
  signatures := [
    ([], "Clears the fallback.", .script clearFallback),
    (["value"], "Sets the fallback to `value`.", .script setFallback)]

def lbDeclaration : Declaration Handler := constantDeclaration "lb" "\x7b" "Returns `\x7b`."

def rbDeclaration : Declaration Handler := constantDeclaration "rb" "\x7d" "Returns `\x7d`."

def semiDeclaration : Declaration Handler := constantDeclaration "semi" ";" "Returns `;`."

def escapebbtagDeclaration : Declaration Handler where
  id := "escapebbtag"
  category := .escapes
  aliases := ["escape"]
  description := "Returns its arguments as source text without running them."
  signatures := [(["!code*"], "Returns `code` verbatim.", .script escape)]

def presentationDeclarations : List (Declaration Handler) :=
  [quietDeclaration, fallbackDeclaration, lbDeclaration, rbDeclaration, semiDeclaration,
    escapebbtagDeclaration]

end BraceScript.Subtags
