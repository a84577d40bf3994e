import BraceScript.Run.Script
import BraceScript.Text.Search

namespace BraceScript.Subtags

def operation? (operator : String) : Option (Double → Double → Double) :=
  if operator = "+" then some .add
  else if operator = "-" then some .sub
  else if operator = "*" then some .times
  else if operator = "/" then some .dividedBy
  else if operator = "%" then some .rem
  else if operator = "^" then some .pow
  else none

def math (c : Invocation) : Action (Option String) := do
  let operator := Text.trim (← Action.value 0)
  let apply ← Action.ofOption (.invalidOperator operator) (operation? operator)
  let texts ← Action.values 1
  match ← Action.settle (texts.mapM c.number) with
  | [] => return none
  | first :: rest =>
    let result := rest.foldl apply first
    if result.isFinite then return some result.format else throw .notFinite

def regexTest (c : Invocation) : Action (Option String) := do
  let text ← Action.value 0
  let source ← Action.value 1
  let regex ← Action.settle (c.plugins.regex source)
  return some (if regex.isMatch text then "true" else "false")

/-- Every match is replaced when the source starts with a slash and has a `g` after its last slash,
otherwise only the first one. -/
def regexReplace (c : Invocation) : Action (Option String) := do
  let text ← Action.value 0
  let source ← Action.value 1
  let replacement ← Action.value 2
  let regex ← Action.settle (c.plugins.regex source)
  return some (regex.replace (Regex.replacesAll source) text replacement)

def lower (_ : Invocation) : Action (Option String) := do
  return some (Text.lower (← Action.value 0))

def mathDeclaration : Declaration Handler where
  id := "math"
  category := .math
  description := "Folds numbers with an operator."
  signatures := [
    (["operator", "values+"],
      "Applies `operator` (+, -, *, /, %, ^) left to right across `values`.", .script math)]

def regextestDeclaration : Declaration Handler where
  id := "regextest"
  category := .text
  description := "Tests text against a regular expression."
  signatures := [
    (["text", "regex"], "Returns whether `regex` (`/pattern/flags`) matches `text`.",
      .script regexTest)]

def regexreplaceDeclaration : Declaration Handler where
  id := "regexreplace"
  category := .text
  description := "Replaces regular expression matches."
  signatures := [
    (["text", "regex", "replacement"],
      "Replaces matches of `regex` in `text`. Only the first match is replaced unless the `g` flag is set.",
      .script regexReplace)]

def lowerDeclaration : Declaration Handler where
  id := "lower"
  category := .text
  signatures := [(["text"], "Lower-cases `text`.", .script lower)]

def computationDeclarations : List (Declaration Handler) :=
  [mathDeclaration, regextestDeclaration, regexreplaceDeclaration, lowerDeclaration]

end BraceScript.Subtags
