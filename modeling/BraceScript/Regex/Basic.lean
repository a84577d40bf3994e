import BraceScript.Error
import BraceScript.Regex.Read
import BraceScript.Regex.Search
import BraceScript.Regex.Size
import BraceScript.Regex.Template

namespace BraceScript

open Regex (Program Match)

/-- A regular expression that is ready to run, with the names of its groups. -/
structure Regex where
  program : Program
  names : List (String × Nat)

namespace Regex

/-- The parts of `/pattern/flags`. The pattern ends at the last slash, and only small letters follow
it. -/
def literal? (source : String) : Option (String × List Char) :=
  match source.toList with
  | '/' :: rest =>
    let flags := (rest.reverse.takeWhile (· ≠ '/')).reverse
    match rest.reverse.dropWhile (· ≠ '/') with
    | _ :: pattern =>
      if flags.all Char.isLower then some (String.ofList pattern.reverse, flags) else none
    | [] => none
  | _ => none

/-- The switches of a literal. Whether a match is replaced everywhere is no matter of the
expression. -/
def readOptions (o : Options) (verbose : Bool) : List Char → Except Error (Options × Bool)
  | [] => .ok (o, verbose)
  | 'i' :: flags => readOptions { o with ignoreCase := true } verbose flags
  | 'm' :: flags => readOptions { o with multiLine := true } verbose flags
  | 's' :: flags => readOptions { o with dotAll := true } verbose flags
  | 'x' :: flags => readOptions o true flags
  | 'g' :: flags => readOptions o verbose flags
  | c :: _ => .error (.unsafeInput ("Unsupported regex flag `" ++ c.toString ++ "`"))

def unreadable (source : String) : String := "cannot read " ++ source

/-- Builds the expression written as `/pattern/flags`, or as a pattern alone, when its automata take
no more than `sizeLimit` bytes. What is wrong with one that cannot be read is put into words by
`explain`. -/
def build (explain : String → String) (sizeLimit : Nat) (source : String) : Except Error Regex := do
  let (pattern, flags) := (literal? source).getD (source, [])
  let (o, verbose) ← readOptions {} false flags
  let read := do
    let p ← readPattern verbose pattern
    return (p, (← p.toExpr o).1)
  match read with
  | none => .error (.unsafeInput ("Invalid regex: " ++ explain source))
  | some (p, e) =>
    if e.automatonSize ≤ sizeLimit then .ok ⟨e.compile, p.names⟩
    else .error (.unsafeInput "Unsafe regex detected")

/-- Whether every match is replaced: the source starts with a slash and has a `g` behind the last
one. -/
def replacesAll (source : String) : Bool :=
  match source.toList with
  | '/' :: rest => (rest.reverse.takeWhile (· ≠ '/')).contains 'g'
  | _ => false

def isMatch (r : Regex) (text : String) : Bool := (r.program.findFrom text.toList 0).isSome

def slice (text : List Char) (start stop : Nat) : List Char := (text.take stop).drop start

def groupIndex? (r : Regex) (name : String) : Option Nat :=
  match groupNumber? name with
  | some n => some n
  | none => r.names.lookup name

/-- The text of a template for a match. A group that is not there has no text. -/
def expand (r : Regex) (text : List Char) (m : Match) (template : List TemplatePart) : List Char :=
  template.flatMap fun
    | .char c => [c]
    | .group name =>
      match (r.groupIndex? name).bind m.group? with
      | some (start, stop) => slice text start stop
      | none => []

def substitute (r : Regex) (text : List Char) (template : List TemplatePart) (place : Nat) :
    List Match → List Char
  | [] => text.drop place
  | m :: found =>
    slice text place m.bounds.1 ++ r.expand text m template ++
      substitute r text template m.bounds.2 found

def replace (r : Regex) (all : Bool) (text replacement : String) : String :=
  let chars := text.toList
  let limit := if all then chars.length + 1 else 1
  let found := r.program.findAll chars (2 * chars.length + 3) limit 0 none
  let template := readTemplate (replacement.toList.length + 1) replacement.toList
  String.ofList (r.substitute chars template 0 found)

end Regex

end BraceScript
