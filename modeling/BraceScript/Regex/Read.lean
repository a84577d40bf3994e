import BraceScript.Regex.Bracket
import BraceScript.Unicode.Lookup

namespace BraceScript.Regex

open Text (isBlank)

def flag? : Char → Option Flag
  | 'i' => some .ignoreCase
  | 'm' => some .multiLine
  | 's' => some .dotAll
  | 'U' => some .swapGreed
  | 'u' => some .unicode
  | 'R' => some .crlf
  | 'x' => some .verbose
  | _ => none

/-- Reads switches up to the `:` or `)` that ends them. The switches after a dash are turned off.
None may be named twice, there is at most one dash, and it does not come last. -/
def readFlags (on : Bool) (dangling : Bool) (changes : FlagChanges) :
    List Char → Option (FlagChanges × List Char)
  | [] => none
  | c :: rest =>
    if c = ':' || c = ')' then if dangling then none else some (changes.reverse, c :: rest)
    else if c = '-' then if on then readFlags false true changes rest else none
    else
      match flag? c with
      | some f =>
        if changes.any (·.1 = f) then none else readFlags on false ((f, on) :: changes) rest
      | none => none

def verboseAfter (changes : FlagChanges) (verbose : Bool) : Bool :=
  match changes.find? (·.1 = .verbose) with
  | some (_, on) => on
  | none => verbose

def isNameStart (c : Char) : Bool := c == '_' || Unicode.alphabetic.contains c

def isNameChar (c : Char) : Bool :=
  c == '_' || c == '.' || c == '[' || c == ']' || Unicode.alphabetic.contains c ||
    Unicode.numbers.contains c

def readName (text : List Char) : Option (String × List Char) :=
  match text.takeWhile (· ≠ '>'), text.dropWhile (· ≠ '>') with
  | c :: name, _ :: rest =>
    if isNameStart c && name.all isNameChar then some (String.ofList (c :: name), rest) else none
  | _, _ => none

def readCount (verbose : Bool) (text : List Char) : Option Nat × List Char :=
  let (digits, rest) := spanSkipping verbose (·.isDigit) false (text.dropWhile isBlank)
  let value := digits.foldl (fun n c ↦ n * 10 + (c.toNat - '0'.toNat)) 0
  let rest := if verbose then skip verbose rest else rest.dropWhile isBlank
  (if digits.isEmpty || Nat.pow 2 32 ≤ value then none else some value, rest)

def readBounds (verbose : Bool) (text : List Char) : Option (Nat × Option Nat × List Char) :=
  match readCount verbose (skip verbose text) with
  | (some least, ',' :: rest) =>
    match skip verbose rest with
    | '\x7d' :: rest => some (least, none, rest)
    | text =>
      match readCount verbose text with
      | (some most, '\x7d' :: rest) => if least ≤ most then some (least, some most, rest) else none
      | _ => none
  | (some count, '\x7d' :: rest) => some (count, some count, rest)
  | _ => none

/-- A group that is open, with what came before it in the group around it, latest first. -/
structure OpenGroup where
  kind : GroupKind
  parts : List Pattern
  branches : List Pattern
  verbose : Bool

/-- A pattern under way: the parts of the branch, the complete branches and the groups around them,
latest first. -/
structure PatternReader where
  parts : List Pattern := []
  branches : List Pattern := []
  enclosing : List OpenGroup := []
  verbose : Bool
  groups : Nat := 0
  names : List String := []

namespace PatternReader

def add (r : PatternReader) (p : Pattern) : PatternReader := { r with parts := p :: r.parts }

def body (r : PatternReader) : Pattern :=
  .ofBranches (.ofParts r.parts.reverse :: r.branches).reverse

def openGroup (r : PatternReader) (kind : GroupKind) (verbose : Bool) : PatternReader :=
  { r with
    parts := [], branches := [], verbose
    enclosing := ⟨kind, r.parts, r.branches, r.verbose⟩ :: r.enclosing }

def openCapture (r : PatternReader) (name : Option String) : PatternReader :=
  { r.openGroup (.capture (r.groups + 1) name) r.verbose with
    groups := r.groups + 1
    names := name.toList ++ r.names }

def openNamed (r : PatternReader) (text : List Char) : Option (PatternReader × List Char) := do
  let (name, rest) ← readName text
  if r.names.contains name then none else return (r.openCapture (some name), rest)

/-- Reads what follows an opening parenthesis. Look-around has no meaning here. -/
def readGroup (r : PatternReader) (text : List Char) : Option (PatternReader × List Char) :=
  match skip r.verbose text with
  | '?' :: '<' :: '=' :: _ | '?' :: '<' :: '!' :: _ => none
  | '?' :: 'P' :: '<' :: rest | '?' :: '<' :: rest => r.openNamed rest
  | '?' :: rest =>
    match readFlags true false [] rest with
    | some (changes, ')' :: rest) =>
      if changes.isEmpty then none
      else some ({ r.add (.flags changes) with verbose := verboseAfter changes r.verbose }, rest)
    | some (changes, _ :: rest) =>
      some (r.openGroup (.plain changes) (verboseAfter changes r.verbose), rest)
    | _ => none
  | rest => some (r.openCapture none, rest)

def closeGroup (r : PatternReader) : Option PatternReader :=
  match r.enclosing with
  | [] => none
  | g :: enclosing =>
    some { r with
      parts := .group g.kind r.body :: g.parts, branches := g.branches, verbose := g.verbose
      enclosing }

/-- Repeats the last part. A question mark after the bounds makes it prefer fewer rounds. -/
def repeatLast (r : PatternReader) (least : Nat) (most : Option Nat) (text : List Char) :
    Option (PatternReader × List Char) :=
  match r.parts with
  | [] => none
  | p :: parts =>
    if p.isRepeatable then
      match text with
      | '?' :: rest => some ({ r with parts := .repetition least most false p :: parts }, rest)
      | _ => some ({ r with parts := .repetition least most true p :: parts }, text)
    else none

def step (r : PatternReader) (c : Char) (rest : List Char) : Option (PatternReader × List Char) :=
  match c with
  | '(' => r.readGroup rest
  | ')' => r.closeGroup.map fun r ↦ (r, rest)
  | '|' => some ({ r with parts := [], branches := .ofParts r.parts.reverse :: r.branches }, rest)
  | '[' => (readBracketed r.verbose rest).map fun p ↦ (r.add p.1, p.2)
  | '?' => r.repeatLast 0 (some 1) rest
  | '*' => r.repeatLast 0 none rest
  | '+' => r.repeatLast 1 none rest
  | '\x7b' => do
    let (least, most, rest) ← readBounds r.verbose rest
    r.repeatLast least most (skip r.verbose rest)
  | '\\' => (readEscape r.verbose rest).map fun p ↦ (r.add (.atom p.1), p.2)
  | '.' => some (r.add (.atom .dot), rest)
  | '^' => some (r.add (.atom (.anchor .lineStart)), rest)
  | '$' => some (r.add (.atom (.anchor .lineEnd)), rest)
  | c => some (r.add (.atom (.literal ⟨c, false⟩)), rest)

/-- Reads the rest of a pattern. Every step reads a character, so the length of the text bounds the
steps. -/
def run : (fuel : Nat) → PatternReader → List Char → Option Pattern
  | 0, _, _ => none
  | fuel + 1, r, text =>
    match skip r.verbose text with
    | [] => if r.enclosing.isEmpty then some r.body else none
    | c :: rest => do
      let (r, rest) ← r.step c rest
      run fuel r rest

end PatternReader

def maxDepth : Nat := 64

def readPattern (verbose : Bool) (text : String) : Option Pattern := do
  let chars := text.toList
  let p ← PatternReader.run (chars.length + 1) { verbose } chars
  if p.depth ≤ maxDepth then some p else none

end BraceScript.Regex
