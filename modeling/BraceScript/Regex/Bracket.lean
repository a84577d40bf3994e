import BraceScript.Regex.Escape

namespace BraceScript.Regex

open Unicode (CharSet)
open Text (isBlank)

def posixClass? : String → Option CharSet
  | "alnum" => some (.ofTable "30-39 41-5A 61-7A")
  | "alpha" => some (.ofTable "41-5A 61-7A")
  | "ascii" => some (.ofTable "0-7F")
  | "blank" => some (.ofTable "9 20")
  | "cntrl" => some (.ofTable "0-1F 7F")
  | "digit" => some (.ofTable "30-39")
  | "graph" => some (.ofTable "21-7E")
  | "lower" => some (.ofTable "61-7A")
  | "print" => some (.ofTable "20-7E")
  | "punct" => some (.ofTable "21-2F 3A-40 5B-60 7B-7E")
  | "space" => some (.ofTable "9-D 20")
  | "upper" => some (.ofTable "41-5A")
  | "word" => some (.ofTable "30-39 41-5A 5F 61-7A")
  | "xdigit" => some (.ofTable "30-39 41-46 61-66")
  | _ => none

def readPosix : List Char → Option (ClassBody × List Char)
  | ':' :: rest =>
    let (negated, rest) :=
      match rest with
      | '^' :: rest => (true, rest)
      | _ => (false, rest)
    match rest.dropWhile (· ≠ ':') with
    | ':' :: ']' :: after => do
      let s ← posixClass? (String.ofList (rest.takeWhile (· ≠ ':')))
      return (.posix s negated, after)
    | _ => none
  | _ => none

def Atom.member? : Atom → Option ClassBody
  | .dot | .anchor _ => none
  | a => some (.atom a)

def readMember (verbose : Bool) : List Char → Option (Atom × List Char)
  | [] => none
  | c :: rest => if c = '\\' then readEscape verbose rest else some (.literal ⟨c, false⟩, rest)

/-- The character that decides whether a dash before `text` makes a range. In a verbose pattern it
is the first one that is not blank, but for the sign that starts a comment. -/
def afterDash? (verbose : Bool) (text : List Char) : Option Char :=
  if verbose then
    match text.dropWhile isBlank with
    | [] => text.head?
    | '#' :: rest => (rest.dropWhile isBlank).head? <|> text.head?
    | c :: _ => some c
  else text.head?

def readRange (verbose : Bool) (text : List Char) : Option (ClassBody × List Char) := do
  let (first, rest) ← readMember verbose text
  match skip verbose rest with
  | [] => none
  | c :: rest =>
    let next := afterDash? verbose rest
    if c ≠ '-' || next = some ']' || next = some '-' then return (← first.member?, c :: rest)
    else
      let (last, rest) ← readMember verbose (skip verbose rest)
      match first, last with
      | .literal lo, .literal hi =>
        if lo.char ≤ hi.char then return (.range lo hi, rest) else none
      | _, _ => none

/-- Reads what may follow an opening bracket: a sign of negation, then dashes, or a closing bracket
that stands for itself. The items come latest first. -/
def readOpening (verbose : Bool) (text : List Char) : Option (Bool × List ClassBody × List Char) :=
  let (negated, text) :=
    match skip verbose text with
    | '^' :: rest => (true, skip verbose rest)
    | text => (false, text)
  let item (c : Char) : ClassBody := .atom (.literal ⟨c, false⟩)
  match spanSkipping verbose (· = '-') false text with
  | (_, []) => none
  | ([], ']' :: rest) =>
    match skip verbose rest with
    | [] => none
    | rest => some (negated, [item ']'], rest)
  | (dashes, rest) => some (negated, dashes.map item, rest)

inductive ClassFrame where
  | opened (negated : Bool) (outer : List ClassBody)
  | operation (op : SetOperation) (left : ClassBody)

def closeOperation (right : ClassBody) : List ClassFrame → ClassBody × List ClassFrame
  | .operation op left :: frames => (.combine op left right, frames)
  | frames => (right, frames)

def setOperation? : Char → Option Char → Option SetOperation
  | '&', some '&' => some .intersection
  | '-', some '-' => some .difference
  | '~', some '~' => some .symmetricDifference
  | _, _ => none

/-- Reads the rest of a set whose first bracket is open, with the items since the innermost frame
latest first. Every step reads a character, so the length of the text bounds the steps. -/
def readSet (verbose : Bool) : (fuel : Nat) → List ClassFrame → List ClassBody → List Char →
    Option (Bool × ClassBody × List Char)
  | 0, _, _, _ => none
  | fuel + 1, frames, items, text =>
    match skip verbose text with
    | [] => none
    | '[' :: rest =>
      match readPosix rest with
      | some (item, rest) => readSet verbose fuel frames (item :: items) rest
      | none => do
        let (negated, inner, rest) ← readOpening verbose rest
        readSet verbose fuel (.opened negated items :: frames) inner rest
    | ']' :: rest =>
      match closeOperation (.ofItems items.reverse) frames with
      | (body, [.opened negated _]) => some (negated, body, rest)
      | (body, .opened negated outer :: frames) =>
        readSet verbose fuel frames (.nested negated body :: outer) rest
      | _ => none
    | c :: rest =>
      match setOperation? c rest.head? with
      | some op =>
        let (left, frames) := closeOperation (.ofItems items.reverse) frames
        readSet verbose fuel (.operation op left :: frames) [] rest.tail
      | none => do
        let (item, rest) ← readRange verbose (c :: rest)
        readSet verbose fuel frames (item :: items) rest

def readBracketed (verbose : Bool) (text : List Char) : Option (Pattern × List Char) := do
  let (negated, items, rest) ← readOpening verbose text
  let (negated, body, rest) ← readSet verbose (rest.length + 1) [.opened negated []] items rest
  return (.bracketed negated body, rest)

end BraceScript.Regex
