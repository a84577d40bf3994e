namespace BraceScript.Regex

inductive TemplatePart where
  | char (c : Char)
  | group (name : String)
deriving DecidableEq

def isReferenceChar (c : Char) : Bool := c.isAlphanum || c == '_'

/-- Reads a template. A reference is a dollar sign before a name, which may stand in braces; two
dollar signs are one, and any other dollar sign stands for itself. -/
def readTemplate : (fuel : Nat) → List Char → List TemplatePart
  | 0, _ | _, [] => []
  | fuel + 1, '$' :: '$' :: rest => .char '$' :: readTemplate fuel rest
  | fuel + 1, '$' :: '\x7b' :: rest =>
    match rest.dropWhile (· ≠ '\x7d') with
    | [] => .char '$' :: readTemplate fuel ('\x7b' :: rest)
    | _ :: after =>
      .group (String.ofList (rest.takeWhile (· ≠ '\x7d'))) :: readTemplate fuel after
  | fuel + 1, '$' :: rest =>
    match rest.takeWhile isReferenceChar with
    | [] => .char '$' :: readTemplate fuel rest
    | name => .group (String.ofList name) :: readTemplate fuel (rest.dropWhile isReferenceChar)
  | fuel + 1, c :: rest => .char c :: readTemplate fuel rest

def groupNumber? (name : String) : Option Nat :=
  let digits :=
    match name.toList with
    | '+' :: digits => digits
    | digits => digits
  if digits.isEmpty || !digits.all Char.isDigit then none
  else
    let n := digits.foldl (fun n c ↦ n * 10 + (c.toNat - '0'.toNat)) 0
    if n < Nat.pow 2 64 then some n else none

end BraceScript.Regex
