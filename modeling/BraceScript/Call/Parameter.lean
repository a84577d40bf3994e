import BraceScript.Error
import BraceScript.Text.Decimal

namespace BraceScript

/-- What a handler receives for an argument: its value, code that it runs itself, or source text
that is never run. -/
inductive Mode where
  | eager
  | deferred
  | raw
deriving DecidableEq

inductive Arity where
  | required
  | optional (default : Option String)
  | repeated (least : Nat)
deriving DecidableEq

structure Parameter where
  name : String
  mode : Mode
  arity : Arity
deriving DecidableEq

namespace Parameter

def isRequired (p : Parameter) : Bool := p.arity == .required

def isOptional (p : Parameter) : Bool :=
  match p.arity with
  | .optional _ => true
  | _ => false

def default? (p : Parameter) : Option String :=
  match p.arity with
  | .optional text => text
  | _ => none

def repeat? (p : Parameter) : Option Nat :=
  match p.arity with
  | .repeated least => some least
  | _ => none

def least (p : Parameter) : Nat :=
  match p.arity with
  | .required => 1
  | .optional _ => 0
  | .repeated least => least

def render (p : Parameter) : String :=
  match p.arity with
  | .repeated _ => p.name ++ "..."
  | .optional _ => "[" ++ p.name ++ "]"
  | .required => "<" ++ p.name ++ ">"

def countBound : Nat := Nat.pow 2 64

/-- Adds the least numbers of arguments from left to right; none when a sum is not a count. -/
def total? (parameters : List Parameter) : Option Nat :=
  parameters.foldlM (fun n p ↦ if n + p.least < countBound then some (n + p.least) else none) 0

def isLetter (c : Char) : Bool := ('A' ≤ c && c ≤ 'Z') || ('a' ≤ c && c ≤ 'z')

def isNameChar (c : Char) : Bool := isLetter c || ('0' ≤ c && c ≤ '9') || c == '_'

def readMode : List Char → Mode × List Char
  | '~' :: text => (.deferred, text)
  | '!' :: text => (.raw, text)
  | text => (.eager, text)

inductive ArityMark where
  | none
  | optional
  | any
  | atLeast (digits : List Char)
deriving DecidableEq

def readArity : List Char → ArityMark × List Char
  | '?' :: text => (.optional, text)
  | '*' :: text => (.any, text)
  | '+' :: text => (.atLeast (text.takeWhile Text.isDecimal), text.dropWhile Text.isDecimal)
  | text => (.none, text)

def readDefault : List Char → Option (Option String)
  | [] => some none
  | ':' :: text => if text.contains '\n' then none else some (some (String.ofList text))
  | _ => none

def leastOf? (digits : List Char) : Option Nat :=
  if digits.isEmpty then some 1
  else if digits.all fun c ↦ '0' ≤ c && c ≤ '9' then
    let n := digits.foldl (fun n c ↦ 10 * n + (c.toNat - '0'.toNat)) 0
    if n < countBound then some n else none
  else none

def arityOf (mark : ArityMark) (default : Option String) : Except PatternFault Arity :=
  match mark with
  | .none => .ok (match default with | none => .required | some text => .optional (some text))
  | .optional => .ok (.optional default)
  | .any => if default.isSome then .error .repeatedWithDefault else .ok (.repeated 0)
  | .atLeast digits =>
    match leastOf? digits with
    | none => .error .minimumTooLarge
    | some n => if default.isSome then .error .repeatedWithDefault else .ok (.repeated n)

def split? (text : List Char) : Option (Mode × String × ArityMark × Option String) :=
  let (mode, text) := readMode text
  let name := text.takeWhile isNameChar
  let (mark, rest) := readArity (text.dropWhile isNameChar)
  match name with
  | [] => none
  | c :: _ =>
    if isLetter c then (readDefault rest).map fun default ↦ (mode, String.ofList name, mark, default)
    else none

def ofPattern (pattern : String) : Except BuildError Parameter :=
  match split? pattern.toList with
  | none => .error (.invalidParameter pattern .malformed)
  | some (mode, name, mark, default) =>
    match arityOf mark default with
    | .error fault => .error (.invalidParameter pattern fault)
    | .ok arity => .ok ⟨name, mode, arity⟩

end Parameter

end BraceScript
