import BraceScript.Call.Definition
import BraceScript.Source.Statement

namespace BraceScript

inductive ArgumentSource where
  | code (statement : Statement)
  | default (text : String)

/-- An argument of a parameter, and its value once it has been evaluated. -/
structure Argument where
  parameter : Parameter
  source : ArgumentSource
  value? : Option String := none

namespace Argument

def supplied (p : Parameter) (s : Statement) : Argument := { parameter := p, source := .code s }

def omitted (p : Parameter) : Argument := { parameter := p, source := .default (p.default?.getD "") }

def statement? (a : Argument) : Option Statement :=
  match a.source with
  | .code s => some s
  | .default _ => none

def isSupplied (a : Argument) : Bool := a.statement?.isSome

def span? (a : Argument) : Option Span := a.statement?.map Statement.span

def raw (a : Argument) : String :=
  match a.source with
  | .code s => s.print
  | .default text => text

def isEager (a : Argument) : Bool := a.parameter.mode == .eager && a.isSupplied

end Argument

structure Arguments where
  parameters : List Parameter
  slots : List (List Argument)

namespace Arguments

def all (a : Arguments) (i : Nat) : List Argument := a.slots.getD i []

def at? (a : Arguments) (i j : Nat) : Option Argument := (a.all i)[j]?

def get? (a : Arguments) (i : Nat) : Option Argument := a.at? i 0

def place? (a : Arguments) (name : String) : Option Nat := a.parameters.findIdx? (·.name = name)

def named? (a : Arguments) (name : String) : Option Argument := (a.place? name).bind a.get?

def size (a : Arguments) : Nat := (a.slots.map List.length).foldr (· + ·) 0

def keep (a : Arguments) (i j : Nat) (value : String) : Arguments :=
  { a with slots := a.slots.modify i fun slot ↦
      slot.modify j fun arg ↦ { arg with value? := some value } }

end Arguments

namespace Binding

variable {η : Type}

/-- Hands `supplied` out to `parameters` in order. Each required parameter takes one argument, and
`surplus` counts the arguments beyond the least number: an optional parameter takes one of them if
there are any, and a repeatable parameter takes all of them besides its least number. -/
def assign : List Parameter → Nat → List Statement → List (List Argument)
  | [], _, _ => []
  | p :: parameters, surplus, supplied =>
    match p.arity with
    | .required =>
      (supplied.take 1).map (Argument.supplied p) :: assign parameters surplus (supplied.drop 1)
    | .optional _ =>
      if 0 < surplus then
        (supplied.take 1).map (Argument.supplied p) ::
          assign parameters (surplus - 1) (supplied.drop 1)
      else [Argument.omitted p] :: assign parameters surplus supplied
    | .repeated least =>
      let share := least + surplus
      (supplied.take share).map (Argument.supplied p) :: assign parameters 0 (supplied.drop share)

/-- The error of a call whose number of arguments no signature accepts. It names the least number
of all, or else the greatest maximum below the given number. -/
def mismatch (signatures : List (Signature η)) (count : Nat) : Error :=
  let least := ((signatures.map Signature.least).min?).getD 0
  if count < least then .notEnoughArguments least count
  else
    let below := (signatures.filterMap Signature.greatest?).filter (· < count)
    .tooManyArguments (below.max?.getD least) count

def bind (signatures : List (Signature η)) (args : List Statement) :
    Except Error (Signature η × Arguments) :=
  match signatures.find? (·.accepts args.length) with
  | none => .error (mismatch signatures args.length)
  | some s => .ok (s, ⟨s.parameters, assign s.parameters (args.length - s.least) args⟩)

end Binding

end BraceScript
