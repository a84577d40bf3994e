import BraceScript.Call.Parameter
import BraceScript.Text.Case

namespace BraceScript

/-- One accepted shape of a call, with the least number of arguments it takes. -/
structure Signature (η : Type) where
  parameters : List Parameter
  description : String
  handler : η
  least : Nat
  total_eq : Parameter.total? parameters = some least := by rfl

namespace Signature

variable {η : Type}

def greatest? (s : Signature η) : Option Nat :=
  if s.parameters.any (·.repeat?.isSome) then none else some s.parameters.length

def accepts (s : Signature η) (count : Nat) : Bool :=
  s.least ≤ count && s.greatest?.all (count ≤ ·)

def overlaps (s t : Signature η) : Bool :=
  let low := max s.least t.least
  s.greatest?.all (low ≤ ·) && t.greatest?.all (low ≤ ·)

def usage (s : Signature η) (name : String) : String :=
  "\x7b" ++ name ++ String.join (s.parameters.map fun p ↦ ";" ++ p.render) ++ "\x7d"

/-- Compiles patterns, of which at most one repeats and which demand a number of arguments that
can be counted. -/
def compile (patterns : List String) (description : String) (handler : η) :
    Except BuildError (Signature η) := do
  let parameters ← patterns.mapM Parameter.ofPattern
  if 1 < parameters.countP (·.repeat?.isSome) then
    .error (.invalidParameter (";".intercalate patterns) .repeatedTwice)
  else
    match h : Parameter.total? parameters with
    | none => .error .countOverflow
    | some least => .ok ⟨parameters, description, handler, least, h⟩

end Signature

inductive Category where
  | variables
  | control
  | loops
  | arrays
  | functions
  | scope
  | escapes
  | math
  | text
  | lookup
deriving DecidableEq

structure Declaration (η : Type) where
  id : String
  category : Category
  description : String := ""
  aliases : List String := []
  family : Bool := false
  signatures : List (List String × String × η) := []

structure Definition (η : Type) where
  id : String
  aliases : List String
  category : Category
  description : String
  signatures : List (Signature η)
  family : Bool

namespace Definition

variable {η : Type}

def firstOverlap? (s : Signature η) (i : Nat) : List (Signature η) → Option Nat
  | [] => none
  | t :: rest => if s.overlaps t then some i else firstOverlap? s (i + 1) rest

def ambiguity? (i : Nat) : List (Signature η) → Option (Nat × Nat)
  | [] => none
  | s :: rest =>
    match firstOverlap? s (i + 1) rest with
    | some j => some (i, j)
    | none => ambiguity? (i + 1) rest

def ofDeclaration (d : Declaration η) : Except BuildError (Definition η) :=
  let id := Text.lower d.id
  if d.signatures.isEmpty then .error (.noSignatures id)
  else do
    let signatures ← d.signatures.mapM fun (patterns, description, handler) ↦
      Signature.compile patterns description handler
    match ambiguity? 0 signatures with
    | some (i, j) => .error (.ambiguousSignatures id i j)
    | none =>
      .ok ⟨id, d.aliases.map Text.lower, d.category, d.description, signatures, d.family⟩

end Definition

end BraceScript
