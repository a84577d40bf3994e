import BraceScript.Json.Value
import BraceScript.Source.Marker

namespace BraceScript

inductive ErrorKind where
  | unknownSubtag
  | noMatchingSignature
  | typeMismatch
  | notFound
  | resourceLimit
  | unsafeInput
  | unknownVariableScope
  | hostFailure
  | custom
deriving DecidableEq

namespace ErrorKind

def isTerminal : ErrorKind → Bool
  | resourceLimit | unknownSubtag | unknownVariableScope => true
  | _ => false

def name : ErrorKind → String
  | unknownSubtag => "unknown_subtag"
  | noMatchingSignature => "no_matching_signature"
  | typeMismatch => "type_mismatch"
  | notFound => "not_found"
  | resourceLimit => "resource_limit"
  | unsafeInput => "unsafe_input"
  | unknownVariableScope => "unknown_variable_scope"
  | hostFailure => "host_failure"
  | custom => "custom"

end ErrorKind

/-- An error raised by a call. `display` replaces the text shown in place of the call; an empty one
hides the error from the output and keeps it in the report. -/
structure Error where
  kind : ErrorKind
  message : String
  detail : Option Value := none
  display : Option String := none

namespace Error

def isTerminal (e : Error) : Bool := e.kind.isTerminal

def quietIf (e : Error) (quiet : Bool) : Error := if quiet then { e with display := some "" } else e

def unknownSubtag (name : String) : Error :=
  ⟨.unknownSubtag, "Unknown subtag " ++ name, some (.ofFields [("subtag", .text name)]), none⟩

def countDetail (expected got : Nat) : Value :=
  .ofFields [("expected", .int expected), ("got", .int got)]

def notEnoughArguments (expected got : Nat) : Error :=
  ⟨.noMatchingSignature, "Not enough arguments", some (countDetail expected got), none⟩

def tooManyArguments (expected got : Nat) : Error :=
  ⟨.noMatchingSignature, "Too many arguments", some (countDetail expected got), none⟩

def valueDetail (value : String) : Value := .ofFields [("value", .text value)]

def notANumber (value : String) : Error :=
  ⟨.typeMismatch, "Not a number", some (valueDetail value), none⟩

def notABoolean (value : String) : Error :=
  ⟨.typeMismatch, "Not a boolean", some (valueDetail value), none⟩

def notAnArray (value : String) : Error :=
  ⟨.typeMismatch, "Not an array", some (valueDetail value), none⟩

def notFound (entity query : String) : Error :=
  ⟨.notFound, "No " ++ entity ++ " found",
    some (.ofFields [("entity", .text entity), ("query", .text query)]), none⟩

def limitExceeded (limit : String) (ceiling : Nat) : Error :=
  ⟨.resourceLimit, "Too many " ++ limit,
    some (.ofFields [("limit", .text limit), ("ceiling", .int ceiling)]), none⟩

def invalidOperator (operator : String) : Error :=
  ⟨.typeMismatch, "Invalid operator", some (.ofFields [("operator", .text operator)]), none⟩

def outOfRange (index : Int) (what : String) (count : Nat) : Error :=
  ⟨.notFound, "Index out of range",
    some (.ofFields [("index", .int index), (what, .int count)]), none⟩

def negativeAmount : Error := ⟨.typeMismatch, "Can't be negative", none, none⟩

def notFinite : Error := ⟨.typeMismatch, "Result is not a finite number", none, none⟩

def unsafeInput (message : String) : Error := ⟨.unsafeInput, message, none, none⟩

def unknownScope (message : String) : Error := ⟨.unknownVariableScope, message, none, none⟩

def host (message : String) : Error := ⟨.hostFailure, message, none, none⟩

def custom (message : String) : Error := ⟨.custom, message, none, none⟩

end Error

/-- An error with the call that raised it and the names of the calls around that call, outermost
first. -/
structure LocatedError where
  span : Span
  subtag : String
  error : Error
  stack : List String

inductive PatternFault where
  | malformed
  | minimumTooLarge
  | repeatedWithDefault
  | repeatedTwice
deriving DecidableEq

def PatternFault.reason : PatternFault → String
  | malformed => "malformed pattern"
  | minimumTooLarge => "repeat minimum is too large"
  | repeatedWithDefault => "repeatable parameters cannot declare a default"
  | repeatedTwice => "only one parameter may repeat"

inductive BuildError where
  | missingFallbackScope
  | duplicateScopePrefix (lead : String)
  | duplicateSubtag (name : String)
  | ambiguousSignatures (id : String) (first second : Nat)
  | noSignatures (id : String)
  | invalidParameter (pattern : String) (fault : PatternFault)
  | countOverflow
deriving DecidableEq

def BuildError.message : BuildError → String
  | missingFallbackScope => "No fallback (empty prefix) variable scope is registered"
  | duplicateScopePrefix lead => "Variable scope prefix `" ++ lead ++ "` is registered more than once"
  | duplicateSubtag name => "Subtag `" ++ name ++ "` is already registered"
  | ambiguousSignatures id first second =>
    "Subtag `" ++ id ++ "` has ambiguous signatures " ++ toString first ++ " and " ++ toString second
  | noSignatures id => "Subtag `" ++ id ++ "` declares no signatures"
  | invalidParameter pattern fault => "Invalid parameter `" ++ pattern ++ "`: " ++ fault.reason
  | countOverflow => "attempt to add with overflow"

end BraceScript
