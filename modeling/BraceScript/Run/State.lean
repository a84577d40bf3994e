import BraceScript.Limits
import BraceScript.Source.Statement
import BraceScript.Store

namespace BraceScript

/-- Whether evaluation goes on. -/
inductive Phase where
  | running
  | returning
  | aborted
deriving DecidableEq

/-- Settings and variables of one function activation, or of the document itself. -/
structure Frame where
  quiet? : Option Bool := none
  fallback? : Option String := none
  temporaries : Table String Value := []
  params : List String := []

structure CallFrame where
  name : String
  span : Span

/-- Something that happened in a run. -/
inductive Event where
  | stepped
  | yielded
  | charged (r : Resource)
  | refused (error : Error)
  | called (frame : CallFrame)
  | finished
  | started (name : String) (span : Span) (depth : Nat)
  | iterated
  | requested
  | defined (function : String) (body : Statement)
  -- A variable was set or removed, by a loop that puts its variable back or otherwise.
  | wrote (name : String) (restoring : Bool)
  | recorded (error : LocatedError)
  -- A return was executed inside this many function activations.
  | left (forced : Bool) (activations : Nat)
  | entered (function : String)
  | exited
  | cancelled

structure State where
  phase : Phase := .running
  frame : Frame := {}
  outer : List Frame := []
  calls : List CallFrame := []
  usage : Usage := {}
  errors : List LocatedError := []
  -- The errors that each enclosing interception has caught, innermost first.
  catches : List (List LocatedError) := []
  functions : Table String Statement := []
  tripped : Bool := false
  steps : Nat := 0
  yields : Nat := 0
  draws : Nat := 0
  cancelled : Bool := false
  store : Store := []
  journal : List Event := []

namespace State

def isRunning (s : State) : Bool := s.phase == .running

def note (s : State) (e : Event) : State := { s with journal := e :: s.journal }

def stack (s : State) : List String := (s.calls.map CallFrame.name).reverse

/-- Hands an error to the innermost interception, or to the report if it is terminal or there is no
interception. -/
def record (s : State) (e : LocatedError) : State :=
  let s := s.note (.recorded e)
  match s.catches with
  | caught :: rest =>
    if e.error.isTerminal then { s with errors := e :: s.errors }
    else { s with catches := (e :: caught) :: rest }
  | [] => { s with errors := e :: s.errors }

def pushFrame (s : State) (f : Frame) : State := { s with frame := f, outer := s.frame :: s.outer }

/-- Returns to the frame around the current one; the frame of the document stays. -/
def popFrame (s : State) : State :=
  match s.outer with
  | [] => s
  | f :: outer => { s with frame := f, outer }

def pushCatch (s : State) : State := { s with catches := [] :: s.catches }

def popCatch (s : State) : State := { s with catches := s.catches.tail }

def caught (s : State) : List LocatedError := s.catches.headD []

def pushCall (s : State) (c : CallFrame) : State :=
  { s with calls := c :: s.calls }.note (.called c)

def popCall (s : State) : State := { s with calls := s.calls.tail }.note .finished

end State

end BraceScript
