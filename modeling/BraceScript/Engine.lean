import BraceScript.Config
import BraceScript.Run.Eval
import BraceScript.Source.Json
import BraceScript.Source.Parse
import BraceScript.Subtags.Standard

namespace BraceScript

/-- What an engine is put together from. -/
structure Blueprint where
  config : Config := {}
  providers : List Provider := Provider.standard
  withStandard : Bool := true
  definitions : List (Definition Handler) := []
  plugins? : Option Plugins := none
  directory? : Option Directory := none
  faults : StoreFaults := {}
  explain : String → String := Regex.unreadable

/-- The shared part of executions. -/
structure Engine where
  config : Config
  scopes : Scopes
  registry : Registry Handler
  plugins : Plugins
  directory? : Option Directory
  faults : StoreFaults

/-- One wish to run a document. -/
structure Request where
  origin : Origin := {}
  plugins? : Option Plugins := none
  signal? : Option Signal := none
  limits? : Option Limits := none
  -- How time passes: the number of milliseconds gone by when step `n` is counted.
  clock : Nat → Nat := fun _ ↦ 0

inductive Termination where
  | completed
  | returned
  | aborted
  | cancelled
deriving DecidableEq

def Termination.name : Termination → String
  | completed => "completed"
  | returned => "returned"
  | aborted => "aborted"
  | cancelled => "cancelled"

structure Execution where
  output : String
  errors : List LocatedError
  termination : Termination
  steps : Nat

namespace Engine

def build (b : Blueprint) : Except BuildError Engine := do
  let scopes ← Scopes.ofProviders b.providers
  let standard ← if b.withStandard then Subtags.standard else pure []
  let registry ← Registry.extend {} standard
  let registry ← registry.extend b.definitions
  return {
    config := b.config
    scopes
    registry
    plugins := b.plugins?.getD (.standard b.config.regexSizeLimit b.explain)
    directory? := b.directory?
    faults := b.faults }

def env (e : Engine) (r : Request) : Env where
  services := {
    origin := r.origin
    scopes := e.scopes
    faults := e.faults
    directory? := e.directory?
    plugins := r.plugins?.getD e.plugins
    limits := r.limits?.getD e.config.limits
    yieldInterval := e.config.yieldInterval
    signal? := r.signal?
    timeout? := e.config.timeoutMs
    clock := r.clock }
  registry := e.registry

def initial (r : Request) (store : Store) : State :=
  { tripped := r.signal?.any Signal.tripped, store }

def run (e : Engine) (statement : Statement) (r : Request) (store : Store) : String × State :=
  (e.env r).eval statement (initial r store)

end Engine

namespace State

def termination (s : State) : Termination :=
  if s.cancelled then .cancelled
  else match s.phase with
    | .running => .completed
    | .returning => .returned
    | .aborted => .aborted

def execution (s : State) (output : String) : Execution :=
  ⟨output, s.errors.reverse, s.termination, s.steps⟩

end State

def Engine.execute (e : Engine) (source : String) (r : Request) (store : Store) :
    Execution × Store :=
  let (output, s) := e.run (parse source) r store
  (s.execution output, s.store)

def Error.json (e : Error) : String :=
  Record.braced ([
    Record.field "kind" (Value.quote e.kind.name),
    Record.field "message" (Value.quote e.message)] ++
    (e.detail.map fun v ↦ Record.field "detail" v.print).toList ++
    (e.display.map fun text ↦ Record.field "display" (Value.quote text)).toList)

def LocatedError.json (e : LocatedError) : String :=
  Record.braced [
    Record.field "range" e.span.json,
    Record.field "subtag" (Value.quote e.subtag),
    Record.field "error" e.error.json,
    Record.field "stack" (Record.bracketed (e.stack.map Value.quote))]

def Execution.json (x : Execution) : String :=
  Record.braced [
    Record.field "output" (Value.quote x.output),
    Record.field "errors" (Record.bracketed (x.errors.map LocatedError.json)),
    Record.field "termination" (Value.quote x.termination.name),
    Record.field "steps" (toString x.steps)]

end BraceScript
