import BraceScript.Call.Binding
import BraceScript.Run.Services

namespace BraceScript

/-- What a script may ask of its run. -/
inductive Query where
  | value (slot index : Nat)
  -- The value of the first argument of parameter `slot`, evaluated again.
  | again (slot : Nat)
  -- As `value` for the first argument, with errors intercepted.
  | attempt (slot : Nat)
  | raw (slot index : Nat)
  | count (slot : Nat)
  | supplied (slot : Nat)
  | running
  | leave (forced : Bool)
  -- Counts a loop iteration that is about to start.
  | iterate
  | getVariable (name : String)
  | setVariable (name : String) (value : Value)
  | resetVariable (name : String)
  | restoreVariable (name : String) (previous : Option Value)
  | define (name : String) (slot : Nat)
  -- Runs a function, if there is one of that name.
  | activate (name : String) (params : List String)
  | hasFunction (name : String)
  | frame
  | setQuiet (quiet : Bool)
  | setFallback (text : Option String)
  | pick (length : Nat)
  | shuffle (items : List Value)
  | findEntity (kind : EntityKind) (query : String) (byId : Bool)
  | listEntities (kind : EntityKind)

def Query.Answer : Query → Type
  | value _ _ | again _ | raw _ _ => String
  | count _ => Nat
  | supplied _ => Bool
  | attempt _ => Option String
  | running | hasFunction _ => Bool
  | iterate | setVariable _ _ | resetVariable _ | restoreVariable _ _ => Except Error Unit
  | leave _ | define _ _ | setQuiet _ | setFallback _ => Unit
  | getVariable _ => Except Error (Option Value)
  | activate _ _ => String
  | frame => Frame
  | pick _ => Nat
  | shuffle _ => List Value
  | findEntity _ _ _ => Except Error (Option Entity)
  | listEntities _ => Except Error (List Entity)

/-- A computation that asks questions. -/
inductive Script (α : Type) where
  | done (a : α)
  | ask (q : Query) (next : q.Answer → Script α)

namespace Script

variable {α β : Type}

def bind : Script α → (α → Script β) → Script β
  | done a, f => f a
  | ask q next, f => ask q fun r ↦ (next r).bind f

instance : Monad Script where
  pure := done
  bind := bind

def query (q : Query) : Script q.Answer := ask q done

end Script

abbrev Action (α : Type) := ExceptT Error Script α

namespace Action

def ask (q : Query) : Action q.Answer := ExceptT.lift (Script.query q)

def demand {α : Type} (s : Script (Except Error α)) : Action α := ExceptT.mk s

def ofOption {α : Type} (e : Error) : Option α → Action α
  | some a => pure a
  | none => throw e

def valueAt (slot index : Nat) : Action String := ask (.value slot index)

def value (slot : Nat) : Action String := valueAt slot 0

def again (slot : Nat) : Action String := ask (.again slot)

def attempt (slot : Nat) : Action (Option String) := ask (.attempt slot)

def count (slot : Nat) : Action Nat := ask (.count slot)

def isSupplied (slot : Nat) : Action Bool := ask (.supplied slot)

def collect (read : Nat → Action String) (start : Nat) : Nat → Action (List String)
  | 0 => pure []
  | count + 1 => do
    let text ← read start
    return text :: (← collect read (start + 1) count)

def values (slot : Nat) : Action (List String) := do
  collect (valueAt slot) 0 (← count slot)

def sources (slot : Nat) : Action (List String) := do
  collect (fun i ↦ ask (.raw slot i)) 0 (← count slot)

def isRunning : Action Bool := ask .running

def getVariable (name : String) : Action (Option Value) :=
  demand (Script.query (.getVariable name))

def setVariable (name : String) (value : Value) : Action Unit :=
  demand (Script.query (.setVariable name value))

def resetVariable (name : String) : Action Unit := demand (Script.query (.resetVariable name))

def iterate : Action Unit := demand (Script.query .iterate)

def leave (forced : Bool) : Action Unit := ask (.leave forced)

def define (name : String) (slot : Nat) : Action Unit := ask (.define name slot)

def hasFunction (name : String) : Action Bool := ask (.hasFunction name)

def activate (name : String) (params : List String) : Action String := ask (.activate name params)

def frame : Action Frame := ask .frame

def setQuiet (quiet : Bool) : Action Unit := ask (.setQuiet quiet)

def setFallback (text : Option String) : Action Unit := ask (.setFallback text)

def pick (length : Nat) : Action Nat := ask (.pick length)

def shuffle (items : List Value) : Action (List Value) := ask (.shuffle items)

def restore (name : String) (previous : Option Value) : Action (Except Error Unit) :=
  ask (.restoreVariable name previous)

def outcome {α : Type} (a : Action α) : Action (Except Error α) := ExceptT.lift a.run

def settle {α : Type} (r : Except Error α) : Action α := ExceptT.mk (pure r)

def findEntity (kind : EntityKind) (query : String) (byId : Bool) : Action (Option Entity) :=
  demand (Script.query (.findEntity kind query byId))

def listEntities (kind : EntityKind) : Action (List Entity) :=
  demand (Script.query (.listEntities kind))

end Action

structure Invocation where
  name : String
  plugins : Plugins
  origin : Origin

namespace Invocation

def number (c : Invocation) (text : String) : Except Error Double :=
  match c.plugins.number? text with
  | some d => .ok d
  | none => .error (.notANumber text)

def integer (c : Invocation) (text : String) : Action Int :=
  Action.ofOption (.notANumber text) (c.plugins.integer? text)

def boolean (c : Invocation) (text : String) (default : Bool) : Action Bool :=
  Action.ofOption (.notABoolean text) (c.plugins.booleanOr? text default)

end Invocation

abbrev Outcome := Except Error (Option String)

/-- A call in progress: its arguments with the values kept so far, and the state of the run. -/
structure Activation where
  args : Arguments
  state : State

def Activation.keep (t : Activation) (slot index : Nat) (value : String) (s : State) : Activation :=
  ⟨t.args.keep slot index value, s⟩

namespace Argument

/-- Evaluates the code of an argument; an omitted one has its default. -/
def evaluate (eval : Eval) (a : Argument) (s : State) : String × State :=
  match a.source with
  | .code statement => eval statement s
  | .default text => (text, s)

end Argument

namespace Activation

variable (eval : Eval)

/-- The value of an argument, evaluated on the first reading; an absent argument is empty text. -/
def value (slot index : Nat) (t : Activation) : String × Activation :=
  match t.args.at? slot index with
  | none => ("", t)
  | some a =>
    match a.value? with
    | some text => (text, t)
    | none =>
      let (text, s) := a.evaluate eval t.state
      (text, t.keep slot index text s)

def again (slot index : Nat) (t : Activation) : String × Activation :=
  match t.args.at? slot index with
  | none => ("", t)
  | some a =>
    let (text, s) := a.evaluate eval (t.state.note .iterated)
    (text, { t with state := s })

/-- The value of an argument with errors intercepted: the first error, if any, instead of the
value. A value without errors is kept. -/
def attempt (slot index : Nat) (t : Activation) : Except LocatedError String × Activation :=
  match t.args.at? slot index with
  | none => (.ok "", t)
  | some a =>
    match a.value? with
    | some text => (.ok text, t)
    | none =>
      let (text, caught, s) := Services.intercept (a.evaluate eval) t.state
      match caught.getLast? with
      | some e => (.error e, { t with state := s })
      | none => (.ok text, t.keep slot index text s)

end Activation

namespace Query

variable (svc : Services) (eval : Eval)

def onState {α : Type} (t : Activation) : α × State → α × Activation
  | (a, s) => (a, { t with state := s })

def answer : (q : Query) → Activation → q.Answer × Activation
  | value slot index, t => t.value eval slot index
  | again slot, t => t.again eval slot 0
  | attempt slot, t =>
    match t.attempt eval slot 0 with
    | (.ok text, t) => (some text, t)
    | (.error _, t) => (none, t)
  | raw slot index, t => (((t.args.at? slot index).map Argument.raw).getD "", t)
  | count slot, t => ((t.args.all slot).length, t)
  | supplied slot, t => ((t.args.get? slot).any Argument.isSupplied, t)
  | running, t => (t.state.isRunning, t)
  | leave forced, t => ((), { t with state := Services.leave forced t.state })
  | iterate, t => onState t (svc.charge .loops t.state)
  | getVariable name, t => (svc.getVariable name t.state, t)
  | setVariable name v, t => onState t (svc.setVariable name v t.state)
  | resetVariable name, t => onState t (svc.resetVariable name t.state)
  | restoreVariable name previous, t => onState t (svc.restoreVariable name previous t.state)
  | define name slot, t =>
    match (t.args.get? slot).bind Argument.statement? with
    | some body => ((), { t with state := Services.define name body t.state })
    | none => ((), t)
  | hasFunction name, t => ((Services.function? name t.state).isSome, t)
  | activate name params, t =>
    match Services.function? name t.state with
    | some body => onState t (Services.activate eval name body params t.state)
    | none => ("", t)
  | frame, t => (t.state.frame, t)
  | setQuiet quiet, t =>
    ((), { t with state := { t.state with frame := { t.state.frame with quiet? := some quiet } } })
  | setFallback text, t =>
    ((), { t with state := { t.state with frame := { t.state.frame with fallback? := text } } })
  | pick length, t =>
    (svc.plugins.random.index t.state.draws length,
      { t with state := { t.state with draws := t.state.draws + 1 } })
  | shuffle items, t =>
    (svc.plugins.random.shuffle t.state.draws items,
      { t with state := { t.state with draws := t.state.draws + 1 } })
  | findEntity kind query byId, t => onState t (svc.findEntity kind query byId t.state)
  | listEntities kind, t => onState t (svc.listEntities kind t.state)

end Query

def Script.run {α : Type} (svc : Services) (eval : Eval) : Script α → Activation → α × Activation
  | done a, t => (a, t)
  | ask q next, t =>
    match q.answer svc eval t with
    | (r, t) => (next r).run svc eval t

/-- What answers a call: a script, or a function of the host with the whole run at its hands. -/
inductive Handler where
  | script (body : Invocation → Action (Option String))
  | host (body : Services → Eval → String → Activation → Outcome × Activation)

end BraceScript
