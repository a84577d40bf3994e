import BraceScript.Registry
import BraceScript.Run.Script

namespace BraceScript

structure Env where
  services : Services
  registry : Registry Handler

def resolveSlot (eval : Eval) : List Argument → State → List Argument × State
  | [], s => ([], s)
  | a :: args, s =>
    if a.isEager && s.isRunning then
      let (text, s) := a.evaluate eval s
      let (args, s) := resolveSlot eval args s
      ({ a with value? := some text } :: args, s)
    else
      let (args, s) := resolveSlot eval args s
      (a :: args, s)

def resolveSlots (eval : Eval) : List (List Argument) → State → List (List Argument) × State
  | [], s => ([], s)
  | slot :: slots, s =>
    let (slot, s) := resolveSlot eval slot s
    let (slots, s) := resolveSlots eval slots s
    (slot :: slots, s)

/-- Runs a handler on a call whose eager arguments have been evaluated. -/
def Handler.run (svc : Services) (eval : Eval) (name : String) (t : Activation) :
    Handler → Outcome × Activation
  | script body => (ExceptT.run (body ⟨name, svc.plugins, svc.origin⟩)).run svc eval t
  | host body => body svc eval name t

def placeholder (svc : Services) (e : Error) (s : State) : String :=
  match e.display with
  | some text => text
  | none => (svc.plugins.fallback? s.frame).getD ("`" ++ e.message ++ "`")

/-- Records the error of a call and gives the text shown in its place. A terminal error ends the
run. -/
def fail (svc : Services) (name : String) (span : Span) (e : Error) (s : State) : String × State :=
  let text := placeholder svc e s
  let s := if e.isTerminal then { s with phase := .aborted } else s
  (text, s.record ⟨span, name, e, s.stack⟩)

def perform (svc : Services) (eval : Eval) (handler : Handler) (args : Arguments) (frame : CallFrame)
    (s : State) : Outcome × State :=
  let (slots, s) := resolveSlots eval args.slots (s.pushCall frame)
  if s.isRunning then
    let s := s.note (.started frame.name frame.span s.calls.length)
    let (outcome, t) := handler.run svc eval frame.name ⟨{ args with slots }, s⟩
    (outcome, t.state.popCall)
  else (.ok none, s.popCall)

/-- Answers a call. `inner` evaluates one level deeper, and is missing where no call may be nested
any more. -/
def invoke (env : Env) (inner : Option Eval) (name : String) (args : List Statement) (span : Span)
    (s : State) : Outcome × State :=
  match env.registry.lookup name with
  | none => (.error (.unknownSubtag name), s)
  | some d =>
    match env.services.charge .calls s with
    | (.error e, s) => (.error e, s)
    | (.ok (), s) =>
      match inner with
      | none => Services.refuse env.services.limits.depthExceeded s
      | some eval =>
        match Binding.bind d.signatures args with
        | .error e => (.error e, s)
        | .ok (signature, bound) =>
          perform env.services eval signature.handler bound ⟨name, span⟩ s

def respond (env : Env) (inner : Option Eval) (name : String) (args : List Statement) (span : Span)
    (s : State) : String × State :=
  match invoke env inner name args span s with
  | (.ok text, s) => (text.getD "", s)
  | (.error e, s) => fail env.services name span e s

abbrev Responder := String → List Statement → Span → State → String × State

mutual

def evalStatement (svc : Services) (answer : Responder) : Statement → State → String × State
  | .mk parts _, s => evalParts svc answer parts s

def evalParts (svc : Services) (answer : Responder) : List Part → State → String × State
  | [], s => ("", s)
  | part :: parts, s =>
    if s.isRunning then
      let (text, s) := evalPart svc answer part s
      let (rest, s) := evalParts svc answer parts s
      (text ++ rest, s)
    else ("", s)

def evalPart (svc : Services) (answer : Responder) : Part → State → String × State
  | .literal text _, s => (text, s)
  | .call name args span, s =>
    match svc.tick s with
    | (false, s) => ("", s)
    | (true, s) =>
      let (name, s) := evalStatement svc answer name s
      if s.isRunning then answer (normalize name) args span s else ("", s)

end

/-- Evaluates a statement in which at most `depth` calls are nested. -/
def evalAt (env : Env) : Nat → Statement → State → String × State
  | 0, statement, s => evalStatement env.services (respond env none) statement s
  | depth + 1, statement, s =>
    evalStatement env.services (respond env (some (evalAt env depth))) statement s

def Env.eval (env : Env) : Eval := fun statement s ↦
  evalAt env (env.services.limits.maxDepth - s.calls.length) statement s

end BraceScript
