import BraceScript.Directory
import BraceScript.Plugins

namespace BraceScript

structure Signal where
  tripped : Bool := false
  -- Whether the host trips the signal during the run's `n`-th yield.
  atYield : Nat → Bool := fun _ ↦ false
  deadline? : Option Nat := none

/-- The surroundings of a run, which do not change while it lasts. -/
structure Services where
  origin : Origin
  scopes : Scopes
  faults : StoreFaults := {}
  directory? : Option Directory := none
  plugins : Plugins
  limits : Limits := {}
  yieldInterval : Nat := 1000
  signal? : Option Signal := none
  timeout? : Option Nat := none
  -- The number of milliseconds that have passed when step `n` is counted.
  clock : Nat → Nat := fun _ ↦ 0

abbrev Eval := Statement → State → String × State

namespace Services

variable (svc : Services)

def refuse {α : Type} (e : Error) (s : State) : Except Error α × State :=
  (.error e, s.note (.refused e))

def charge (r : Resource) (s : State) : Except Error Unit × State :=
  match svc.limits.charge s.usage r with
  | .error e => refuse e s
  | .ok usage => (.ok (), { s with usage }.note (.charged r))

def deadline? : Option Nat :=
  match svc.signal? with
  | some signal => signal.deadline?
  | none => svc.timeout?

def isSignalled (s : State) : Bool :=
  s.tripped || svc.deadline?.any (· ≤ svc.clock s.steps)

def tripsAt (n : Nat) : Bool := svc.signal?.any (·.atYield n)

def yieldIfDue (s : State) : State :=
  if 0 < svc.yieldInterval && s.steps % svc.yieldInterval == 0 then
    { s with yields := s.yields + 1, tripped := s.tripped || svc.tripsAt (s.yields + 1) }.note
      .yielded
  else s

/-- Counts a step and looks at the signal. The answer is false once the run is cancelled. -/
def tick (s : State) : Bool × State :=
  let s := svc.yieldIfDue ({ s with steps := s.steps + 1 }.note .stepped)
  if svc.isSignalled s then
    (false, { s with cancelled := true, phase := .aborted }.note .cancelled)
  else (true, s)

/-- The storage scope, none for temporaries, and the bare name of a variable. -/
def locate (raw : String) : Except Error (Option StorageScope × String) :=
  match svc.scopes.resolve raw with
  | .error e => .error e
  | .ok (kind, name) =>
    match svc.origin.storage kind with
    | .error e => .error e
    | .ok scope? => .ok (scope?, name)

def getVariable (raw : String) (s : State) : Except Error (Option Value) :=
  match svc.locate raw with
  | .error e => .error e
  | .ok (none, name) => .ok (s.frame.temporaries.get? name)
  | .ok (some scope, name) => s.store.read svc.faults ⟨scope, name⟩

def withTemporaries (s : State) (f : Table String Value → Table String Value) : State :=
  { s with frame := { s.frame with temporaries := f s.frame.temporaries } }

def assign (raw : String) (value : Value) (s : State) : Except Error State :=
  match svc.locate raw with
  | .error e => .error e
  | .ok (none, name) => .ok (withTemporaries s (·.set name value))
  | .ok (some scope, name) =>
    match s.store.write svc.faults ⟨scope, name⟩ value with
    | .error e => .error e
    | .ok store => .ok { s with store }

def unset (raw : String) (s : State) : Except Error State :=
  match svc.locate raw with
  | .error e => .error e
  | .ok (none, name) => .ok (withTemporaries s (·.erase name))
  | .ok (some scope, name) =>
    match s.store.reset svc.faults scope [name] with
    | .error e => .error e
    | .ok store => .ok { s with store }

def noteWrite (raw : String) (restoring : Bool) (s : State) :
    Except Error State → Except Error Unit × State
  | .error e => (.error e, s)
  | .ok s => (.ok (), s.note (.wrote raw restoring))

def setVariable (raw : String) (value : Value) (s : State) : Except Error Unit × State :=
  noteWrite raw false s (svc.assign raw value s)

def resetVariable (raw : String) (s : State) : Except Error Unit × State :=
  noteWrite raw false s (svc.unset raw s)

def restoreVariable (raw : String) (previous : Option Value) (s : State) :
    Except Error Unit × State :=
  noteWrite raw true s (match previous with
    | some value => svc.assign raw value s
    | none => svc.unset raw s)

def request {α : Type} (ask : Directory → Except Error α) (s : State) : Except Error α × State :=
  match svc.directory? with
  | none => (.error (.host "No entity lookup service is configured"), s)
  | some directory =>
    match svc.charge .requests s with
    | (.error e, s) => (.error e, s)
    | (.ok (), s) => (ask directory, s.note .requested)

def findEntity (kind : EntityKind) (query : String) (byId : Bool) :
    State → Except Error (Option Entity) × State :=
  svc.request fun d ↦ d.find svc.origin kind query byId

def listEntities (kind : EntityKind) : State → Except Error (List Entity) × State :=
  svc.request fun d ↦ d.list svc.origin kind

def define (name : String) (body : Statement) (s : State) : State :=
  let key := Text.lower name
  { s with functions := s.functions.set key body }.note (.defined key body)

def function? (name : String) (s : State) : Option Statement := s.functions.get? (Text.lower name)

/-- Runs `body` as a function in a frame of its own. The frame takes over the settings of the frame
around it but not its variables, and a return ends here. -/
def activate (eval : Eval) (name : String) (body : Statement) (params : List String) (s : State) :
    String × State :=
  let frame : Frame := { quiet? := s.frame.quiet?, fallback? := s.frame.fallback?, params }
  let (text, s) := eval body ((s.note (.entered name)).pushFrame frame)
  let s := s.popFrame
  let s := if s.phase = .returning then { s with phase := .running } else s
  (text, s.note .exited)

/-- Runs an action with errors intercepted: its result and the errors, latest first. -/
def intercept {α : Type} (act : State → α × State) (s : State) : α × List LocatedError × State :=
  let (a, s) := act s.pushCatch
  (a, s.caught, s.popCatch)

/-- Leaves the current function or document, or the whole run when forced. -/
def leave (forced : Bool) (s : State) : State :=
  { s with phase := if forced then .aborted else .returning }.note (.left forced s.outer.length)

end Services

end BraceScript
