import BraceScript.Run.Eval

namespace BraceScript

namespace State

/-- The state in which the body of a function starts. -/
def enter (name : String) (params : List String) (s : State) : State :=
  (s.note (.entered name)).pushFrame
    { quiet? := s.frame.quiet?, fallback? := s.frame.fallback?, params }

def exit (s : State) : State :=
  let s := if s.popFrame.phase = .returning then { s.popFrame with phase := .running } else s.popFrame
  s.note .exited

end State

theorem activate_eq (eval : Eval) (name : String) (body : Statement) (params : List String)
    (s : State) : Services.activate eval name body params s =
      ((eval body (s.enter name params)).1, (eval body (s.enter name params)).2.exit) :=
  rfl

def State.stepped (s : State) : State := { s with steps := s.steps + 1 }.note .stepped

def Services.look (svc : Services) (s : State) : Bool × State :=
  if svc.isSignalled s then
    (false, { s with cancelled := true, phase := .aborted }.note .cancelled)
  else (true, s)

theorem tick_eq (svc : Services) (s : State) :
    svc.tick s = svc.look (svc.yieldIfDue s.stepped) :=
  rfl

def State.cancel (s : State) : State :=
  { s with cancelled := true, phase := .aborted }.note .cancelled

theorem tick_cases (svc : Services) (s : State) :
    svc.tick s = (true, svc.yieldIfDue s.stepped) ∨
    svc.tick s = (false, (svc.yieldIfDue s.stepped).cancel) := by
  rw [tick_eq]
  unfold Services.look
  split
  · exact Or.inr rfl
  · exact Or.inl rfl

theorem fail_eq (svc : Services) (name : String) (span : Span) (e : Error) (s : State) :
    (fail svc name span e s).2 =
      { s with phase := if e.isTerminal then .aborted else s.phase }.record
        ⟨span, name, e, s.stack⟩ := by
  unfold fail
  dsimp only
  split <;> rfl

theorem State.record_cases (s : State) (e : LocatedError) :
    s.record e = { s.note (.recorded e) with errors := e :: s.errors } ∨
    ∃ c rest, s.catches = c :: rest ∧ e.error.isTerminal = false ∧
      s.record e = { s.note (.recorded e) with catches := (e :: c) :: rest } := by
  unfold State.record
  dsimp only
  split
  · rename_i c rest hcatches
    split
    · exact Or.inl rfl
    · rename_i hterminal
      exact Or.inr ⟨c, rest, hcatches, Bool.eq_false_iff.mpr hterminal, rfl⟩
  · exact Or.inl rfl

def performInside (svc : Services) (eval : Eval) (handler : Handler) (args : Arguments)
    (frame : CallFrame) (s : State) : Outcome × State :=
  let (slots, s) := resolveSlots eval args.slots s
  if s.isRunning then
    let s := s.note (.started frame.name frame.span s.calls.length)
    let (outcome, t) := handler.run svc eval frame.name ⟨{ args with slots }, s⟩
    (outcome, t.state)
  else (.ok none, s)

theorem perform_eq (svc : Services) (eval : Eval) (handler : Handler) (args : Arguments)
    (frame : CallFrame) (s : State) : perform svc eval handler args frame s =
      ((performInside svc eval handler args frame (s.pushCall frame)).1,
        (performInside svc eval handler args frame (s.pushCall frame)).2.popCall) := by
  unfold perform performInside
  dsimp only
  split <;> rfl

def invokeCounted (env : Env) (inner : Option Eval) (d : Definition Handler) (name : String)
    (args : List Statement) (span : Span) (s : State) : Outcome × State :=
  match inner with
  | none => Services.refuse env.services.limits.depthExceeded s
  | some eval =>
    match Binding.bind d.signatures args with
    | .error e => (.error e, s)
    | .ok (signature, bound) => perform env.services eval signature.handler bound ⟨name, span⟩ s

def invokeAnswered (env : Env) (inner : Option Eval) (d : Definition Handler) (name : String)
    (args : List Statement) (span : Span) (answer : Except Error Unit) (s : State) :
    Outcome × State :=
  match answer with
  | .error e => (.error e, s)
  | .ok () => invokeCounted env inner d name args span s

theorem invoke_eq (env : Env) {name : String} {d : Definition Handler}
    (hd : env.registry.lookup name = some d) (inner : Option Eval) (args : List Statement)
    (span : Span) (s : State) : invoke env inner name args span s =
      invokeAnswered env inner d name args span (env.services.charge .calls s).1
        (env.services.charge .calls s).2 := by
  unfold invoke invokeAnswered
  rw [hd]
  dsimp only
  rcases env.services.charge .calls s with ⟨_ | _, s⟩
  · rfl
  · cases inner <;> rfl

def conclude (svc : Services) (name : String) (span : Span) (outcome : Outcome) (s : State) :
    String × State :=
  match outcome with
  | .ok text => (text.getD "", s)
  | .error e => fail svc name span e s

theorem respond_eq (env : Env) (inner : Option Eval) (name : String) (args : List Statement)
    (span : Span) (s : State) : respond env inner name args span s =
      conclude env.services name span (invoke env inner name args span s).1
        (invoke env inner name args span s).2 := by
  unfold respond conclude
  rcases invoke env inner name args span s with ⟨_ | _, s⟩ <;> rfl

def evalTicked (svc : Services) (answer : Responder) (name : Statement) (args : List Statement)
    (span : Span) (going : Bool) (s : State) : String × State :=
  if going then
    let (name, s) := evalStatement svc answer name s
    if s.isRunning then answer (normalize name) args span s else ("", s)
  else ("", s)

theorem evalPart_call (svc : Services) (answer : Responder) (name : Statement)
    (args : List Statement) (span : Span) (s : State) :
    evalPart svc answer (.call name args span) s =
      evalTicked svc answer name args span (svc.tick s).1 (svc.tick s).2 := by
  unfold evalPart evalTicked
  rcases svc.tick s with ⟨_ | _, s⟩ <;> rfl

theorem Binding.mem_of_bind {η : Type} {signatures : List (Signature η)} {args : List Statement}
    {b : Signature η × Arguments} (h : Binding.bind signatures args = .ok b) :
    b.1 ∈ signatures := by
  unfold Binding.bind at h
  split at h
  · cases h
  · rename_i signature hfind
    cases h
    exact List.mem_of_find?_eq_some hfind

def Registry.Scripted (registry : Registry Handler) : Prop :=
  ∀ name d, registry.lookup name = some d → ∀ signature ∈ d.signatures,
    ∃ body, signature.handler = .script body

namespace Query

/-- Whether the answer takes neither the evaluation of a statement nor an argument of the call. -/
def isPlain : Query → Bool
  | value _ _ | again _ | attempt _ | activate _ _ => false
  | raw _ _ | count _ | supplied _ | define _ _ => false
  | _ => true

def effect (svc : Services) (q : Query) (s : State) : q.Answer × State :=
  ((q.answer svc (fun _ s ↦ ("", s)) ⟨⟨[], []⟩, s⟩).1,
    (q.answer svc (fun _ s ↦ ("", s)) ⟨⟨[], []⟩, s⟩).2.state)

theorem answer_eq_effect (svc : Services) (eval : Eval) {q : Query} (hq : q.isPlain = true)
    (t : Activation) : q.answer svc eval t =
      ((q.effect svc t.state).1, ⟨t.args, (q.effect svc t.state).2⟩) := by
  cases q with
  | value | again | attempt | activate | raw | count | supplied | define => cases hq
  | _ => rfl

/-- An argument that has no value yet is attempted by evaluating it with errors intercepted. -/
theorem answer_attempt (svc : Services) (eval : Eval) (slot : Nat) {t : Activation} {a : Argument}
    (hat : t.args.at? slot 0 = some a) (hvalue : a.value? = none) :
    (attempt slot).answer svc eval t =
      if (a.evaluate eval t.state.pushCatch).2.caught.isEmpty then
        (some (a.evaluate eval t.state.pushCatch).1,
          t.keep slot 0 (a.evaluate eval t.state.pushCatch).1
            (a.evaluate eval t.state.pushCatch).2.popCatch)
      else (none, ⟨t.args, (a.evaluate eval t.state.pushCatch).2.popCatch⟩) := by
  simp only [answer, Activation.attempt, Services.intercept, hat, hvalue]
  cases hcaught : (a.evaluate eval t.state.pushCatch).2.caught with
  | nil => rfl
  | cons e rest =>
    rw [List.getLast?_cons]
    rfl

end Query

end BraceScript
