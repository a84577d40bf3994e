import BraceScript.Proofs.Run.Selection

namespace BraceScript

section Inside

variable {env : Env} (hscripted : env.registry.Scripted) {depth : Nat}

include hscripted

theorem Env.stacks_eval (statement : Statement) (s : State) :
    (env.eval statement s).2.calls = s.calls ∧ (env.eval statement s).2.outer = s.outer :=
  (env.ends_eval hscripted statement s).stacks_eq

theorem Env.eval_append (parts parts' : List Part) (span span' span'' : Span) (s : State) :
    let a := env.eval (.mk parts span) s
    let b := env.eval (.mk parts' span') a.2
    env.eval (.mk (parts ++ parts') span'') s = (a.1 ++ b.1, b.2) := by
  have hcalls := (env.stacks_eval hscripted (.mk parts span) s).1
  unfold eval at hcalls ⊢
  dsimp only
  rw [hcalls, evalAt_eq, evalAt_eq, evalAt_eq]
  exact evalParts_append _ _ parts parts' s

theorem Argument.evaluate_evalAt (a : Argument) {s : State}
    (h : env.services.limits.maxDepth - s.calls.length = depth) :
    a.evaluate (evalAt env depth) s = a.evaluate env.eval s ∧
      (a.evaluate env.eval s).2.calls = s.calls := by
  subst h
  unfold evaluate
  cases a.source with
  | default text => exact ⟨rfl, rfl⟩
  | code statement => exact ⟨rfl, (env.stacks_eval hscripted statement s).1⟩

theorem resolveSlot_evalAt (args : List Argument) {s : State}
    (h : env.services.limits.maxDepth - s.calls.length = depth) :
    resolveSlot (evalAt env depth) args s = resolveSlot env.eval args s ∧
      (resolveSlot env.eval args s).2.calls = s.calls := by
  induction args generalizing s with
  | nil => exact ⟨rfl, rfl⟩
  | cons a args ih =>
    obtain ⟨heval, hcalls⟩ := a.evaluate_evalAt hscripted h
    unfold resolveSlot
    split
    · obtain ⟨hargs, hkept⟩ := ih (s := (a.evaluate env.eval s).2) (by rw [hcalls, h])
      simp only [heval, hargs, hkept, hcalls, and_self]
    · obtain ⟨hargs, hkept⟩ := ih h
      simp only [hargs, hkept, and_self]

theorem resolveSlots_evalAt (slots : List (List Argument)) {s : State}
    (h : env.services.limits.maxDepth - s.calls.length = depth) :
    resolveSlots (evalAt env depth) slots s = resolveSlots env.eval slots s ∧
      (resolveSlots env.eval slots s).2.calls = s.calls := by
  induction slots generalizing s with
  | nil => exact ⟨rfl, rfl⟩
  | cons slot slots ih =>
    obtain ⟨hslot, hcalls⟩ := resolveSlot_evalAt hscripted slot h
    obtain ⟨hslots, hkept⟩ := ih (s := (resolveSlot env.eval slot s).2) (by rw [hcalls, h])
    simp only [resolveSlots, hslot, hslots, hkept, hcalls, and_self]

theorem Query.answer_evalAt (q : Query) {t : Activation}
    (h : env.services.limits.maxDepth - t.state.calls.length = depth) :
    q.answer env.services (evalAt env depth) t = q.answer env.services env.eval t ∧
      (q.answer env.services env.eval t).2.state.calls = t.state.calls ∧
      (q.answer env.services env.eval t).2.state.outer = t.state.outer := by
  rw [answer_eq_meet, answer_eq_meet]
  cases hneed : q.need env.services t with
  | answered a u =>
    have hlevel := (settles_of_need hneed).level
    exact ⟨rfl, hlevel.calls, hlevel.outer⟩
  | evaluates statement s resume =>
    obtain ⟨leave, hdetour, hresume⟩ := detour_of_need hneed
    have hs : s.calls.length = t.state.calls.length := by cases hdetour <;> rfl
    have heval : evalAt env depth statement s = env.eval statement s := by
      rw [← h]
      exact evalAt_eq_eval env statement hs
    obtain ⟨hcalls, houter⟩ := env.stacks_eval hscripted statement s
    simp only [Need.meet, heval, (hresume _ _).1, true_and]
    exact hdetour.stacks_eq hcalls houter

theorem Script.run_evalAt {α : Type} (body : Script α) {t : Activation}
    (h : env.services.limits.maxDepth - t.state.calls.length = depth) :
    body.run env.services (evalAt env depth) t = body.run env.services env.eval t ∧
      (body.run env.services env.eval t).2.state.calls = t.state.calls ∧
      (body.run env.services env.eval t).2.state.outer = t.state.outer := by
  induction body generalizing t with
  | done a => exact ⟨rfl, rfl, rfl⟩
  | ask q next ih =>
    obtain ⟨hanswer, hcalls, houter⟩ := q.answer_evalAt hscripted h
    unfold run
    rw [hanswer]
    obtain ⟨hnext, hcalls', houter'⟩ := ih (q.answer env.services env.eval t).1
      (t := (q.answer env.services env.eval t).2) (by rw [hcalls, h])
    exact ⟨hnext, hcalls'.trans hcalls, houter'.trans houter⟩

end Inside

theorem Binding.eq_of_bind {η : Type} {signatures : List (Signature η)} {args : List Statement}
    {signature : Signature η} {bound : Arguments}
    (h : Binding.bind signatures args = .ok (signature, bound)) :
    signature.accepts args.length = true ∧ bound = ⟨signature.parameters,
      Binding.assign signature.parameters (args.length - signature.least) args⟩ := by
  unfold Binding.bind at h
  split at h
  · cases h
  · rename_i hfind
    cases h
    exact ⟨(List.find?_some hfind :), rfl⟩

/-- A call that binds: it is reached in a running state and not cancelled, its name is evaluated
without leaving the run, it is found, counted and not nested too deep, and a signature takes its
arguments. -/
structure BoundCall (env : Env) (s : State) (name : Statement) (args : List Statement)
    (span : Span) where
  definition : Definition Handler
  signature : Signature Handler
  bound : Arguments
  running : s.isRunning = true
  going : (env.services.tick s).1 = true
  named : (env.eval name (env.services.tick s).2).2.isRunning = true
  found : env.registry.lookup (normalize (env.eval name (env.services.tick s).2).1) = some definition
  may : (env.eval name (env.services.tick s).2).2.MayCall env.services.limits
  binds : Binding.bind definition.signatures args = .ok (signature, bound)

namespace BoundCall

variable {env : Env} {s : State} {name : Statement} {args : List Statement} {span : Span}

/-- The call as it stands among those in progress. -/
def frame (_ : BoundCall env s name args span) : CallFrame :=
  ⟨normalize (env.eval name (env.services.tick s).2).1, span⟩

variable (c : BoundCall env s name args span)

/-- The state in which the call has been counted and put on top of those in progress. -/
def entered : State := (env.eval name (env.services.tick s).2).2.called c.frame

/-- The arguments and the state after the eager arguments have been evaluated. -/
def resolved : List (List Argument) × State := resolveSlots env.eval c.bound.slots c.entered

def opening : Activation :=
  ⟨{ c.bound with slots := c.resolved.1 }, c.resolved.2.started c.frame⟩

/-- The outcome of the handler, and the call as the handler leaves it. -/
def handled : Outcome × Activation :=
  c.signature.handler.run env.services env.eval c.frame.name c.opening

theorem isRunning_entered : c.entered.isRunning = true := c.named

theorem mem_signatures : c.signature ∈ c.definition.signatures := Binding.mem_of_bind c.binds

theorem signature_of_single {signature : Signature Handler}
    (h : c.definition.signatures = [signature]) : c.signature = signature := by
  have hmem := c.mem_signatures
  rwa [h, List.mem_singleton] at hmem

variable (hscripted : env.registry.Scripted)

include hscripted

theorem calls_entered : c.entered.calls = c.frame :: s.calls :=
  congrArg (c.frame :: ·) ((env.stacks_eval hscripted name _).1.trans (tick_calls env.services s))

theorem perform_eq_handled {depth : Nat}
    (h : env.services.limits.maxDepth - c.entered.calls.length = depth) :
    perform env.services (evalAt env depth) c.signature.handler c.bound c.frame
        ((env.eval name (env.services.tick s).2).2.charged .calls) =
      if c.resolved.2.isRunning then (c.handled.1, c.handled.2.state.popCall)
      else (.ok none, c.resolved.2.popCall) := by
  obtain ⟨hresolved, hcalls⟩ := resolveSlots_evalAt hscripted c.bound.slots h
  obtain ⟨body, hbody⟩ := hscripted _ _ c.found _ c.mem_signatures
  have hopening : env.services.limits.maxDepth - c.opening.state.calls.length = depth := by
    rw [← h]
    exact congrArg (env.services.limits.maxDepth - ·.length) hcalls
  have hhandled : c.handled = (ExceptT.run (body ⟨c.frame.name, env.services.plugins,
      env.services.origin⟩)).run env.services (evalAt env depth) c.opening := by
    rw [(Script.run_evalAt hscripted _ hopening).1, handled, hbody]
    rfl
  rw [hbody, hhandled]
  have hstate : resolveSlots (evalAt env depth) c.bound.slots
      (((env.eval name (env.services.tick s).2).2.charged .calls).pushCall c.frame) = c.resolved :=
    hresolved
  cases hrunning : c.resolved.2.isRunning with
  | true =>
    rw [perform_started (by rw [hstate, hrunning]), hstate]
    rfl
  | false =>
    rw [perform_unstarted (by rw [hstate, hrunning]), hstate]
    rfl

theorem stacks_handled : c.handled.2.state.calls = c.opening.state.calls ∧
    c.handled.2.state.outer = c.opening.state.outer := by
  obtain ⟨body, hbody⟩ := hscripted _ _ c.found _ c.mem_signatures
  unfold handled
  rw [hbody]
  exact (Script.run_evalAt hscripted _ rfl).2

theorem eval_eq (span' : Span) :
    env.eval (.mk [.call name args span] span') s =
      if c.resolved.2.isRunning then
        conclude env.services c.frame.name span c.handled.1 c.handled.2.state.popCall
      else ("", c.resolved.2.popCall) := by
  obtain ⟨hbelow, hshallow⟩ := c.may
  have hcalls := (env.stacks_eval hscripted name (env.services.tick s).2).1.trans
    (tick_calls env.services s)
  obtain ⟨depth, hdepth⟩ : ∃ depth, env.services.limits.maxDepth - s.calls.length = depth + 1 := by
    rw [hcalls] at hshallow
    exact ⟨env.services.limits.maxDepth - s.calls.length - 1, by omega⟩
  have hentered : env.services.limits.maxDepth - c.entered.calls.length = depth := by
    rw [c.calls_entered hscripted, List.length_cons]
    omega
  have hname : evalParts env.services (respond env (env.inner (depth + 1))) name.parts
      (env.services.tick s).2 = env.eval name (env.services.tick s).2 := by
    rw [← evalAt_eq, ← hdepth]
    exact evalAt_eq_eval env name (congrArg List.length (tick_calls env.services s))
  have hpart : evalPart env.services (respond env (env.inner (depth + 1))) (.call name args span) s =
      if c.resolved.2.isRunning then
        conclude env.services c.frame.name span c.handled.1 c.handled.2.state.popCall
      else ("", c.resolved.2.popCall) := by
    rw [evalPart_ticked c.going, hname, if_pos c.named, respond_eq, Env.inner,
      invoke_bound c.found hbelow c.binds]
    have hperform := c.perform_eq_handled hscripted hentered
    unfold frame at hperform ⊢
    rw [hperform]
    split <;> rfl
  have hstatement : env.eval (.mk [.call name args span] span') s =
      evalParts env.services (respond env (env.inner (depth + 1))) [.call name args span] s := by
    unfold Env.eval
    rw [hdepth, evalAt_eq]
    rfl
  rw [hstatement, evalParts_cons c.running, hpart]
  simp only [evalParts, String.append_empty]

end BoundCall

open Fork in
/-- A call that selects among its arguments evaluates its conditions and gives the answer to
them. -/
theorem BoundCall.eval_of_fork {env : Env} (hscripted : env.registry.Scripted) {s : State}
    {name : Statement} {args : List Statement} {span : Span}
    (c : BoundCall env s name args span) {fork : Fork} {description : String}
    (hsignature : c.signature = fork.signature description) (span' : Span) :
    let b := evalEach env.eval (args.take fork.conditions.length) c.entered
    let a := fork.answer env.eval ⟨c.frame.name, env.services.plugins, env.services.origin⟩ b.1
      (args.drop fork.conditions.length) (b.2.started c.frame)
    env.eval (.mk [.call name args span] span') s =
      if b.2.isRunning then conclude env.services c.frame.name span a.1 a.2.popCall
      else ("", b.2.popCall) := by
  intro b a
  obtain ⟨haccepts, hbound⟩ := Binding.eq_of_bind c.binds
  rw [hsignature] at haccepts hbound
  have htakes := (fork.accepts_signature description args.length).mp haccepts
  have hslots : c.bound.slots = pending fork.conditions (args.take fork.conditions.length) ++
      fork.slots (args.drop fork.conditions.length) := by
    have hfind : [fork.signature description].find? (·.accepts args.length) =
      some (fork.signature description) := List.find?_cons_of_pos haccepts
    have hbind := bind_signatures hfind htakes
    rw [hbound, ← (Binding.eq_of_bind hbind).2]
  have hlength := length_conditions_lt htakes
  have htake : (args.take fork.conditions.length).length = fork.conditions.length := by
    rw [List.length_take]
    omega
  have hdrop : (args.drop fork.conditions.length).length = args.length - fork.conditions.length :=
    List.length_drop
  obtain ⟨hstate, hfilled⟩ := resolveSlots_pending env.eval fork.conditions_eager htake
    (fork.isEager_slots (args.drop fork.conditions.length)) c.entered
  rw [← hslots] at hstate hfilled
  have hresolved : c.resolved.2 = b.2 := hstate
  rw [c.eval_eq hscripted, hresolved]
  cases hrunning : b.2.isRunning with
  | false => rfl
  | true =>
    have hall : fork.Takes ((args.take fork.conditions.length).length +
        (args.drop fork.conditions.length).length) := by
      rw [htake, hdrop, Nat.add_sub_cancel' (Nat.le_of_lt hlength)]
      exact htakes
    have hrun := run_script env.services env.eval fork c.frame.name htake
      ((length_evalEach hrunning).trans htake) hall c.bound.parameters
      (b.2.started c.frame)
    have hopening : c.opening = ⟨⟨c.bound.parameters, evaluated fork.conditions
        (args.take fork.conditions.length) b.1 ++ fork.slots (args.drop fork.conditions.length)⟩,
        b.2.started c.frame⟩ := by
      unfold opening resolved
      rw [hfilled hrunning]
    have hhandled : (c.handled.1, c.handled.2.state) = a := by
      rw [handled, hsignature, hopening]
      exact hrun
    rw [if_pos rfl, if_pos rfl, ← hhandled]

theorem Env.eval_stopped {env : Env} {s : State} (h : s.isRunning = false) (statement : Statement) :
    env.eval statement s = ("", s) := by
  unfold eval
  rw [evalAt_eq]
  exact evalParts_stopped h _

theorem Env.eval_literal (env : Env) {s : State} (h : s.isRunning = true) (text : String)
    (span span' : Span) : env.eval (.mk [.literal text span] span') s = (text, s) := by
  unfold Env.eval
  rw [evalAt_eq]
  exact (evalStatement_eq _ _ _ s).symm.trans (evalStatement_literal h text span span')

def BoundCall.ofPlain {env : Env} {s : State} {name : String} {args : List Statement}
    {d : Definition Handler} {b : Signature Handler × Arguments} (running : s.isRunning = true)
    (going : (env.services.tick s).1 = true)
    (may : (env.services.tick s).2.MayCall env.services.limits)
    (found : env.registry.lookup (normalize name) = some d)
    (binds : Binding.bind d.signatures args = .ok b) (nameSpan span : Span) :
    BoundCall env s (.mk [.literal name nameSpan] nameSpan) args span :=
  have hname := env.eval_literal ((tick_isRunning going).trans running) name nameSpan nameSpan
  { definition := d
    signature := b.1
    bound := b.2
    running
    going
    named := by
      rw [hname]
      exact (tick_isRunning going).trans running
    found := by
      rw [hname]
      exact found
    may := by
      rw [hname]
      exact may
    binds }

section Plain

variable {env : Env} {s : State} {name : String} {nameSpan : Span} {args : List Statement}
  {span : Span} (c : BoundCall env s (.mk [.literal name nameSpan] nameSpan) args span)

include c in
theorem BoundCall.eval_plainName :
    env.eval (.mk [.literal name nameSpan] nameSpan) (env.services.tick s).2 =
      (name, (env.services.tick s).2) :=
  env.eval_literal ((tick_isRunning c.going).trans c.running) name nameSpan nameSpan

theorem BoundCall.frame_of_plain : c.frame = ⟨normalize name, span⟩ := by
  rw [frame, c.eval_plainName]

theorem BoundCall.entered_of_plain : c.entered = (env.services.tick s).2.called c.frame := by
  rw [entered, c.eval_plainName]

theorem BoundCall.opening_of_plain (h : c.resolved.2 = c.entered) :
    c.opening.state = ((env.services.tick s).2.called c.frame).started c.frame := by
  unfold opening
  rw [h, c.entered_of_plain]

end Plain

section Standard

open Subtags

def Subtags.repeatSignature (description : String) : Signature Handler where
  parameters := [⟨"code", .deferred, .required⟩, ⟨"amount", .eager, .required⟩]
  description
  handler := .script repeatCode
  least := 2

def Subtags.forEachSignature (description : String) : Signature Handler where
  parameters := [⟨"variable", .eager, .required⟩, ⟨"array", .eager, .required⟩,
    ⟨"code", .deferred, .required⟩]
  description
  handler := .script forEach
  least := 3

theorem Subtags.declares_repeat : Declares repeatDeclaration repeatSignature :=
  ⟨by simp [standardDeclarations, iterationDeclarations], _, _, _, rfl, rfl⟩

theorem Subtags.declares_foreach : Declares foreachDeclaration forEachSignature :=
  ⟨by simp [standardDeclarations, iterationDeclarations], _, _, _, rfl, rfl⟩

namespace BoundCall

variable {e : Engine} (he : e.Standard) {r : Request} {s : State} {name : Statement}
  {args : List Statement} {span : Span} (c : BoundCall (e.env r) s name args span)

include he

theorem signature_of_declares {declaration : Declaration Handler}
    {signature : String → Signature Handler} (h : Declares declaration signature)
    (hid : c.definition.id = Text.lower declaration.id) :
    ∃ description, c.signature = signature description := by
  obtain ⟨description, hone⟩ := he.signatures_of_declares c.found h hid
  exact ⟨description, c.signature_of_single hone⟩

theorem args_of_foreach (hid : c.definition.id = "foreach") :
    ∃ description target array code, c.signature = forEachSignature description ∧
      args = [target, array, code] ∧
      c.bound.slots = pending [⟨"variable", .eager, .required⟩, ⟨"array", .eager, .required⟩]
        [target, array] ++ [[.supplied ⟨"code", .deferred, .required⟩ code]] := by
  obtain ⟨description, hsignature⟩ := c.signature_of_declares he declares_foreach hid
  obtain ⟨haccepts, hbound⟩ := Binding.eq_of_bind c.binds
  rw [hsignature] at haccepts hbound
  have hlength : args.length = 3 := by
    have hrange : (decide (3 ≤ args.length) && decide (args.length ≤ 3)) = true := haccepts
    simp only [Bool.and_eq_true, decide_eq_true_eq] at hrange
    omega
  obtain ⟨target, array, code, rfl⟩ := List.length_eq_three.mp hlength
  exact ⟨description, target, array, code, hsignature, rfl, by rw [hbound]; rfl⟩

end BoundCall

end Standard

def Request.patient (limits : Limits) : Request := { signal? := some {}, limits? := some limits }

theorem Engine.tick_patient (e : Engine) (limits : Limits) {s : State} (h : s.tripped = false) :
    ((e.env (.patient limits)).services.tick s).1 = true := by
  have hdeadline : (e.env (.patient limits)).services.deadline? = none := rfl
  have htrips (n : Nat) : (e.env (.patient limits)).services.tripsAt n = false := rfl
  rw [tick_eq]
  unfold Services.look Services.isSignalled Services.yieldIfDue
  rw [hdeadline]
  split <;> simp_all [State.stepped, State.note]

theorem State.mayCall_tick {svc : Services} {s : State} :
    (svc.tick s).2.MayCall svc.limits ↔ s.MayCall svc.limits := by
  unfold MayCall
  rw [tick_calls, (tick_counts _ _).2.1]

section Plain

variable {e : Engine} (he : e.Standard) (args : List Statement) {declaration : Declaration Handler}
  (hmem : declaration ∈ Subtags.standardDeclarations) {patterns : List String} {text : String}
  {handler : Handler} (hone : declaration.signatures = [(patterns, text, handler)])
  {signature : Signature Handler}
  (hcompile : Signature.compile patterns text handler = .ok signature) {bound : Arguments}
  (hbind : Binding.bind [signature] args = .ok (signature, bound)) {name : String}
  (hkey : normalize (normalize name) ∈ declaration.keys) {limits : Limits}

include he hmem hone hcompile hbind hkey

theorem Engine.Standard.exists_boundCall_of_tick {r : Request} {s : State}
    (hrunning : s.isRunning = true) (hgoing : ((e.env r).services.tick s).1 = true)
    (hmay : s.MayCall (e.env r).services.limits) (nameSpan span : Span) :
    ∃ c : BoundCall (e.env r) s (.mk [.literal name nameSpan] nameSpan) args span,
      c.definition.id = Text.lower declaration.id ∧ c.signature = signature ∧ c.bound = bound := by
  obtain ⟨d, hdeclaration, hd⟩ := he.lookup_of_key hmem hkey
  have hsignatures := Definition.signatures_of_single hdeclaration hone hcompile
  rw [← hsignatures] at hbind
  refine ⟨.ofPlain hrunning hgoing (State.mayCall_tick.mpr hmay) hd hbind nameSpan span, ?_, rfl, rfl⟩
  exact (Definition.of_declaration hdeclaration).1

theorem Engine.Standard.exists_boundCall_at {s : State} (hrunning : s.isRunning = true)
    (htripped : s.tripped = false) (hmay : s.MayCall limits) (nameSpan span : Span) :
    ∃ c : BoundCall (e.env (.patient limits)) s (.mk [.literal name nameSpan] nameSpan) args span,
      c.definition.id = Text.lower declaration.id ∧ c.signature = signature ∧ c.bound = bound :=
  he.exists_boundCall_of_tick args hmem hone hcompile hbind hkey hrunning
    (e.tick_patient limits htripped) hmay nameSpan span

theorem Engine.Standard.exists_boundCall (hcalls : 0 < limits.maxCalls) (hdepth : 0 < limits.maxDepth)
    (store : Store) (nameSpan span : Span) :
    ∃ c : BoundCall (e.env (.patient limits)) { store } (.mk [.literal name nameSpan] nameSpan) args
      span, c.definition.id = Text.lower declaration.id ∧ c.signature = signature ∧
        c.bound = bound := by
  have hmay : ({ store } : State).MayCall limits := ⟨hcalls, hdepth⟩
  exact he.exists_boundCall_at args hmem hone hcompile hbind hkey rfl rfl hmay nameSpan span

end Plain

end BraceScript
