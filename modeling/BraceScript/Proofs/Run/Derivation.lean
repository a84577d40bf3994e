import BraceScript.Proofs.Run.Calls
import BraceScript.Proofs.Run.Evaluation
import BraceScript.Proofs.Run.Questions

namespace BraceScript

inductive Task where
  | parts (parts : List Part) (s : State)
  | part (part : Part) (s : State)
  | invocation (name : String) (args : List Statement) (span : Span) (s : State)
  | slot (args : List Argument) (s : State)
  | slots (slots : List (List Argument)) (s : State)
  | script (body : Script Outcome) (t : Activation)

namespace Task

abbrev Result : Task → Type
  | parts _ _ | part _ _ => String × State
  | invocation _ _ _ _ => Outcome × State
  | slot _ _ => List Argument × State
  | slots _ _ => List (List Argument) × State
  | script _ _ => Outcome × Activation

abbrev before : Task → State
  | parts _ s | part _ s | invocation _ _ _ s | slot _ s | slots _ s => s
  | script _ t => t.state

abbrev after : (k : Task) → k.Result → State
  | parts _ _, r | part _ _, r => r.2
  | invocation _ _ _ _, r => r.2
  | slot _ _, r => r.2
  | slots _ _, r => r.2
  | script _ _, r => r.2.state

end Task

inductive Ends (env : Env) : (k : Task) → k.Result → Prop
  | nil (s : State) : Ends env (.parts [] s) ("", s)
  | stopped {s : State} (part : Part) (parts : List Part) : s.isRunning = false →
    Ends env (.parts (part :: parts) s) ("", s)
  | cons {s : State} {part : Part} {parts : List Part} {a b : String × State} :
    s.isRunning = true → Ends env (.part part s) a → Ends env (.parts parts a.2) b →
    Ends env (.parts (part :: parts) s) (a.1 ++ b.1, b.2)
  | literal (text : String) (span : Span) (s : State) : Ends env (.part (.literal text span) s) (text, s)
  | cancelled {s : State} (name : Statement) (args : List Statement) (span : Span) :
    (env.services.tick s).1 = false →
    Ends env (.part (.call name args span) s) ("", (env.services.tick s).2)
  | unnamed {s : State} {name : Statement} {a : String × State} (args : List Statement)
    (span : Span) : (env.services.tick s).1 = true →
    Ends env (.parts name.parts (env.services.tick s).2) a → a.2.isRunning = false →
    Ends env (.part (.call name args span) s) ("", a.2)
  | named {s : State} {name : Statement} {a : String × State} {args : List Statement} {span : Span}
    {b : Outcome × State} : (env.services.tick s).1 = true →
    Ends env (.parts name.parts (env.services.tick s).2) a → a.2.isRunning = true →
    Ends env (.invocation (normalize a.1) args span a.2) b →
    Ends env (.part (.call name args span) s) (conclude env.services (normalize a.1) span b.1 b.2)
  | unknown {name : String} (args : List Statement) (span : Span) (s : State) :
    env.registry.lookup name = none →
    Ends env (.invocation name args span s) (.error (.unknownSubtag name), s)
  | uncounted {name : String} {d : Definition Handler} (args : List Statement) (span : Span)
    {s : State} : env.registry.lookup name = some d →
    env.services.limits.ceiling .calls ≤ s.usage.used .calls →
    Ends env (.invocation name args span s) (Services.refuse
      (.limitExceeded Resource.calls.label (env.services.limits.ceiling .calls)) s)
  -- No evaluation starts where as many calls are in progress as may be nested.
  | deep {name : String} {d : Definition Handler} (args : List Statement) (span : Span)
    {s : State} : env.registry.lookup name = some d →
    s.usage.used .calls < env.services.limits.ceiling .calls →
    env.services.limits.maxDepth ≤ s.calls.length →
    Ends env (.invocation name args span s)
      (Services.refuse env.services.limits.depthExceeded (s.charged .calls))
  | unbound {name : String} {d : Definition Handler} {args : List Statement} (span : Span)
    {s : State} {e : Error} : env.registry.lookup name = some d → s.MayCall env.services.limits →
    Binding.bind d.signatures args = .error e →
    Ends env (.invocation name args span s) (.error e, s.charged .calls)
  | unstarted {name : String} {d : Definition Handler} {args : List Statement} {span : Span}
    {s : State} {signature : Signature Handler} {bound : Arguments}
    {a : List (List Argument) × State} : env.registry.lookup name = some d →
    s.MayCall env.services.limits → Binding.bind d.signatures args = .ok (signature, bound) →
    Ends env (.slots bound.slots (s.called ⟨name, span⟩)) a → a.2.isRunning = false →
    Ends env (.invocation name args span s) (.ok none, a.2.popCall)
  | started {name : String} {d : Definition Handler} {args : List Statement} {span : Span}
    {s : State} {signature : Signature Handler} {bound : Arguments}
    {a : List (List Argument) × State} {body : Invocation → Action (Option String)}
    {b : Outcome × Activation} : env.registry.lookup name = some d →
    s.MayCall env.services.limits → Binding.bind d.signatures args = .ok (signature, bound) →
    Ends env (.slots bound.slots (s.called ⟨name, span⟩)) a → a.2.isRunning = true →
    signature.handler = .script body →
    Ends env (.script (ExceptT.run (body ⟨name, env.services.plugins, env.services.origin⟩))
      ⟨{ bound with slots := a.1 }, a.2.started ⟨name, span⟩⟩) b →
    Ends env (.invocation name args span s) (b.1, b.2.state.popCall)
  | slotNil (s : State) : Ends env (.slot [] s) ([], s)
  | eager {a : Argument} {args : List Argument} {s : State} {statement : Statement}
    {b : String × State} {c : List Argument × State} : a.isEager = true → s.isRunning = true →
    a.source = .code statement → Ends env (.parts statement.parts s) b →
    Ends env (.slot args b.2) c →
    Ends env (.slot (a :: args) s) ({ a with value? := some b.1 } :: c.1, c.2)
  | deferred {a : Argument} {args : List Argument} {s : State} {c : List Argument × State} :
    (a.isEager && s.isRunning) = false → Ends env (.slot args s) c →
    Ends env (.slot (a :: args) s) (a :: c.1, c.2)
  | slotsNil (s : State) : Ends env (.slots [] s) ([], s)
  | slotsCons {slot : List Argument} {slots : List (List Argument)} {s : State}
    {b : List Argument × State} {c : List (List Argument) × State} : Ends env (.slot slot s) b →
    Ends env (.slots slots b.2) c → Ends env (.slots (slot :: slots) s) (b.1 :: c.1, c.2)
  | done (outcome : Outcome) (t : Activation) : Ends env (.script (.done outcome) t) (outcome, t)
  | answered {q : Query} {next : q.Answer → Script Outcome} {t u : Activation} {a : q.Answer}
    {b : Outcome × Activation} : q.need env.services t = .answered a u →
    Ends env (.script (next a) u) b → Ends env (.script (.ask q next) t) b
  | evaluated {q : Query} {next : q.Answer → Script Outcome} {t : Activation}
    {statement : Statement} {s : State} {resume : String → State → q.Answer × Activation}
    {a : String × State} {b : Outcome × Activation} :
    q.need env.services t = .evaluates statement s resume → Ends env (.parts statement.parts s) a →
    Ends env (.script (next (resume a.1 a.2).1) (resume a.1 a.2).2) b →
    Ends env (.script (.ask q next) t) b

def Task.KeepsSources : (k : Task) → k.Result → Prop
  | .slot args _, r => r.1.map Argument.source = args.map Argument.source
  | .slots list _, r => r.1.map (·.map Argument.source) = list.map (·.map Argument.source)
  | _, _ => True

namespace Ends

variable {env : Env} {k : Task} {r : k.Result}

theorem stacks_eq (h : Ends env k r) :
    (k.after r).calls = k.before.calls ∧ (k.after r).outer = k.before.outer := by
  have hconclude (svc : Services) (name : String) (span : Span) (o : Outcome) (s : State) :
      (conclude svc name span o s).2.calls = s.calls ∧
        (conclude svc name span o s).2.outer = s.outer := by
    cases o with
    | ok text => exact ⟨rfl, rfl⟩
    | error e =>
      have hkeeps := State.Keeps.fail svc name span e s
      exact ⟨hkeeps.calls, hkeeps.outer⟩
  have htick (s : State) := State.Keeps.tick env.services s
  induction h with
  | nil | stopped | literal | unknown | uncounted | deep | unbound | slotNil | slotsNil | done =>
    exact ⟨rfl, rfl⟩
  | cons _ _ _ ih ih' => exact ⟨ih'.1.trans ih.1, ih'.2.trans ih.2⟩
  | cancelled => exact ⟨(htick _).calls, (htick _).outer⟩
  | unnamed _ _ _ _ _ ih => exact ⟨ih.1.trans (htick _).calls, ih.2.trans (htick _).outer⟩
  | named _ _ _ _ ih ih' =>
    obtain ⟨hcalls, houter⟩ := hconclude _ _ _ _ _
    exact ⟨hcalls.trans (ih'.1.trans (ih.1.trans (htick _).calls)),
      houter.trans (ih'.2.trans (ih.2.trans (htick _).outer))⟩
  | unstarted _ _ _ _ _ ih => exact ⟨congrArg List.tail ih.1, ih.2⟩
  | started _ _ _ _ _ _ _ ih ih' =>
    exact ⟨congrArg List.tail (ih'.1.trans ih.1), ih'.2.trans ih.2⟩
  | eager _ _ _ _ _ ih ih' => exact ⟨ih'.1.trans ih.1, ih'.2.trans ih.2⟩
  | deferred _ _ ih => exact ih
  | slotsCons _ _ ih ih' => exact ⟨ih'.1.trans ih.1, ih'.2.trans ih.2⟩
  | answered hneed _ ih =>
    have hlevel := (Query.settles_of_need hneed).level
    exact ⟨ih.1.trans hlevel.calls, ih.2.trans hlevel.outer⟩
  | evaluated hneed _ _ ih ih' =>
    obtain ⟨leave, hdetour, hresume⟩ := Query.detour_of_need hneed
    have hleft := hdetour.stacks_eq ih.1 ih.2
    rw [← (hresume _ _).1] at hleft
    exact ⟨ih'.1.trans hleft.1, ih'.2.trans hleft.2⟩

theorem keepsSources (h : Ends env k r) : k.KeepsSources r := by
  induction h with
  | slotNil | slotsNil => rfl
  | eager _ _ _ _ _ _ ih => exact congrArg (List.cons _) ih
  | deferred _ _ ih => exact congrArg (List.cons _) ih
  | slotsCons _ _ ih ih' => exact congrArg₂ List.cons ih ih'
  | _ => trivial

theorem length_calls (h : Ends env k r) : (k.after r).calls.length = k.before.calls.length :=
  congrArg List.length h.stacks_eq.1

end Ends

section Total

variable {env : Env}

def EndsAt (env : Env) (n : Nat) : Prop :=
  ∀ parts s, s.calls.length = n → ∃ r : String × State, Ends env (.parts parts s) r

theorem exists_ends_slot {n : Nat} (h : EndsAt env n) (args : List Argument) (s : State)
    (hs : s.calls.length = n) : ∃ r : List Argument × State, Ends env (.slot args s) r := by
  induction args generalizing s with
  | nil => exact ⟨_, .slotNil s⟩
  | cons a args ih =>
    cases heager : a.isEager && s.isRunning with
    | false =>
      obtain ⟨c, hc⟩ := ih s hs
      exact ⟨_, .deferred heager hc⟩
    | true =>
      obtain ⟨ha, hrunning⟩ := Bool.and_eq_true_iff.mp heager
      cases hsource : a.source with
      | default text => simp [Argument.isEager, Argument.isSupplied, Argument.statement?, hsource] at ha
      | code statement =>
        obtain ⟨b, hb⟩ := h statement.parts s hs
        obtain ⟨c, hc⟩ := ih b.2 (hb.length_calls.trans hs)
        exact ⟨_, .eager ha hrunning hsource hb hc⟩

theorem exists_ends_slots {n : Nat} (h : EndsAt env n) (slots : List (List Argument)) (s : State)
    (hs : s.calls.length = n) : ∃ r : List (List Argument) × State, Ends env (.slots slots s) r := by
  induction slots generalizing s with
  | nil => exact ⟨_, .slotsNil s⟩
  | cons slot slots ih =>
    obtain ⟨b, hb⟩ := exists_ends_slot h slot s hs
    obtain ⟨c, hc⟩ := ih b.2 (hb.length_calls.trans hs)
    exact ⟨_, .slotsCons hb hc⟩

theorem exists_ends_script {n : Nat} (h : EndsAt env n) (body : Script Outcome) (t : Activation)
    (ht : t.state.calls.length = n) : ∃ r : Outcome × Activation, Ends env (.script body t) r := by
  induction body generalizing t with
  | done outcome => exact ⟨_, .done outcome t⟩
  | ask q next ih =>
    cases hneed : q.need env.services t with
    | answered a u =>
      have hu : u.state.calls.length = n := by
        rw [(Query.settles_of_need hneed).level.calls, ht]
      obtain ⟨b, hb⟩ := ih a u hu
      exact ⟨b, .answered hneed hb⟩
    | evaluates statement s resume =>
      obtain ⟨leave, hdetour, hresume⟩ := Query.detour_of_need hneed
      have hs : s.calls.length = n := by cases hdetour <;> exact ht
      obtain ⟨a, ha⟩ := h statement.parts s hs
      have hleft : (resume a.1 a.2).2.state.calls.length = n := by
        rw [(hresume a.1 a.2).1, (hdetour.stacks_eq ha.stacks_eq.1 ha.stacks_eq.2).1, ht]
      obtain ⟨b, hb⟩ := ih _ _ hleft
      exact ⟨b, .evaluated hneed ha hb⟩

def CallsEndAt (env : Env) (n : Nat) : Prop :=
  ∀ name args span s, s.calls.length = n →
    ∃ r : Outcome × State, Ends env (.invocation name args span s) r

theorem callsEndAt_of_endsAt (hscripted : env.registry.Scripted) {n : Nat}
    (h : n < env.services.limits.maxDepth → EndsAt env (n + 1)) : CallsEndAt env n := by
  intro name args span s hs
  cases hd : env.registry.lookup name with
  | none => exact ⟨_, .unknown args span s hd⟩
  | some d =>
    by_cases hfull : env.services.limits.ceiling .calls ≤ s.usage.used .calls
    · exact ⟨_, .uncounted args span hd hfull⟩
    have hbelow := Nat.lt_of_not_le hfull
    by_cases hdeep : env.services.limits.maxDepth ≤ s.calls.length
    · exact ⟨_, .deep args span hd hbelow hdeep⟩
    have hmay : s.MayCall env.services.limits := ⟨hbelow, Nat.lt_of_not_le hdeep⟩
    have hinner : EndsAt env (n + 1) := h (hs ▸ hmay.2)
    cases hbind : Binding.bind d.signatures args with
    | error e => exact ⟨_, .unbound span hd hmay hbind⟩
    | ok bound =>
      obtain ⟨signature, bound⟩ := bound
      have hcalled : (s.called ⟨name, span⟩).calls.length = n + 1 := congrArg (· + 1) hs
      obtain ⟨a, ha⟩ := exists_ends_slots hinner bound.slots _ hcalled
      cases hrunning : a.2.isRunning with
      | false => exact ⟨_, .unstarted hd hmay hbind ha hrunning⟩
      | true =>
        obtain ⟨body, hbody⟩ := hscripted name d hd signature (Binding.mem_of_bind hbind)
        obtain ⟨b, hb⟩ := exists_ends_script hinner
          (ExceptT.run (body ⟨name, env.services.plugins, env.services.origin⟩))
          ⟨{ bound with slots := a.1 }, a.2.started ⟨name, span⟩⟩ (ha.length_calls.trans hcalled)
        exact ⟨_, .started hd hmay hbind ha hrunning hbody hb⟩

mutual

theorem exists_ends_statement {n : Nat} (h : CallsEndAt env n) :
    ∀ (statement : Statement) (s : State), s.calls.length = n →
      ∃ r : String × State, Ends env (.parts statement.parts s) r
  | .mk parts _, s, hs => exists_ends_parts h parts s hs

theorem exists_ends_parts {n : Nat} (h : CallsEndAt env n) :
    ∀ (parts : List Part) (s : State), s.calls.length = n →
      ∃ r : String × State, Ends env (.parts parts s) r
  | [], s, _ => ⟨_, .nil s⟩
  | part :: parts, s, hs => by
    cases hrunning : s.isRunning with
    | false => exact ⟨_, .stopped part parts hrunning⟩
    | true =>
      obtain ⟨a, ha⟩ := exists_ends_part h part s hs
      obtain ⟨b, hb⟩ := exists_ends_parts h parts a.2 (ha.length_calls.trans hs)
      exact ⟨_, .cons hrunning ha hb⟩

theorem exists_ends_part {n : Nat} (h : CallsEndAt env n) :
    ∀ (part : Part) (s : State), s.calls.length = n →
      ∃ r : String × State, Ends env (.part part s) r
  | .literal text span, s, _ => ⟨_, .literal text span s⟩
  | .call name args span, s, hs => by
    cases htick : (env.services.tick s).1 with
    | false => exact ⟨_, .cancelled name args span htick⟩
    | true =>
      have hticked : (env.services.tick s).2.calls.length = n := by rw [tick_calls, hs]
      obtain ⟨a, ha⟩ := exists_ends_statement h name _ hticked
      cases hrunning : a.2.isRunning with
      | false => exact ⟨_, .unnamed args span htick ha hrunning⟩
      | true =>
        obtain ⟨b, hb⟩ := h (normalize a.1) args span a.2 (ha.length_calls.trans hticked)
        exact ⟨_, .named htick ha hrunning hb⟩

end

end Total

/-- Where calls are answered by scripts every sequence of parts ends, by induction on the number of
calls that may still be nested. -/
theorem endsAt_of_scripted {env : Env} (hscripted : env.registry.Scripted) (n : Nat) :
    EndsAt env n := by
  have hdepth (depth : Nat) : ∀ n, env.services.limits.maxDepth - n = depth → EndsAt env n := by
    induction depth with
    | zero =>
      intro n hn parts s hs
      exact exists_ends_parts (callsEndAt_of_endsAt hscripted (fun hlt ↦ by omega)) parts s hs
    | succ depth ih =>
      intro n hn parts s hs
      exact exists_ends_parts
        (callsEndAt_of_endsAt hscripted (fun _ ↦ ih (n + 1) (by omega))) parts s hs
  exact hdepth _ n rfl

/-- Evaluation inside of a call, where `depth` calls may be nested. -/
def Env.inner (env : Env) : Nat → Option Eval
  | 0 => none
  | depth + 1 => some (evalAt env depth)

/-- What the evaluator gives for a task where `depth` calls may be nested. -/
def Task.value (env : Env) (depth : Nat) : (k : Task) → k.Result
  | .parts ps s => evalParts env.services (respond env (env.inner depth)) ps s
  | .part p s => evalPart env.services (respond env (env.inner depth)) p s
  | .invocation name args span s => invoke env (env.inner depth) name args span s
  | .slot args s => resolveSlot (evalAt env depth) args s
  | .slots list s => resolveSlots (evalAt env depth) list s
  | .script body t => body.run env.services (evalAt env depth) t

section Equations

variable {svc : Services} {answer : Responder} {eval : Eval} {s : State}

theorem evalStatement_eq (svc : Services) (answer : Responder) (statement : Statement) (s : State) :
    evalStatement svc answer statement s = evalParts svc answer statement.parts s := by
  cases statement with
  | mk parts span => rw [evalStatement, Statement.parts]

theorem evalAt_eq (env : Env) (depth : Nat) (statement : Statement) (s : State) :
    evalAt env depth statement s =
      evalParts env.services (respond env (env.inner depth)) statement.parts s := by
  cases depth with
  | zero => exact evalStatement_eq _ _ statement s
  | succ depth => exact evalStatement_eq _ _ statement s

theorem evalParts_stopped (h : s.isRunning = false) (parts : List Part) :
    evalParts svc answer parts s = ("", s) := by
  cases parts with
  | nil => rw [evalParts]
  | cons part parts => rw [evalParts, h, if_neg Bool.false_ne_true]

theorem evalParts_cons (h : s.isRunning = true) (part : Part) (parts : List Part) :
    evalParts svc answer (part :: parts) s =
      ((evalPart svc answer part s).1 ++ (evalParts svc answer parts (evalPart svc answer part s).2).1,
        (evalParts svc answer parts (evalPart svc answer part s).2).2) := by
  rw [evalParts, h, if_pos rfl]

theorem evalParts_append (svc : Services) (answer : Responder) (parts parts' : List Part)
    (s : State) :
    let a := evalParts svc answer parts s
    let b := evalParts svc answer parts' a.2
    evalParts svc answer (parts ++ parts') s = (a.1 ++ b.1, b.2) := by
  induction parts generalizing s with
  | nil => simp [evalParts]
  | cons part parts ih =>
    cases hs : s.isRunning with
    | false => simp [evalParts_stopped hs]
    | true => simp [evalParts_cons hs, ih, String.append_assoc]

theorem evalPart_ticked (h : (svc.tick s).1 = true) (name : Statement) (args : List Statement)
    (span : Span) :
    let named := evalParts svc answer name.parts (svc.tick s).2
    evalPart svc answer (.call name args span) s =
      if named.2.isRunning then answer (normalize named.1) args span named.2 else ("", named.2) := by
  rw [evalPart_call, h, evalTicked, if_pos rfl, evalStatement_eq]

theorem resolveSlot_eager {a : Argument} (ha : a.isEager = true) (h : s.isRunning = true)
    {statement : Statement} (hsource : a.source = .code statement) (args : List Argument) :
    resolveSlot eval (a :: args) s =
      ({ a with value? := some (eval statement s).1 } ::
        (resolveSlot eval args (eval statement s).2).1,
        (resolveSlot eval args (eval statement s).2).2) := by
  have hevaluate : a.evaluate eval s = eval statement s := by rw [Argument.evaluate, hsource]
  rw [resolveSlot, ha, h, Bool.and_self, if_pos rfl, hevaluate]

theorem perform_unstarted {args : Arguments} {frame : CallFrame}
    (h : (resolveSlots eval args.slots (s.pushCall frame)).2.isRunning = false) (handler : Handler) :
    perform svc eval handler args frame s =
      (.ok none, (resolveSlots eval args.slots (s.pushCall frame)).2.popCall) := by
  rw [perform_eq, performInside]
  dsimp only
  rw [h, if_neg Bool.false_ne_true]

theorem perform_started {args : Arguments} {frame : CallFrame}
    (h : (resolveSlots eval args.slots (s.pushCall frame)).2.isRunning = true)
    (body : Invocation → Action (Option String)) :
    let a := resolveSlots eval args.slots (s.pushCall frame)
    let b := (ExceptT.run (body ⟨frame.name, svc.plugins, svc.origin⟩)).run svc eval
      ⟨{ args with slots := a.1 }, a.2.started frame⟩
    perform svc eval (.script body) args frame s = (b.1, b.2.state.popCall) := by
  intro a b
  rw [perform_eq, performInside]
  dsimp only
  rw [h, if_pos rfl]
  rfl

theorem invoke_counted {env : Env} {name : String} {d : Definition Handler}
    (hd : env.registry.lookup name = some d)
    (hbelow : s.usage.used .calls < env.services.limits.ceiling .calls) (inner : Option Eval)
    (args : List Statement) (span : Span) :
    invoke env inner name args span s =
      invokeCounted env inner d name args span (s.charged .calls) := by
  rw [invoke_eq env hd, Services.charge_eq, if_neg (Nat.not_le.mpr hbelow)]
  rfl

theorem invoke_bound {env : Env} {name : String} {d : Definition Handler}
    (hd : env.registry.lookup name = some d)
    (hbelow : s.usage.used .calls < env.services.limits.ceiling .calls) {args : List Statement}
    {signature : Signature Handler} {bound : Arguments}
    (hbind : Binding.bind d.signatures args = .ok (signature, bound)) (eval : Eval) (span : Span) :
    invoke env (some eval) name args span s =
      perform env.services eval signature.handler bound ⟨name, span⟩ (s.charged .calls) := by
  rw [invoke_counted hd hbelow, invokeCounted, hbind]

end Equations

theorem State.MayCall.exists_inner {s : State} {limits : Limits} (h : s.MayCall limits)
    {depth : Nat} (hdepth : limits.maxDepth - s.calls.length = depth) :
    ∃ inner, depth = inner + 1 ∧ limits.maxDepth - (s.calls.length + 1) = inner := by
  obtain ⟨-, hshallow⟩ := h
  exact ⟨depth - 1, by omega, by omega⟩

theorem Ends.eq_value {env : Env} {k : Task} {r : k.Result} (h : Ends env k r) :
    ∀ depth, env.services.limits.maxDepth - k.before.calls.length = depth →
      r = k.value env depth := by
  induction h with
  | nil s => exact fun _ _ ↦ rfl
  | stopped part parts hstopped => exact fun _ _ ↦ (evalParts_stopped hstopped _).symm
  | cons hrunning ha hb iha ihb =>
    intro depth hdepth
    obtain rfl := iha depth hdepth
    obtain rfl := ihb depth (by rw [ha.length_calls, hdepth])
    exact (evalParts_cons hrunning _ _).symm
  | literal text span s => exact fun _ _ ↦ rfl
  | cancelled name args span htick =>
    intro depth _
    change _ = evalPart _ _ _ _
    rw [evalPart_call, htick, evalTicked, if_neg Bool.false_ne_true]
  | unnamed args span htick ha hstopped iha =>
    intro depth hdepth
    obtain rfl := iha depth (by rw [tick_calls]; exact hdepth)
    exact ((evalPart_ticked htick _ args span).trans
      (if_neg (Bool.not_eq_true _ |>.mpr hstopped))).symm
  | named htick ha hrunning hb iha ihb =>
    intro depth hdepth
    have hb' := ihb depth (by rw [ha.length_calls, tick_calls]; exact hdepth)
    obtain rfl := iha depth (by rw [tick_calls]; exact hdepth)
    refine Eq.trans ?_ ((evalPart_ticked htick _ _ _).trans (if_pos hrunning)).symm
    rw [respond_eq, hb']
    rfl
  | unknown args span s hd =>
    intro depth _
    change _ = invoke _ _ _ _ _ _
    rw [invoke, hd]
  | uncounted args span hd hfull =>
    intro depth _
    change _ = invoke _ _ _ _ _ _
    rw [invoke_eq env hd, Services.charge_eq, if_pos hfull]
    rfl
  | @deep name d args span s hd hbelow hdeep =>
    intro depth hdepth
    change env.services.limits.maxDepth - s.calls.length = depth at hdepth
    obtain rfl : depth = 0 := by omega
    exact (invoke_counted hd hbelow none args span).symm
  | @unbound name d args span s e hd hmay hbind =>
    intro depth hdepth
    obtain ⟨inner, rfl, -⟩ := hmay.exists_inner hdepth
    refine Eq.trans ?_ (invoke_counted hd hmay.1 (some (evalAt env inner)) args span).symm
    rw [invokeCounted, hbind]
  | unstarted hd hmay hbind ha hstopped iha =>
    intro depth hdepth
    obtain ⟨inner, rfl, hinner⟩ := hmay.exists_inner hdepth
    obtain rfl := iha inner hinner
    exact ((invoke_bound hd hmay.1 hbind (evalAt env inner) _).trans
      (perform_unstarted hstopped _)).symm
  | @started name d args span s signature bound a body b hd hmay hbind ha hrunning hbody hb iha ihb =>
    intro depth hdepth
    obtain ⟨inner, rfl, hinner⟩ := hmay.exists_inner hdepth
    have hstarted : (a.2.started ⟨name, span⟩).calls.length = s.calls.length + 1 :=
      ha.length_calls
    obtain rfl := ihb inner (hstarted.symm ▸ hinner)
    obtain rfl := iha inner hinner
    refine Eq.trans ?_ (invoke_bound hd hmay.1 hbind (evalAt env inner) span).symm
    rw [hbody]
    exact (perform_started hrunning body).symm
  | slotNil s => exact fun _ _ ↦ rfl
  | eager heager hrunning hsource hb hc ihb ihc =>
    intro depth hdepth
    have hb' := (ihb depth hdepth).trans (evalAt_eq env depth _ _).symm
    obtain rfl := ihc depth (by rw [hb.length_calls, hdepth])
    rw [hb']
    exact (resolveSlot_eager heager hrunning hsource _).symm
  | deferred hdeferred hc ihc =>
    intro depth hdepth
    obtain rfl := ihc depth hdepth
    change _ = resolveSlot _ _ _
    rw [resolveSlot, hdeferred, if_neg Bool.false_ne_true]
    rfl
  | slotsNil s => exact fun _ _ ↦ rfl
  | slotsCons hb hc ihb ihc =>
    intro depth hdepth
    obtain rfl := ihc depth (by rw [hb.length_calls, hdepth])
    obtain rfl := ihb depth hdepth
    rfl
  | done outcome t => exact fun _ _ ↦ rfl
  | answered hneed hb ihb =>
    intro depth hdepth
    have hlevel := (Query.settles_of_need hneed).level
    obtain rfl := ihb depth (by rw [hlevel.calls]; exact hdepth)
    change _ = Script.run _ _ _ _
    rw [Script.run, Query.answer_eq_meet, hneed]
    rfl
  | evaluated hneed ha hb iha ihb =>
    intro depth hdepth
    obtain ⟨leave, hdetour, hresume⟩ := Query.detour_of_need hneed
    have hleft := (hdetour.stacks_eq ha.stacks_eq.1 ha.stacks_eq.2).1
    rw [← (hresume _ _).1] at hleft
    obtain rfl := ihb depth (by rw [hleft]; exact hdepth)
    have ha' := (iha depth (by cases hdetour <;> exact hdepth)).trans (evalAt_eq env depth _ _).symm
    change _ = Script.run _ _ _ _
    rw [Script.run, Query.answer_eq_meet, hneed, Query.Need.meet, ← ha']
    rfl

theorem Ends.eq_eval {env : Env} {statement : Statement} {s : State} {r : String × State}
    (h : Ends env (.parts statement.parts s) r) : r = env.eval statement s :=
  (h.eq_value _ rfl).trans (evalAt_eq env _ statement s).symm

theorem Env.ends_eval {env : Env} (hscripted : env.registry.Scripted) (statement : Statement)
    (s : State) : Ends env (.parts statement.parts s) (env.eval statement s) := by
  obtain ⟨r, hr⟩ := endsAt_of_scripted hscripted s.calls.length statement.parts s rfl
  exact hr.eq_eval ▸ hr

end BraceScript
