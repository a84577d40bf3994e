import BraceScript.Proofs.Run.Course
import BraceScript.Proofs.Run.Standard

namespace BraceScript

/-- A statement that is one call, with a plain name. -/
def Statement.ofCall (name : String) (args : List Statement) (nameSpan span : Span) : Statement :=
  .mk [.call (.mk [.literal name nameSpan] nameSpan) args span] span

theorem tick_isRunning {svc : Services} {s : State} (h : (svc.tick s).1 = true) :
    (svc.tick s).2.isRunning = s.isRunning := by
  rcases tick_cases svc s with htick | htick
  · rw [htick]
    unfold Services.yieldIfDue
    split <;> rfl
  · rw [htick] at h
    cases h

theorem tick_calls (svc : Services) (s : State) : (svc.tick s).2.calls = s.calls := by
  rw [tick_eq]
  unfold Services.look Services.yieldIfDue
  split <;> split <;> rfl

theorem tick_isRunning_of_not {svc : Services} {s : State} (h : (svc.tick s).1 = false) :
    (svc.tick s).2.isRunning = false := by
  rcases tick_cases svc s with htick | htick
  · rw [htick] at h
    cases h
  · rw [htick]
    rfl

theorem tick_counts (svc : Services) (s : State) :
    (svc.tick s).2.functions = s.functions ∧ (svc.tick s).2.usage = s.usage ∧
      (svc.tick s).2.errors = s.errors ∧ (svc.tick s).2.steps = s.steps + 1 := by
  rw [tick_eq]
  unfold Services.look Services.yieldIfDue
  split <;> split <;> exact ⟨rfl, rfl, rfl, rfl⟩

theorem tick_variables (svc : Services) (s : State) :
    (svc.tick s).2.store = s.store ∧ (svc.tick s).2.frame = s.frame := by
  rw [tick_eq]
  unfold Services.look Services.yieldIfDue
  split <;> split <;> exact ⟨rfl, rfl⟩

theorem resolveSlot_deferred (eval : Eval) {args : List Argument}
    (h : ∀ a ∈ args, a.isEager = false) (s : State) : resolveSlot eval args s = (args, s) := by
  induction args with
  | nil => rfl
  | cons a args ih =>
    obtain ⟨ha, hargs⟩ := List.forall_mem_cons.mp h
    rw [resolveSlot, ha, Bool.false_and, if_neg Bool.false_ne_true, ih hargs]

theorem resolveSlots_deferred (eval : Eval) {slots : List (List Argument)}
    (h : ∀ slot ∈ slots, ∀ a ∈ slot, a.isEager = false) (s : State) :
    resolveSlots eval slots s = (slots, s) := by
  induction slots with
  | nil => rfl
  | cons slot slots ih =>
    obtain ⟨hslot, hslots⟩ := List.forall_mem_cons.mp h
    rw [resolveSlots, resolveSlot_deferred eval hslot]
    dsimp only
    rw [ih hslots]

theorem perform_deferred (svc : Services) (eval : Eval) (handler : Handler) {args : Arguments}
    (h : ∀ slot ∈ args.slots, ∀ a ∈ slot, a.isEager = false) (frame : CallFrame) {s : State}
    (hrunning : s.isRunning = true) :
    let answer := handler.run svc eval frame.name ⟨args, (s.pushCall frame).started frame⟩
    perform svc eval handler args frame s = (answer.1, answer.2.state.popCall) := by
  have hpushed : (s.pushCall frame).isRunning = true := hrunning
  rw [perform_eq, performInside, resolveSlots_deferred eval h]
  dsimp only
  rw [if_pos hpushed]
  rfl

section Call

variable {svc : Services} {answer : Responder} {s : State}

theorem evalStatement_literal (hrunning : s.isRunning = true) (text : String) (span span' : Span) :
    evalStatement svc answer (.mk [.literal text span] span') s = (text, s) := by
  simp only [evalStatement, evalParts, hrunning, if_true, evalPart, String.append_empty]

theorem evalStatement_ofCall (hrunning : s.isRunning = true) (htick : (svc.tick s).1 = true)
    (name : String) (args : List Statement) (nameSpan span : Span) :
    evalStatement svc answer (.ofCall name args nameSpan span) s =
      answer (normalize name) args span (svc.tick s).2 := by
  have hticked := (tick_isRunning htick).trans hrunning
  have hpart : evalPart svc answer (.call (.mk [.literal name nameSpan] nameSpan) args span) s =
      answer (normalize name) args span (svc.tick s).2 := by
    rw [evalPart_call, htick, evalTicked, if_pos rfl, evalStatement_literal hticked]
    exact if_pos hticked
  simp only [Statement.ofCall, evalStatement, evalParts, hrunning, if_true, hpart,
    String.append_empty]

variable {env : Env} {name : String} {d : Definition Handler}

theorem evalAt_eq_eval (env : Env) (statement : Statement) {n : Nat} (h : s.calls.length = n) :
    evalAt env (env.services.limits.maxDepth - n) statement s = env.eval statement s := by
  unfold Env.eval
  rw [h]

/-- A call without eager arguments that is neither cancelled nor refused gives the text of its
handler's outcome. -/
theorem eval_ofCall (hrunning : s.isRunning = true) (htick : (env.services.tick s).1 = true)
    (hmay : (env.services.tick s).2.MayCall env.services.limits)
    (hd : env.registry.lookup (normalize name) = some d) {args : List Statement}
    {signature : Signature Handler} {bound : Arguments}
    (hbind : Binding.bind d.signatures args = .ok (signature, bound))
    (hdeferred : ∀ slot ∈ bound.slots, ∀ a ∈ slot, a.isEager = false) (nameSpan span : Span) :
    let frame : CallFrame := ⟨normalize name, span⟩
    let answer := signature.handler.run env.services
      (evalAt env (env.services.limits.maxDepth - (s.calls.length + 1))) (normalize name)
      ⟨bound, ((env.services.tick s).2.called frame).started frame⟩
    env.eval (.ofCall name args nameSpan span) s =
      conclude env.services (normalize name) span answer.1 answer.2.state.popCall := by
  intro frame answer
  obtain ⟨hcalls, hdepth⟩ := hmay
  rw [tick_calls] at hdepth
  have hsucc : env.services.limits.maxDepth - s.calls.length =
      env.services.limits.maxDepth - (s.calls.length + 1) + 1 := by omega
  have hcharge : env.services.charge .calls (env.services.tick s).2 =
      (.ok (), (env.services.tick s).2.charged .calls) := by
    rw [Services.charge_eq, if_neg (Nat.not_le.mpr hcalls)]
  have hcounted : ((env.services.tick s).2.charged .calls).isRunning = true :=
    (tick_isRunning htick).trans hrunning
  have hperform := perform_deferred env.services
    (evalAt env (env.services.limits.maxDepth - (s.calls.length + 1))) signature.handler hdeferred
    frame hcounted
  unfold Env.eval
  rw [hsucc, evalAt, evalStatement_ofCall hrunning htick, respond_eq, invoke_eq env hd, hcharge]
  simp only [invokeAnswered, invokeCounted, hbind]
  rw [hperform]
  rfl

end Call

end BraceScript
