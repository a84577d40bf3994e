import BraceScript.Proofs.Run.Calls
import BraceScript.Proofs.Run.Evaluation
import BraceScript.Proofs.Run.Resemblance

namespace BraceScript

/-- The errors of a run since some moment, latest first: those caught by interceptions that have
started since, innermost first, and those that came out of them. -/
structure Outflow where
  inner : List (List LocatedError) := []
  out : List LocatedError := []

def Outflow.record (o : Outflow) (err : LocatedError) : Outflow :=
  match o.inner with
  | [] => { o with out := err :: o.out }
  | caught :: rest =>
    if err.error.isTerminal then { o with out := err :: o.out }
    else { o with inner := (err :: caught) :: rest }

namespace State

/-- The report and the interceptions of a run after these errors, latest first, have come out of
whatever has started since. -/
def route (base : State) (out : List LocatedError) :
    List LocatedError × List (List LocatedError) :=
  match base.catches with
  | [] => (out ++ base.errors, [])
  | caught :: rest => (out.filter (·.error.isTerminal) ++ base.errors,
      (out.filter (!·.error.isTerminal) ++ caught) :: rest)

/-- The state `s` with the errors that there have been since the moment of `base`. -/
def receive (base : State) (o : Outflow) (s : State) : State :=
  { s with errors := (base.route o.out).1, catches := o.inner ++ (base.route o.out).2 }

variable (base s : State) (o : Outflow)

theorem route_nil : base.route [] = (base.errors, base.catches) := by
  unfold route
  split
  · rename_i hcatches
    rw [hcatches]
    rfl
  · rename_i hcatches
    rw [hcatches]
    rfl

theorem route_cons_of_isTerminal {err : LocatedError} (h : err.error.isTerminal = true)
    (out : List LocatedError) :
    base.route (err :: out) = (err :: (base.route out).1, (base.route out).2) := by
  unfold route
  split
  · rfl
  · simp [h]

theorem record_receive_nil (err : LocatedError) (out : List LocatedError) :
    (base.receive ⟨[], out⟩ s).record err =
      base.receive ⟨[], err :: out⟩ (s.note (.recorded err)) := by
  unfold receive record route
  cases base.catches with
  | nil => rfl
  | cons caught rest => cases h : err.error.isTerminal <;> simp [h, note]

theorem record_receive (err : LocatedError) :
    (base.receive o s).record err = base.receive (o.record err) (s.note (.recorded err)) := by
  obtain ⟨_ | ⟨caught, inner⟩, out⟩ := o
  · exact record_receive_nil base s err out
  · unfold Outflow.record
    dsimp only
    split
    · rename_i hterminal
      unfold receive
      rw [route_cons_of_isTerminal base hterminal]
      unfold record
      simp [hterminal, note]
    · rename_i hterminal
      unfold record
      simp [hterminal, receive, note]

theorem tick_receive (svc : Services) :
    svc.tick (base.receive o s) = ((svc.tick s).1, base.receive o (svc.tick s).2) := by
  have hyield (s : State) :
      svc.yieldIfDue (base.receive o s) = base.receive o (svc.yieldIfDue s) := by
    unfold Services.yieldIfDue receive
    dsimp only
    split <;> rfl
  have hlook (s : State) :
      svc.look (base.receive o s) = ((svc.look s).1, base.receive o (svc.look s).2) := by
    have hsignal : svc.isSignalled (base.receive o s) = svc.isSignalled s := rfl
    unfold Services.look
    rw [hsignal]
    split <;> rfl
  have hstep : (base.receive o s).stepped = base.receive o s.stepped := rfl
  rw [tick_eq, tick_eq, hstep, hyield, hlook]

end State

/-- The states differ by an interception that was around the second run at the moment of `base`,
with `depth` interceptions started since. -/
def Shielded (base : State) (depth : Nat) (s t : State) : Prop :=
  ∃ o u, o.inner.length = depth ∧ s = base.receive o u ∧ t = base.pushCatch.receive o u

namespace Shielded

variable {base : State}

theorem isResemblance (depth : Nat) : IsResemblance (Shielded base depth) where
  bare := by
    rintro _ _ ⟨o, u, -, rfl, rfl⟩
    rfl
  absorb := by
    rintro _ _ ⟨o, u, hdepth, rfl, rfl⟩ v
    exact ⟨o, u.absorb v, hdepth, rfl, rfl⟩

theorem record {depth : Nat} {s t : State} (h : Shielded base depth s t) (err : LocatedError) :
    Shielded base depth (s.record err) (t.record err) := by
  obtain ⟨o, u, hdepth, rfl, rfl⟩ := h
  refine ⟨o.record err, u.note (.recorded err), ?_, State.record_receive base u o err,
    State.record_receive base.pushCatch u o err⟩
  rw [← hdepth]
  obtain ⟨_ | ⟨caught, inner⟩, out⟩ := o
  · rfl
  · unfold Outflow.record
    dsimp only
    split <;> rfl

theorem interception {depth : Nat} {s t : State} (h : Shielded base depth s t) :
    Shielded base (depth + 1) s.pushCatch t.pushCatch := by
  obtain ⟨o, u, hdepth, rfl, rfl⟩ := h
  exact ⟨{ o with inner := [] :: o.inner }, u, congrArg (· + 1) hdepth, rfl, rfl⟩

theorem popCatch {depth : Nat} {s t : State} (h : Shielded base (depth + 1) s t) :
    s.caught.isEmpty = t.caught.isEmpty ∧ Shielded base depth s.popCatch t.popCatch := by
  obtain ⟨⟨_ | ⟨caught, inner⟩, out⟩, u, hdepth, rfl, rfl⟩ := h
  · cases hdepth
  · exact ⟨rfl, ⟨inner, out⟩, u, Nat.succ.inj hdepth, rfl, rfl⟩

theorem pairing (svc : Services) (base : State) :
    Pairing svc svc (fun _ _ ↦ False) (Shielded base) := by
  refine .of_resemblance rfl isResemblance (fun depth ↦ ?_) (fun _ _ _ err h ↦ h.record err)
    fun depth s t h ↦ ⟨depth + 1, h.interception, fun _ _ ↦ popCatch⟩
  rintro _ _ ⟨o, u, hdepth, rfl, rfl⟩
  rw [State.tick_receive, State.tick_receive]
  exact Or.inl ⟨rfl, o, (svc.tick u).2, hdepth, rfl, rfl⟩

end Shielded

namespace Engine

variable {e : Engine}

/-- One more interception around an evaluation receives what came out of the evaluation otherwise,
except for the terminal errors. -/
theorem exists_received (he : e.Standard) (r : Request) (statement : Statement) (s : State) :
    ((e.env r).eval statement s.pushCatch).1 = ((e.env r).eval statement s).1 ∧
    ∃ out u, ((e.env r).eval statement s).2 = s.receive ⟨[], out⟩ u ∧
      ((e.env r).eval statement s.pushCatch).2 = s.pushCatch.receive ⟨[], out⟩ u := by
  have hinitial : Shielded s 0 s s.pushCatch := by
    refine ⟨{}, s, rfl, ?_, rfl⟩
    unfold State.receive
    rw [State.route_nil]
    rfl
  have hpaired := (Shielded.pairing (e.env r).services s).evalAt he.scripted
    (Nat.le_refl ((e.env r).services.limits.maxDepth - s.calls.length))
    (fun hlt ↦ absurd hlt (Nat.lt_irrefl _)) 0 statement
  rcases hpaired.meets _ _ hinitial with
    ⟨htext, ⟨_ | ⟨caught, inner⟩, out⟩, u, hdepth, hs, ht⟩ | ⟨_, _, hfalse, -⟩
  · exact ⟨htext.symm, out, u, hs, ht⟩
  · cases hdepth
  · exact hfalse.elim

end Engine

section Try

theorem exec_tryCatch (svc : Services) (eval : Eval) (c : Invocation) (t : Activation) :
    (Subtags.tryCatch c).exec svc eval t =
      match (Query.attempt 0).answer svc eval t with
      | (some text, t) => (.ok (some text), t)
      | (none, t) => (.ok (some (t.value eval 1 0).1), (t.value eval 1 0).2) := by
  have hattempt : (Action.attempt 0).exec svc eval t =
      (.ok ((Query.attempt 0).answer svc eval t).1, ((Query.attempt 0).answer svc eval t).2) := rfl
  unfold Subtags.tryCatch
  rw [Action.exec_bind, hattempt]
  rcases (Query.attempt 0).answer svc eval t with ⟨_ | text, u⟩ <;> rfl

/-- The parameters of `try`, none of which is evaluated before its handler starts. -/
def tryCode : Parameter := ⟨"code", .deferred, .required⟩

def tryRescue : Parameter := ⟨"catch", .deferred, .optional none⟩

def tryArguments (code rescue : Statement) : Arguments :=
  ⟨[tryCode, tryRescue], [[.supplied tryCode code], [.supplied tryRescue rescue]]⟩

theorem isEager_tryArguments (code rescue : Statement) :
    ∀ slot ∈ (tryArguments code rescue).slots, ∀ a ∈ slot, a.isEager = false := by
  simp [tryArguments, Argument.supplied, Argument.isEager, tryCode, tryRescue]

theorem run_tryCatch (svc : Services) (eval : Eval) (name : String) (s : State)
    (code rescue : Statement) :
    let v := eval code s.pushCatch
    let w := eval rescue v.2.popCatch
    let answer := Handler.run svc eval name ⟨tryArguments code rescue, s⟩ (.script Subtags.tryCatch)
    (answer.1, answer.2.state) =
      if v.2.caught.isEmpty then (.ok (some v.1), v.2.popCatch) else (.ok (some w.1), w.2) := by
  intro v w answer
  have hattempt := Query.answer_attempt svc eval 0 (t := ⟨tryArguments code rescue, s⟩)
    (a := .supplied tryCode code) rfl rfl
  have hcode : Argument.evaluate eval (.supplied tryCode code) s.pushCatch = v := rfl
  have hanswer : answer = (Subtags.tryCatch ⟨name, svc.plugins, svc.origin⟩).exec svc eval
      ⟨tryArguments code rescue, s⟩ := rfl
  rw [hanswer, exec_tryCatch, hattempt, hcode]
  cases v.2.caught.isEmpty with
  | true => rfl
  | false => rfl

def Subtags.trySignature (description : String) : Signature Handler where
  parameters := [tryCode, tryRescue]
  description
  handler := .script Subtags.tryCatch
  least := 1

theorem Subtags.declares_try : Declares tryDeclaration trySignature :=
  ⟨by simp [standardDeclarations, flowDeclarations], _, _, _, rfl, rfl⟩

theorem Engine.Standard.lookup_try {e : Engine} (he : e.Standard) :
    ∃ d text, e.registry.lookup "try" = some d ∧ d.signatures = [Subtags.trySignature text] := by
  have hname : normalize "try" = normalize (Text.lower "try") := by decide +kernel
  obtain ⟨d, hdeclaration, hd⟩ := he.lookup_of_mem Subtags.declares_try.mem hname
  obtain ⟨text, hone⟩ := he.signatures_of_declares hd Subtags.declares_try
    (Definition.of_declaration hdeclaration).1
  exact ⟨d, text, hd, hone⟩

/-- A call of `try` evaluates its code under an interception, and its other argument in the state in
which the code has left the run if an error was caught. -/
theorem Engine.eval_try {e : Engine} (he : e.Standard) (r : Request) {s : State}
    (hrunning : s.isRunning = true) (htick : ((e.env r).services.tick s).1 = true)
    (hmay : ((e.env r).services.tick s).2.MayCall (e.env r).services.limits)
    (code rescue : Statement) (nameSpan span : Span) :
    let c := (((e.env r).services.tick s).2.called ⟨"try", span⟩).started ⟨"try", span⟩
    let v := (e.env r).eval code c.pushCatch
    let w := (e.env r).eval rescue v.2.popCatch
    (e.env r).eval (.ofCall "try" [code, rescue] nameSpan span) s =
      if v.2.caught.isEmpty then (v.1, v.2.popCatch.popCall) else (w.1, w.2.popCall) := by
  intro c v w
  have hnormal : normalize "try" = "try" := by decide +kernel
  obtain ⟨d, text, hd, hsignatures⟩ := he.lookup_try
  rw [← hnormal] at hd
  have hbind : Binding.bind d.signatures [code, rescue] =
      .ok (Subtags.trySignature text, tryArguments code rescue) := by
    rw [hsignatures]
    rfl
  have hcall := eval_ofCall hrunning htick hmay hd hbind (isEager_tryArguments code rescue) nameSpan
    span
  let eval := evalAt (e.env r) ((e.env r).services.limits.maxDepth - (s.calls.length + 1))
  -- The handler is one call deeper, and so are the statements that it evaluates.
  have hdepth : c.calls.length = s.calls.length + 1 :=
    congrArg (fun calls ↦ calls.length + 1) (tick_calls (e.env r).services s)
  have hcode : eval code c.pushCatch = v := evalAt_eq_eval (e.env r) code hdepth
  have hkept : v.2.popCatch.calls = c.calls := (he.course r code c.pushCatch).keeps.calls
  have hrescue : eval rescue v.2.popCatch = w :=
    evalAt_eq_eval (e.env r) rescue (by rw [hkept, hdepth])
  have hrun := run_tryCatch (e.env r).services eval "try" c code rescue
  dsimp only at hrun
  rw [hcode, hrescue] at hrun
  let answer := Handler.run (e.env r).services eval "try" ⟨tryArguments code rescue, c⟩
    (.script Subtags.tryCatch)
  change (answer.1, answer.2.state) = _ at hrun
  rw [hnormal] at hcall
  change _ = conclude (e.env r).services "try" span answer.1 answer.2.state.popCall at hcall
  rw [hcall]
  cases hcaught : v.2.caught.isEmpty with
  | true =>
    rw [hcaught] at hrun
    obtain ⟨houtcome, hstate⟩ := Prod.mk.inj hrun
    rw [houtcome, hstate]
    rfl
  | false =>
    rw [hcaught] at hrun
    obtain ⟨houtcome, hstate⟩ := Prod.mk.inj hrun
    rw [houtcome, hstate]
    rfl

end Try

namespace Engine

variable {e : Engine}

theorem popCatch_eval (he : e.Standard) (r : Request) (statement : Statement) (s : State)
    (hnone : ((e.env r).eval statement s.pushCatch).2.caught = []) :
    ((e.env r).eval statement s.pushCatch).2.popCatch = ((e.env r).eval statement s).2 := by
  obtain ⟨-, out, u, hwithout, hunder⟩ := exists_received he r statement s
  rw [hunder] at hnone ⊢
  rw [hwithout]
  have hterminal : out.filter (!·.error.isTerminal) = [] := by
    simpa [State.receive, State.route, State.pushCatch, State.caught] using hnone
  have hall : out.filter (·.error.isTerminal) = out := by
    rw [List.filter_eq_self]
    intro err herr
    have hnot := List.filter_eq_nil_iff.mp hterminal err herr
    simpa using hnot
  unfold State.receive State.route State.pushCatch State.popCatch
  cases s.catches with
  | nil => simp [hall]
  | cons caught rest => simp [hterminal]

/-- One more interception around an evaluation changes no more than where its errors go: of what was
reported without it the terminal errors still are, and the others are caught. So `try` gives what
its code gives unless an error is caught, and then what its other argument gives afterwards. -/
theorem interception_transparent (he : e.Standard) (r : Request) (s : State) :
    (∀ statement,
      let u := (e.env r).eval statement s
      let v := (e.env r).eval statement s.pushCatch
      v.1 = u.1 ∧ v.2 = { u.2 with errors := v.2.errors, catches := v.2.catches } ∧
      ∃ out : List LocatedError,
        v.2.errors = out.filter (·.error.isTerminal) ++ s.errors ∧
        v.2.catches = out.filter (!·.error.isTerminal) :: s.catches ∧
        (s.catches = [] → u.2.errors = out ++ s.errors ∧ u.2.catches = []) ∧
        ∀ caught rest, s.catches = caught :: rest →
          u.2.errors = out.filter (·.error.isTerminal) ++ s.errors ∧
          u.2.catches = (out.filter (!·.error.isTerminal) ++ caught) :: rest) ∧
    ∀ code rescue nameSpan span, s.isRunning = true → ((e.env r).services.tick s).1 = true →
      ((e.env r).services.tick s).2.MayCall (e.env r).services.limits →
      let c := (((e.env r).services.tick s).2.called ⟨"try", span⟩).started ⟨"try", span⟩
      let u := (e.env r).eval code c
      let v := (e.env r).eval code c.pushCatch
      let w := (e.env r).eval rescue v.2.popCatch
      (e.env r).eval (.ofCall "try" [code, rescue] nameSpan span) s =
        if v.2.caught.isEmpty then (u.1, u.2.popCall) else (w.1, w.2.popCall) := by
  refine ⟨fun statement ↦ ?_, fun code rescue nameSpan span hrunning htick hmay ↦ ?_⟩
  · intro u v
    obtain ⟨htext, out, core, hu, hv⟩ := exists_received he r statement s
    change u.2 = _ at hu
    change v.2 = _ at hv
    refine ⟨htext, by rw [hu, hv]; rfl, out, ?_, ?_, fun hcatches ↦ ?_, fun caught rest hcatches ↦ ?_⟩
    · rw [hv]
      rfl
    · rw [hv]
      simp [State.receive, State.route, State.pushCatch]
    · rw [hu]
      simp [State.receive, State.route, hcatches]
    · rw [hu]
      simp [State.receive, State.route, hcatches]
  · intro c u v w
    have htry := eval_try he r hrunning htick hmay code rescue nameSpan span
    change _ = (if v.2.caught.isEmpty then (v.1, v.2.popCatch.popCall) else _) at htry
    rw [htry]
    split
    · rename_i hempty
      have htext : v.1 = u.1 := (exists_received he r code c).1
      have hstate : v.2.popCatch = u.2 := popCatch_eval he r code c (List.isEmpty_iff.mp hempty)
      rw [htext, hstate]
    · rfl

/-- Two errors, of which one is terminal, and a `try` around the other. -/
theorem interception_transparent_limit :
    let r : Request := { limits? := some { maxLoops := 0 } }
    let statement := parse "\x7bthrow;no\x7d\x7brepeat;a;1\x7d"
    let code := parse "\x7bthrow;no\x7d"
    ∃ e : Engine, e.Standard ∧
      (let u := (e.env r).eval statement {}
      let v := (e.env r).eval statement (State.pushCatch {})
      v.1 = u.1 ∧ u.2.errors.length = 2 ∧
      v.2.errors = u.2.errors.filter (·.error.isTerminal) ∧ v.2.errors.length = 1 ∧
      v.2.catches = [u.2.errors.filter (!·.error.isTerminal)]) ∧
      ((e.env r).services.tick {}).1 = true ∧
      ((e.env r).services.tick {}).2.MayCall (e.env r).services.limits ∧
      ((e.env r).eval (.ofCall "try" [code, parse "yes"] code.span code.span) {}).1 = "yes" := by
  intro r statement code
  obtain ⟨e, -, he, hrun⟩ := exists_standard_of_any (b := { providers := [⟨"", .tag⟩] }) rfl rfl
    (p := fun e ↦
      let c := (((e.env r).services.tick {}).2.called ⟨"try", code.span⟩).started ⟨"try", code.span⟩
      let v := (e.env r).eval code c.pushCatch
      decide (((e.env r).eval statement {}).2.errors.length = 2 ∧
        (((e.env r).eval statement {}).2.errors.filter (·.error.isTerminal)).length = 1 ∧
        ((e.env r).services.tick {}).1 = true ∧
        ((e.env r).services.tick {}).2.usage.used .calls < (e.env r).services.limits.ceiling .calls ∧
        ((e.env r).services.tick {}).2.calls.length < (e.env r).services.limits.maxDepth ∧
        v.2.caught.isEmpty = false ∧
        ((e.env r).eval (parse "yes") v.2.popCatch).1 = "yes"))
    (by decide +kernel)
  obtain ⟨hlength, hterminal, htick, hcalls, hdepth, hcaught, htext⟩ := of_decide_eq_true hrun
  obtain ⟨hstatement, htry⟩ := interception_transparent he r {}
  obtain ⟨hsame, -, out, herrors, hcatches, hreported, -⟩ := hstatement statement
  have hout : ((e.env r).eval statement {}).2.errors = out :=
    (hreported rfl).1.trans (List.append_nil out)
  have hmay : ((e.env r).services.tick {}).2.MayCall (e.env r).services.limits := ⟨hcalls, hdepth⟩
  have heval := htry code (parse "yes") code.span code.span rfl htick hmay
  rw [List.append_nil, ← hout] at herrors
  rw [← hout] at hcatches
  refine ⟨e, he, ⟨hsame, hlength, herrors, by rw [herrors]; exact hterminal, hcatches⟩, htick, hmay, ?_⟩
  rw [heval, hcaught, if_neg Bool.false_ne_true]
  exact htext

end Engine

end BraceScript
