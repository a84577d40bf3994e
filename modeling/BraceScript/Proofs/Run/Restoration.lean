import BraceScript.Proofs.Run.BoundCall
import BraceScript.Proofs.Run.Cells

namespace BraceScript

section Reading

variable {svc : Services} {s t : State}

theorem Services.getVariable_congr (raw : String) (hstore : t.store = s.store)
    (htemporaries : t.frame.temporaries = s.frame.temporaries) :
    svc.getVariable raw t = svc.getVariable raw s := by
  unfold getVariable
  rw [hstore, htemporaries]

theorem getVariable_conclude (raw name : String) (span : Span) (outcome : Outcome) (s : State) :
    svc.getVariable raw (conclude svc name span outcome s.popCall).2 = svc.getVariable raw s := by
  cases outcome with
  | ok text => exact Services.getVariable_congr raw rfl rfl
  | error e =>
    change svc.getVariable raw (fail svc name span e s.popCall).2 = _
    rw [fail_eq]
    obtain hrecord | ⟨caught, rest, -, -, hrecord⟩ := State.record_cases
      { s.popCall with phase := if e.isTerminal then .aborted else s.popCall.phase }
      ⟨span, name, e, s.popCall.stack⟩
    · rw [hrecord]
      exact Services.getVariable_congr raw rfl rfl
    · rw [hrecord]
      exact Services.getVariable_congr raw rfl rfl

theorem outer_conclude (name : String) (span : Span) (outcome : Outcome) (s : State) :
    (conclude svc name span outcome s).2.outer = s.outer := by
  cases outcome with
  | ok text => rfl
  | error e => exact (State.Keeps.fail svc name span e s).outer

end Reading

namespace Subtags

variable {svc : Services} {eval : Eval} {t : Activation}

theorem exec_resolveArray (text : String) :
    ((resolveArray text).exec svc eval t).2 = t := by
  unfold resolveArray
  split
  · rfl
  · rw [Action.exec_bind]
    have hget : (Action.getVariable (Text.trim text)).exec svc eval t =
        (svc.getVariable (Text.trim text) t.state, t) := rfl
    rw [hget]
    cases svc.getVariable (Text.trim text) t.state with
    | error e => rfl
    | ok value? =>
      dsimp only
      split <;> rfl

theorem exec_restoring {α : Type} (hstore : svc.faults.IsReliable) {name : String}
    {previous : Option Value} (hprevious : svc.getVariable name t.state = .ok previous)
    (body : Action α) (finish : Except Error α → Except Error Unit → Action (Option String))
    (hfinish : ∀ result restored u, ((finish result restored).exec svc eval u).2 = u) :
    svc.getVariable name ((do
      let result ← Action.outcome body
      let restored ← Action.restore name previous
      finish result restored : Action (Option String)).exec svc eval t).2.state = .ok previous := by
  have hrestore (u : Activation) : (Action.restore name previous).exec svc eval u =
      (.ok (svc.restoreVariable name previous u.state).1,
        ⟨u.args, (svc.restoreVariable name previous u.state).2⟩) := rfl
  obtain ⟨c, hc⟩ : ∃ c, svc.locate name = .ok c := by
    cases hlocate : svc.locate name with
    | error e => simp [Services.getVariable, hlocate] at hprevious
    | ok c => exact ⟨c, rfl⟩
  rw [Action.exec_bind, Action.exec_outcome]
  dsimp only
  rw [Action.exec_bind, hrestore]
  dsimp only
  rw [hfinish, Services.restoreVariable_of_locate hstore _ hc]
  exact Services.getVariable_poke hstore _ hc previous _

theorem exec_forEach (hstore : svc.faults.IsReliable) {name array : String}
    (hname : (t.args.at? 0 0).bind Argument.value? = some name)
    (harray : (t.args.at? 1 0).bind Argument.value? = some array) (c : Invocation) :
    svc.getVariable name ((forEach c).exec svc eval t).2.state = svc.getVariable name t.state := by
  unfold forEach
  rw [Action.exec_bind, Fork.exec_value hname]
  dsimp only
  rw [Action.exec_bind, Fork.exec_value harray]
  dsimp only
  rw [Action.exec_bind]
  have hsame : ((resolveArray array).exec svc eval t).2 = t := exec_resolveArray array
  rcases hlisting : (resolveArray array).exec svc eval t with ⟨e | listing, u⟩
  · rw [hlisting] at hsame
    rw [← hsame]
  rw [hlisting] at hsame
  obtain rfl : u = t := hsame
  dsimp only
  have hget : (Action.getVariable name).exec svc eval u = (svc.getVariable name u.state, u) := rfl
  rw [Action.exec_bind, hget]
  cases hprevious : svc.getVariable name u.state with
  | error e => exact hprevious
  | ok previous =>
    dsimp only
    refine exec_restoring hstore hprevious _ _ ?_
    intro result restored u
    rcases result with e | output <;> rcases restored with e' | _ <;> rfl

end Subtags

namespace BoundCall

variable {e : Engine} (he : e.Standard) {r : Request} {s : State} {name : Statement}
  {args : List Statement} {span : Span} (c : BoundCall (e.env r) s name args span)
  (hid : c.definition.id = "foreach")

include he hid

theorem resolved_of_foreach :
    ∃ target array code, args = [target, array, code] ∧
      c.resolved.2 = (evalEach (e.env r).eval [target, array] c.entered).2 ∧
      (c.resolved.2.isRunning = true → c.resolved.1 = evaluated
        [⟨"variable", .eager, .required⟩, ⟨"array", .eager, .required⟩] [target, array]
        (evalEach (e.env r).eval [target, array] c.entered).1 ++
          [[.supplied ⟨"code", .deferred, .required⟩ code]]) := by
  obtain ⟨-, target, array, code, -, hargs, hslots⟩ := c.args_of_foreach he hid
  have heager : ∀ p ∈ ([⟨"variable", .eager, .required⟩, ⟨"array", .eager, .required⟩] :
      List Parameter), p.mode = .eager := by simp
  have hdeferred : ∀ slot ∈ [[Argument.supplied ⟨"code", .deferred, .required⟩ code]],
      ∀ a ∈ slot, a.isEager = false := by simp [Argument.isEager, Argument.supplied]
  obtain ⟨hstate, hfilled⟩ := resolveSlots_pending (e.env r).eval heager
    (rfl : [target, array].length = _) hdeferred c.entered
  rw [← hslots] at hstate hfilled
  refine ⟨target, array, code, hargs, hstate, ?_⟩
  intro hrunning
  exact congrArg Prod.fst (hfilled (hstate ▸ hrunning))

theorem texts_of_foreach (hstarts : c.resolved.2.isRunning = true) :
    ∃ target array code x text, args = [target, array, code] ∧
      evalEach (e.env r).eval [target, array] c.entered = ([x, text], c.resolved.2) ∧
      (c.opening.args.at? 0 0).bind Argument.value? = some x ∧
      (c.opening.args.at? 1 0).bind Argument.value? = some text := by
  obtain ⟨target, array, code, hargs, hstate, hfilled⟩ := c.resolved_of_foreach he hid
  have hslots := hfilled hstarts
  have hrunning := hstarts
  rw [hstate] at hrunning
  obtain ⟨x, text, htexts⟩ := List.length_eq_two.mp (length_evalEach hrunning)
  refine ⟨target, array, code, x, text, hargs, Prod.ext htexts hstate.symm, ?_, ?_⟩
  · simp [opening, hslots, htexts, evaluated, Arguments.at?, Arguments.all]
  · simp [opening, hslots, htexts, evaluated, Arguments.at?, Arguments.all]

end BoundCall

/-- However a loop over an array ends, its variable is read afterwards as it was when the loop
started, and in the same frame. -/
theorem Engine.foreach_restores {e : Engine} (he : e.Standard) (hstore : e.faults.IsReliable)
    {r : Request} {s : State} {name : Statement} {args : List Statement} {span : Span}
    (c : BoundCall (e.env r) s name args span) (hid : c.definition.id = "foreach")
    (hstarts : c.resolved.2.isRunning = true) (span' : Span) :
    ∃ target array code x text, args = [target, array, code] ∧
      evalEach (e.env r).eval [target, array] c.entered = ([x, text], c.resolved.2) ∧
      let svc := (e.env r).services
      let after := ((e.env r).eval (.mk [.call name args span] span') s).2
      svc.getVariable x c.handled.2.state = svc.getVariable x c.opening.state ∧
      c.handled.2.state.outer = c.opening.state.outer ∧
      svc.getVariable x after = svc.getVariable x c.opening.state ∧
      after.outer = c.opening.state.outer := by
  obtain ⟨description, -, -, -, hsignature, -⟩ := c.args_of_foreach he hid
  obtain ⟨target, array, code, x, text, hargs, htexts, hx, htext⟩ :=
    c.texts_of_foreach he hid hstarts
  have houter := (c.stacks_handled he.scripted).2
  have hrestored : (e.env r).services.getVariable x c.handled.2.state =
      (e.env r).services.getVariable x c.opening.state := by
    have hreliable : (e.env r).services.faults.IsReliable := hstore
    have hhandled : c.handled.2 = ((Subtags.forEach ⟨c.frame.name, (e.env r).services.plugins,
        (e.env r).services.origin⟩).exec (e.env r).services (e.env r).eval c.opening).2 := by
      unfold BoundCall.handled
      rw [hsignature]
      rfl
    rw [hhandled]
    exact Subtags.exec_forEach hreliable hx htext _
  have hcalled := c.eval_eq he.scripted span'
  rw [if_pos hstarts] at hcalled
  refine ⟨target, array, code, x, text, hargs, htexts, hrestored, houter, ?_, ?_⟩
  · rw [hcalled, getVariable_conclude, hrestored]
  · rw [hcalled, outer_conclude]
    exact houter

/-- A body that sets the variable, loops over it itself and then returns. -/
theorem Engine.foreach_restores_rebound :
    let place : Span := ⟨⟨0, 1, 1⟩, ⟨0, 1, 1⟩⟩
    let plain (text : String) : Statement := .mk [.literal text place] place
    let args := [plain "x", plain "[1,2]",
      parse "\x7bset;x;9\x7d\x7bforeach;x;[3];\x7bset;x\x7d\x7d\x7breturn\x7d"]
    let s : State := { store := [(⟨.tag "", "x"⟩, .text "old")] }
    ∃ e : Engine, e.Standard ∧ e.faults.IsReliable ∧
      ∃ c : BoundCall (e.env (.patient {})) s (plain "foreach") args place,
        c.definition.id = "foreach" ∧ c.resolved.2.isRunning = true ∧
        let after := ((e.env (.patient {})).eval (.mk [.call (plain "foreach") args place] place) s).2
        (e.env (.patient {})).services.getVariable "x" after = .ok (some (.text "old")) := by
  intro place plain args s
  obtain ⟨e, hbuild, he, hscopes⟩ := exists_standard_of_any
    (b := { providers := [⟨"", .tag⟩] }) rfl rfl
    (p := (·.scopes.providers == [⟨"", .tag⟩])) (by decide +kernel)
  have hstore : e.faults.IsReliable := isReliable_of_build rfl rfl hbuild
  have hcalls : 0 < ({} : Limits).maxCalls := by decide
  have hdepth : 0 < ({} : Limits).maxDepth := by decide
  obtain ⟨c, hid, -, hbound⟩ := he.exists_boundCall args Subtags.declares_foreach.mem rfl rfl rfl
    (by decide +kernel : normalize (normalize "foreach") ∈ _) hcalls hdepth s.store place place
  have hentered : c.entered.isRunning = true := c.named
  have heach : evalEach (e.env (.patient {})).eval [plain "x", plain "[1,2]"] c.entered =
      (["x", "[1,2]"], c.entered) := by
    rw [evalEach_cons hentered, Env.eval_literal _ hentered, evalEach_cons hentered,
      Env.eval_literal _ hentered]
    rfl
  have hresolved : c.resolved.2 = c.entered := by
    obtain ⟨target, array, code, hargs, hstate, -⟩ := c.resolved_of_foreach he hid
    simp only [args, List.cons.injEq] at hargs
    obtain ⟨rfl, rfl, -⟩ := hargs
    rw [hstate, heach]
  have hstarts : c.resolved.2.isRunning = true := by rw [hresolved, hentered]
  obtain ⟨target, array, code, x, text, hargs, htexts, -, -, hrestored, -⟩ :=
    foreach_restores he hstore c hid hstarts place
  simp only [args, List.cons.injEq] at hargs
  obtain ⟨rfl, rfl, -⟩ := hargs
  obtain ⟨htexts, -⟩ := Prod.mk.inj (heach.symm.trans htexts)
  obtain ⟨rfl, -⟩ := List.cons.inj htexts
  have hlocate : (e.env (.patient {})).services.locate "x" = .ok (some (.tag ""), "x") :=
    Services.locate_of_tag (beq_iff_eq.mp hscopes) "x"
  have hopening : c.opening.state.store = s.store := by
    have hticked := (tick_isRunning c.going).trans c.running
    have hcalled (t : State) : ((t.called c.frame).started c.frame).store = t.store := rfl
    unfold BoundCall.opening
    dsimp only
    rw [hresolved, BoundCall.entered, hcalled, Env.eval_literal _ hticked, tick_eq]
    unfold Services.look Services.yieldIfDue
    split <;> split <;> rfl
  have hread : (e.env (.patient {})).services.getVariable "x" c.opening.state =
      .ok (some (.text "old")) := by
    rw [Services.getVariable_eq hstore, hlocate, Except.map, State.peek, hopening]
    rfl
  exact ⟨e, he, hstore, c, hid, hstarts, hrestored.trans hread⟩

end BraceScript
