import BraceScript.Proofs.Run.BoundCall
import BraceScript.Proofs.Run.Cells
import BraceScript.Proofs.Run.Ending
import BraceScript.Proofs.Run.Places

namespace BraceScript

/-- Nothing stops the next `n` calls, nested at most `depth` deep. -/
structure State.HasRoom (svc : Services) (n depth : Nat) (s : State) : Prop where
  running : s.isRunning = true
  attentive : s.Attentive svc
  live : s.cancelled = false
  unsignalled : ∀ k, s.steps < k → k ≤ s.steps + n → ¬svc.SignalledAt k
  calls : s.usage.calls + n ≤ svc.limits.maxCalls
  depth : s.calls.length + depth ≤ svc.limits.maxDepth

namespace State.HasRoom

variable {svc : Services} {n depth : Nat} {s : State}

theorem going (h : s.HasRoom svc (n + 1) depth) : (svc.tick s).1 = true := by
  have hsignalled : svc.isSignalled (svc.yieldIfDue s.stepped) = false := by
    rw [Bool.eq_false_iff]
    intro hsees
    have hat := (isSignalled_of_stepped h.attentive).mp hsees
    exact h.unsignalled (s.steps + 1) (by omega) (by omega) hat
  rw [tick_eq, Services.look, hsignalled]
  rfl

theorem mayCall (h : s.HasRoom svc (n + 1) (depth + 1)) : s.MayCall svc.limits := by
  have hcalls := h.calls
  have hdepth := h.depth
  exact ⟨(by omega : s.usage.calls < svc.limits.maxCalls), by omega⟩

theorem ticked (h : s.HasRoom svc (n + 1) depth) :
    svc.tick s = (true, svc.yieldIfDue s.stepped) := by
  rcases tick_cases svc s with htick | htick
  · exact htick
  · have hgoing := h.going
    rw [htick] at hgoing
    cases hgoing

theorem called (h : s.HasRoom svc (n + 1) (depth + 1)) (frame : CallFrame) :
    ((svc.tick s).2.called frame).HasRoom svc n depth := by
  have hattentive := h.attentive.tick h.live
  have hcalls := tick_calls svc s
  obtain ⟨-, husage, -, hsteps⟩ := tick_counts svc s
  have hlive : (svc.tick s).2.cancelled = false := by
    rw [h.ticked]
    exact (steps_of_stepped svc s).2.trans h.live
  refine ⟨(tick_isRunning h.going).trans h.running,
    ⟨hattentive.yields, hattentive.tripped, hattentive.cancelled⟩, hlive, fun k hlt hle ↦ ?_, ?_, ?_⟩
  · have hstepped : ((svc.tick s).2.called frame).steps = s.steps + 1 := hsteps
    exact h.unsignalled k (by omega) (by omega)
  · have hcounted : ((svc.tick s).2.called frame).usage.calls = s.usage.calls + 1 :=
      congrArg (·.calls + 1) husage
    have hroom := h.calls
    omega
  · have hnested : ((svc.tick s).2.called frame).calls.length = s.calls.length + 1 :=
      congrArg (·.length + 1) hcalls
    have hroom := h.depth
    omega

theorem started (h : s.HasRoom svc n depth) (frame : CallFrame) :
    (s.started frame).HasRoom svc n depth :=
  ⟨h.running, ⟨h.attentive.yields, h.attentive.tripped, h.attentive.cancelled⟩, h.live,
    h.unsignalled, h.calls, h.depth⟩

theorem popCall (h : s.HasRoom svc n depth) (hcalls : s.calls ≠ []) :
    s.popCall.HasRoom svc n (depth + 1) := by
  refine ⟨h.running, ⟨h.attentive.yields, h.attentive.tripped, h.attentive.cancelled⟩, h.live,
    h.unsignalled, h.calls, ?_⟩
  have hdepth := h.depth
  have hlength : s.popCall.calls.length = s.calls.length - 1 := List.length_tail
  have hpos := List.length_pos_of_ne_nil hcalls
  omega

theorem wrote (h : s.HasRoom svc n depth) (value? : Option Value) (c : Cell) (ev : Event) :
    ((s.poke value? c).note ev).HasRoom svc n depth := by
  obtain ⟨_ | scope, name⟩ := c <;>
  exact ⟨h.running, ⟨h.attentive.yields, h.attentive.tripped, h.attentive.cancelled⟩, h.live,
    h.unsignalled, h.calls, h.depth⟩

theorem termination (h : s.HasRoom svc n depth) : s.termination = .completed := by
  have hphase : s.phase = .running := beq_iff_eq.mp h.running
  rw [State.termination, h.live, hphase]
  rfl

end State.HasRoom

/-- The state in which the handler of a call starts whose name and arguments change nothing. -/
def State.opened (svc : Services) (frame : CallFrame) (s : State) : State :=
  ((svc.tick s).2.called frame).started frame

def State.visited (svc : Services) (frame : CallFrame) (s : State) : State :=
  (s.opened svc frame).popCall

section Visits

variable {svc : Services} {s : State}

theorem State.HasRoom.opened {n depth : Nat} (h : s.HasRoom svc (n + 1) (depth + 1))
    (frame : CallFrame) : (s.opened svc frame).HasRoom svc n depth :=
  (h.called frame).started frame

theorem State.HasRoom.visited {n depth : Nat} (h : s.HasRoom svc (n + 1) (depth + 1))
    (frame : CallFrame) : (s.visited svc frame).HasRoom svc n (depth + 1) :=
  (h.opened frame).popCall (List.cons_ne_nil frame _)

/-- After so many steps no more has changed than what is counted. -/
structure State.Visited (n : Nat) (s t : State) : Prop where
  steps : t.steps = s.steps + n
  errors : t.errors = s.errors
  store : t.store = s.store
  frame : t.frame = s.frame

theorem State.Visited.refl (s : State) : s.Visited 0 s := ⟨rfl, rfl, rfl, rfl⟩

theorem State.Visited.trans {m n : Nat} {t u : State} (h : s.Visited m t) (h' : t.Visited n u) :
    s.Visited (m + n) u :=
  ⟨by rw [h'.steps, h.steps, Nat.add_assoc], h'.errors.trans h.errors, h'.store.trans h.store,
    h'.frame.trans h.frame⟩

theorem State.Visited.popCall {n : Nat} {t : State} (h : s.Visited n t) : s.Visited n t.popCall :=
  ⟨h.steps, h.errors, h.store, h.frame⟩

theorem State.visited_called (svc : Services) (frame : CallFrame) (s : State) :
    s.Visited 1 ((svc.tick s).2.called frame) := by
  obtain ⟨-, -, herrors, hsteps⟩ := tick_counts svc s
  obtain ⟨hstore, hframe⟩ := tick_variables svc s
  generalize (svc.tick s).2 = t at *
  exact ⟨hsteps, herrors, hstore, hframe⟩

theorem State.visited_opened (svc : Services) (frame : CallFrame) (s : State) :
    s.Visited 1 (s.opened svc frame) := by
  obtain ⟨hsteps, herrors, hstore, hframe⟩ := s.visited_called svc frame
  exact ⟨hsteps, herrors, hstore, hframe⟩

theorem State.visited_visited (svc : Services) (frame : CallFrame) (s : State) :
    s.Visited 1 (s.visited svc frame) :=
  (s.visited_opened svc frame).popCall

theorem BoundCall.eval_of_idle {env : Env} (hscripted : env.registry.Scripted) {name : String}
    {nameSpan : Span} {args : List Statement} {span : Span}
    (c : BoundCall env s (.mk [.literal name nameSpan] nameSpan) args span)
    (hresolved : c.resolved.2 = c.entered) {outcome : Outcome}
    (hhandled : c.handled = (outcome, c.opening)) (span' : Span) :
    env.eval (.mk [.call (.mk [.literal name nameSpan] nameSpan) args span] span') s =
      conclude env.services (normalize name) span outcome
        (s.visited env.services ⟨normalize name, span⟩) := by
  have hstarts : c.resolved.2.isRunning = true := by
    rw [hresolved]
    exact c.isRunning_entered
  rw [c.eval_eq hscripted, if_pos hstarts, hhandled, c.opening_of_plain hresolved, c.frame_of_plain]
  rfl

end Visits

theorem Engine.hasRoom_initial (e : Engine) {r : Request} (store : Store) {n depth : Nat}
    (hsignal : ∀ k, 1 ≤ k → k ≤ n → ¬(e.env r).services.SignalledAt k)
    (hcalls : n ≤ (e.env r).services.limits.maxCalls)
    (hdepth : depth ≤ (e.env r).services.limits.maxDepth) :
    (initial r store).HasRoom (e.env r).services n depth where
  running := rfl
  attentive := initial_attentive r store
  live := rfl
  unsignalled k hlt hle := hsignal k hlt (by simpa [initial] using hle)
  calls := by simpa [initial] using hcalls
  depth := by simpa [initial] using hdepth

theorem Engine.not_signalledAt_patient (e : Engine) (limits : Limits) (k : Nat) :
    ¬(e.env (.patient limits)).services.SignalledAt k := by
  have htrips (n : Nat) : (e.env (.patient limits)).services.tripsAt n = false := rfl
  rintro (hbefore | ⟨n, -, -, hyield⟩ | hdeadline)
  · cases hbefore
  · rw [htrips n] at hyield
    cases hyield
  · cases hdeadline

/-- A document that reads as this code, but for its places, has the result of the code where no
error is reported. -/
theorem Engine.execute_of_unplaced {e : Engine} (he : e.Standard) {source : String}
    {statement : Statement} (hsource : (parse source).unplaced = statement.unplaced) {r : Request}
    {store : Store} {text : String} {t : State}
    (heval : (e.env r).eval statement (initial r store) = (text, t)) (herrors : t.errors = []) :
    e.execute source r store = (⟨text, [], t.termination, t.steps⟩, t.store) := by
  obtain ⟨htext, hstate⟩ := (e.env r).eval_of_unplaced he.scripted hsource (initial r store)
  rw [heval] at htext hstate
  unfold execute run
  generalize (e.env r).eval (parse source) (initial r store) = result at htext hstate
  obtain ⟨output, s⟩ := result
  dsimp only at htext hstate
  have hphase : s.phase = t.phase := (congrArg State.phase hstate :)
  have hcancelled : s.cancelled = t.cancelled := (congrArg State.cancelled hstate :)
  have hsteps : s.steps = t.steps := (congrArg State.steps hstate :)
  have hstore : s.store = t.store := (congrArg State.store hstate :)
  have hnone : s.errors = [] := by
    have hunplaced : s.errors.map LocatedError.unplaced = t.errors.map LocatedError.unplaced :=
      (congrArg State.errors hstate :)
    rwa [herrors, List.map_nil, List.map_eq_nil_iff] at hunplaced
  simp [State.execution, State.termination, htext, hphase, hcancelled, hsteps, hstore, hnone]

theorem Engine.execute_of_visited {e : Engine} (he : e.Standard) {source : String}
    {statement : Statement} (hsource : (parse source).unplaced = statement.unplaced) {r : Request}
    {store : Store} {text : String} {t : State} {n : Nat}
    (heval : (e.env r).eval statement (initial r store) = (text, t))
    (hends : t.termination = .completed) (hvisited : (initial r store).Visited n t) :
    e.execute source r store = (⟨text, [], .completed, n⟩, store) := by
  rw [execute_of_unplaced he hsource heval hvisited.errors, hends, hvisited.steps, hvisited.store]
  simp [initial]

end BraceScript
