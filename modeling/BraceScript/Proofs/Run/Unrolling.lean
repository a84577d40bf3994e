import BraceScript.Proofs.Run.BoundCall
import BraceScript.Proofs.Run.Meters
import BraceScript.Proofs.Run.Termination

namespace BraceScript

namespace State

def uncounted (s : State) : State :=
  { s with usage := { s.usage with loops := 0 }, journal := [] }

/-- The states differ in their journals and in the loop bodies counted at most, and the first has
counted `k` more. -/
structure Ahead (k : Nat) (s t : State) : Prop where
  same : s.uncounted = t.uncounted
  loops : s.usage.loops = t.usage.loops + k

/-- The event has been noted since the state was `s`. -/
def NotedSince (s : State) (ev : Event) (t : State) : Prop :=
  ∃ later, t.journal = later ++ s.journal ∧ ev ∈ later

theorem Ahead.isRunning_eq {k : Nat} {s t : State} (h : s.Ahead k t) : s.isRunning = t.isRunning :=
  (congrArg isRunning h.same :)

theorem Ahead.calls_eq {k : Nat} {s t : State} (h : s.Ahead k t) : s.calls = t.calls :=
  (congrArg calls h.same :)

theorem Ahead.counted {k : Nat} {s t : State} (h : s.Ahead k t) :
    ((s.charged .loops).note .iterated).Ahead (k + 1) t := by
  have hloops := h.loops
  refine ⟨h.same, ?_⟩
  change s.usage.loops + 1 = t.usage.loops + (k + 1)
  omega

theorem NotedSince.later {s t u : State} {ev : Event} (h : s.NotedSince ev t) (h' : t.Precedes u) :
    s.NotedSince ev u := by
  obtain ⟨new, hjournal, hev⟩ := h
  obtain ⟨new', -, hjournal', -⟩ := h'
  refine ⟨new' ++ new, ?_, List.mem_append_right new' hev⟩
  rw [hjournal', hjournal, List.append_assoc]

theorem Precedes.notedSince {s t : State} (h : s.Precedes t) {ev : Event} {u : State}
    (hu : u.journal = ev :: t.journal) : s.NotedSince ev u := by
  obtain ⟨new, -, hjournal, -⟩ := h
  exact ⟨ev :: new, by rw [hu, hjournal, List.cons_append], List.mem_cons_self⟩

theorem NotedSince.earlier {s t u : State} {ev : Event} (h : t.NotedSince ev u) (h' : s.Precedes t) :
    s.NotedSince ev u := by
  obtain ⟨new, hjournal, hev⟩ := h
  obtain ⟨new', -, hjournal', -⟩ := h'
  refine ⟨new ++ new', ?_, List.mem_append_left new' hev⟩
  rw [hjournal, hjournal', List.append_assoc]

end State

def Limits.loopsExceeded (l : Limits) : Error := .limitExceeded "loops" l.maxLoops

theorem Services.charge_loops (svc : Services) (s : State) :
    svc.charge .loops s = if svc.limits.maxLoops ≤ s.usage.loops
      then Services.refuse svc.limits.loopsExceeded s else (.ok (), s.charged .loops) :=
  svc.charge_eq .loops s

/-- The computation neither looks at the count of loop bodies and the journal nor changes the
count. -/
def IsUncounted {α : Type} (f : State → α × State) : Prop :=
  ∀ s, (f s.uncounted).1 = (f s).1 ∧ (f s.uncounted).2.uncounted = (f s).2.uncounted ∧
    (f s).2.usage.loops = s.usage.loops

section Uncounted

variable {α β : Type} (svc : Services)

theorem IsUncounted.congr {f g : State → α × State} (hf : IsUncounted f) (h : ∀ s, g s = f s) :
    IsUncounted g := by
  rw [funext h]
  exact hf

theorem IsUncounted.bind {f : State → α × State} {g : α → State → β × State} (hf : IsUncounted f)
    (hg : ∀ a, IsUncounted (g a)) : IsUncounted fun s ↦ g (f s).1 (f s).2 := by
  intro s
  obtain ⟨hresult, hstate, hloops⟩ := hf s
  obtain ⟨hresult', hstate', hloops'⟩ := hg (f s).1 (f s).2
  obtain ⟨hresult'', hstate'', -⟩ := hg (f s).1 (f s.uncounted).2
  dsimp only
  rw [hresult, ← hresult', ← hstate', ← hresult'', ← hstate'', hstate]
  exact ⟨rfl, rfl, hloops'.trans hloops⟩

theorem IsUncounted.ite {p : State → Bool} (hp : ∀ s, p s.uncounted = p s)
    {f g : State → α × State} (hf : IsUncounted f) (hg : IsUncounted g) :
    IsUncounted fun s ↦ if p s then f s else g s := by
  intro s
  simp only [hp]
  cases p s with
  | true => exact hf s
  | false => exact hg s

theorem isUncounted_tick : IsUncounted svc.tick := by
  have hstepped : IsUncounted fun s ↦ ((), s.stepped) := fun _ ↦ ⟨rfl, rfl, rfl⟩
  have hyield : IsUncounted fun s ↦ ((), svc.yieldIfDue s) := by
    have hyielded : IsUncounted fun s ↦ ((), { s with
        yields := s.yields + 1
        tripped := s.tripped || svc.tripsAt (s.yields + 1) }.note .yielded) :=
      fun _ ↦ ⟨rfl, rfl, rfl⟩
    have hnothing : IsUncounted fun s ↦ ((), s) := fun _ ↦ ⟨rfl, rfl, rfl⟩
    exact (IsUncounted.ite (fun _ ↦ rfl) hyielded hnothing).congr fun s ↦
      apply_ite (Prod.mk ()) _ _ _
  have hlook : IsUncounted svc.look :=
    IsUncounted.ite (p := svc.isSignalled) (fun _ ↦ rfl) (fun _ ↦ ⟨rfl, rfl, rfl⟩)
      (fun _ ↦ ⟨rfl, rfl, rfl⟩)
  exact (hstepped.bind fun _ ↦ hyield).bind fun _ ↦ hlook

theorem isUncounted_charge {r : Resource} (hr : r ≠ .loops) : IsUncounted (svc.charge r) := by
  intro s
  have hcharged : s.uncounted.usage.used r = s.usage.used r ∧
      (s.uncounted.charged r).uncounted = (s.charged r).uncounted ∧
      (s.charged r).usage.loops = s.usage.loops := by
    cases r with
    | loops => exact absurd rfl hr
    | calls => exact ⟨rfl, rfl, rfl⟩
    | requests => exact ⟨rfl, rfl, rfl⟩
  rw [Services.charge_eq, Services.charge_eq, hcharged.1]
  split
  · exact ⟨rfl, rfl, rfl⟩
  · exact ⟨rfl, hcharged.2⟩

end Uncounted

/-- The states of two runs that started in `s₀` and `t₀`, while the first is ahead by `k`. -/
structure Tandem (s₀ t₀ : State) (k : Nat) (s t : State) : Prop where
  left : s₀.Precedes s
  right : t₀.Precedes t
  ahead : s.Ahead k t

/-- The run that is ahead has been refused a loop body that the other has counted. -/
def Tandem.Parts (l : Limits) (s₀ t₀ s t : State) : Prop :=
  s₀.NotedSince (.refused l.loopsExceeded) s ∧ t₀.NotedSince (.charged .loops) t

namespace Tandem

variable {s₀ t₀ s t : State} {k : Nat}

theorem change (h : Tandem s₀ t₀ k s t) {f : State → State} (hlater : ∀ s : State, s.Precedes (f s))
    (hf : IsUncounted fun s ↦ ((), f s)) : Tandem s₀ t₀ k (f s) (f t) where
  left := h.left.trans (hlater s)
  right := h.right.trans (hlater t)
  ahead := by
    obtain ⟨-, hs, hloops⟩ := hf s
    obtain ⟨-, ht, hloops'⟩ := hf t
    refine ⟨?_, ?_⟩
    · rw [← hs, ← ht, h.ahead.same]
    · rw [hloops, hloops', h.ahead.loops]

theorem meets {α : Type} {f : State → α × State} (hlater : ∀ s : State, s.Precedes (f s).2)
    (hf : IsUncounted f) {Q : State → State → Prop} :
    Meets Q (Tandem s₀ t₀ k) f f := by
  intro s t h
  refine Or.inl ⟨?_, h.change hlater fun s ↦ ⟨rfl, (hf s).2⟩⟩
  rw [← (hf s).1, ← (hf t).1, h.ahead.same]

theorem meets_iterate (svc : Services) :
    Meets (Parts svc.limits s₀ t₀) (Tandem s₀ t₀ k) (svc.charge .loops) (svc.charge .loops) := by
  intro s t h
  have hloops := h.ahead.loops
  rw [svc.charge_loops, svc.charge_loops]
  by_cases hs : svc.limits.maxLoops ≤ s.usage.loops
  · rw [if_pos hs]
    by_cases ht : svc.limits.maxLoops ≤ t.usage.loops
    · rw [if_pos ht]
      exact Or.inl ⟨rfl, h.change (isLocalChange_note _).precedes fun _ ↦ ⟨rfl, rfl, rfl⟩⟩
    · rw [if_neg ht]
      exact Or.inr (.of ⟨h.left.notedSince rfl, h.right.notedSince rfl⟩)
  · have ht : ¬svc.limits.maxLoops ≤ t.usage.loops := by omega
    rw [if_neg hs, if_neg ht]
    refine Or.inl ⟨rfl, ?_, ?_, h.ahead.same, ?_⟩
    · exact h.left.trans (.of_journal [.charged .loops] rfl rfl)
    · exact h.right.trans (.of_journal [.charged .loops] rfl rfl)
    · change s.usage.loops + 1 = t.usage.loops + 1 + k
      omega

theorem isMetering : IsMetering (Tandem s₀ t₀ k) where
  same h := (congrArg State.unmetered h.ahead.same :)
  later {s t u v} h hu hv hsame hmeters hmeters' := by
    have huncounted (s : State) : s.uncounted = s.unmetered.metered
        { s.meters with usage := { s.meters.usage with loops := 0 } } := rfl
    have hloops : u.usage.loops = s.usage.loops := congrArg (·.usage.loops) hmeters
    have hloops' : v.usage.loops = t.usage.loops := congrArg (·.usage.loops) hmeters'
    refine ⟨h.left.trans hu, h.right.trans hv, ?_, ?_⟩
    · rw [huncounted u, huncounted v, hsame, hmeters, hmeters']
      exact (congrArg (v.unmetered.metered ·.meters) h.ahead.same :)
    · rw [hloops, hloops', h.ahead.loops]

theorem pairing (svc : Services) (s₀ t₀ : State) (k : Nat) :
    Pairing svc svc (Parts svc.limits s₀ t₀) fun _ : Unit ↦ Tandem s₀ t₀ k := by
  refine .of_metering isMetering (meets (.tick svc) (isUncounted_tick svc)) fun r ↦ ?_
  by_cases hloops : r = .loops
  · subst hloops
    exact meets_iterate svc
  · exact meets (isLocal_charge svc r).precedes (isUncounted_charge svc hloops)

end Tandem

def Event.isLoopCharge : Event → Bool
  | charged .loops => true
  | _ => false

def State.CountsLoops (s t : State) : Prop :=
  ∃ later, t.journal = later ++ s.journal ∧
    t.usage.loops = s.usage.loops + later.countP Event.isLoopCharge

namespace State.CountsLoops

variable {svc : Services} {s t u : State} {p q : Option Error}

theorem of_journal (later : List Event) (hjournal : t.journal = later ++ s.journal)
    (hloops : t.usage.loops = s.usage.loops + later.countP Event.isLoopCharge) : s.CountsLoops t :=
  ⟨later, hjournal, hloops⟩

theorem trans (h : s.CountsLoops t) (h' : t.CountsLoops u) : s.CountsLoops u := by
  obtain ⟨later, hjournal, hloops⟩ := h
  obtain ⟨later', hjournal', hloops'⟩ := h'
  refine ⟨later' ++ later, ?_, ?_⟩
  · rw [hjournal', hjournal, List.append_assoc]
  · rw [List.countP_append]
    omega

theorem le (h : s.CountsLoops t) : s.usage.loops ≤ t.usage.loops := by
  obtain ⟨later, -, hloops⟩ := h
  omega

theorem lt (h : s.CountsLoops t) (hnoted : s.NotedSince (.charged .loops) t) :
    s.usage.loops < t.usage.loops := by
  obtain ⟨later, hjournal, hloops⟩ := h
  obtain ⟨new, hjournal', hmem⟩ := hnoted
  obtain rfl : new = later := List.append_cancel_right (hjournal'.symm.trans hjournal)
  have hpos : 0 < new.countP Event.isLoopCharge := List.countP_pos_iff.mpr ⟨_, hmem, rfl⟩
  omega

theorem act (h : Act svc s t) : s.CountsLoops t := by
  cases h with
  | tick =>
    rw [tick_eq]
    unfold Services.look Services.yieldIfDue
    split <;> split
    · exact of_journal [.cancelled, .yielded, .stepped] rfl rfl
    · exact of_journal [.yielded, .stepped] rfl rfl
    · exact of_journal [.cancelled, .stepped] rfl rfl
    · exact of_journal [.stepped] rfl rfl
  | leave forced => exact of_journal [.left forced s.outer.length] rfl rfl
  | charge r h hr => cases r <;> exact of_journal [.charged _] rfl rfl
  | request h => exact of_journal [.requested, .charged .requests] rfl rfl
  | body h ht =>
    obtain rfl | ⟨raw, store, temporaries, rfl⟩ := ht
    · exact of_journal [.iterated, .charged .loops] rfl rfl
    · exact of_journal [.iterated, .wrote raw false, .charged .loops] rfl rfl
  | change h =>
    cases h with
    | write raw store temporaries => exact of_journal [.wrote raw false] rfl rfl
    | define name body => exact of_journal [.defined (Text.lower name) body] rfl rfl
    | adjust quiet? fallback? => exact of_journal [] rfl rfl
    | draw => exact of_journal [] rfl rfl

theorem move (h : Move svc p s q t) : s.CountsLoops t := by
  cases h with
  | act hrunning h => exact act h
  | call frame hrunning hmay => exact of_journal [.called frame, .charged .calls] rfl rfl
  | start frame hrunning => exact of_journal [.started _ _ _] rfl rfl
  | finish => exact of_journal [.finished] rfl rfl
  | enter name params hrunning => exact of_journal [.entered name] rfl rfl
  | exit houter =>
    rw [State.exit_eq houter]
    exact of_journal [.exited] rfl rfl
  | pushCatch => exact of_journal [] rfl rfl
  | popCatch => exact of_journal [] rfl rfl
  | throw e hrunning => exact of_journal [] rfl rfl
  | refuse hrunning hrefuses => exact of_journal [.refused _] rfl rfl
  | fault _ hraises => exact of_journal [] rfl rfl
  | restore _ _ raw store temporaries => exact of_journal [.wrote raw true] rfl rfl
  | fail e _ name span =>
    exact of_journal [.recorded _] (journal_fail svc name span e s)
      (congrArg (·.usage.loops) (tally_fail svc name span e s) :)

end State.CountsLoops

theorem Course.countsLoops {svc : Services} {s t : State} {p : Option Error} (h : Course svc s p t) :
    s.CountsLoops t :=
  h.preserves (I := fun _ t ↦ s.CountsLoops t) (fun hmove hs ↦ hs.trans (.move hmove))
    (.of_journal [] rfl rfl)

def Statement.times (n : Nat) (statement : Statement) : Statement :=
  .mk (List.replicate n statement.parts).flatten statement.span

namespace Env

variable {env : Env} {k : Nat} {s t : State}

theorem eval_times_zero (statement : Statement) (s : State) :
    env.eval (statement.times 0) s = ("", s) := by
  unfold eval
  rw [evalAt_eq]
  rfl

variable (hscripted : env.registry.Scripted)

include hscripted

theorem eval_times_succ (n : Nat) (statement : Statement) (s : State) :
    let a := env.eval statement s
    let b := env.eval (statement.times n) a.2
    env.eval (statement.times (n + 1)) s = (a.1 ++ b.1, b.2) := by
  obtain ⟨parts, span⟩ := statement
  exact env.eval_append hscripted parts (List.replicate n parts).flatten span span span s

theorem precedes_eval (statement : Statement) (s : State) :
    s.Precedes (env.eval statement s).2 :=
  ((Tandem.pairing env.services s s 0).evalAt hscripted (Nat.le_refl _)
    (fun h ↦ absurd h (Nat.lt_irrefl _)) () statement).left s

/-- Evaluation in a state that is ahead does the same, unless it is refused a loop body that is
counted in the other state. -/
theorem eval_ahead (h : s.Ahead k t) (statement : Statement) :
    (env.eval statement s).1 = (env.eval statement t).1 ∧
        (env.eval statement s).2.Ahead k (env.eval statement t).2 ∨
      Tandem.Parts env.services.limits s t (env.eval statement s).2 (env.eval statement t).2 := by
  have hpaired := (Tandem.pairing env.services s t k).evalAt hscripted
    (Nat.le_refl (env.services.limits.maxDepth - s.calls.length))
    (fun h ↦ absurd h (Nat.lt_irrefl _)) () statement
  unfold eval
  rw [← h.calls_eq]
  rcases hpaired.meets s t ⟨.refl s, .refl t, h⟩ with ⟨htext, hstate⟩ | hparted
  · exact Or.inl ⟨htext, hstate.ahead⟩
  · obtain ⟨s', t', ⟨hrefused, hcounted⟩, hs, ht⟩ := hparted
    exact Or.inr ⟨hrefused.later hs, hcounted.later ht⟩

end Env

theorem Action.precedes_exec {α : Type} (svc : Services) {eval : Eval}
    (heval : ∀ statement (s : State), s.Precedes (eval statement s).2) (a : Action α)
    (t : Activation) : t.state.Precedes (a.exec svc eval t).2.state := by
  have hself (statement : Statement) :
      Paired (fun _ _ ↦ False) (fun _ _ ↦ False) (eval statement) (eval statement) :=
    ⟨heval statement, heval statement, fun _ _ h ↦ h.elim⟩
  exact ((Pairing.vacuous svc).script (fun _ ↦ hself) (ExceptT.run a) t.args ()).left t.state

theorem Action.bodies_bind {α β : Type} (svc : Services) (eval : Eval) (a : Action α)
    (f : α → Action β) (t : Activation) :
    (a >>= f).bodies svc eval t = a.bodies svc eval t +
      match a.exec svc eval t with
      | (.ok v, u) => (f v).bodies svc eval u
      | (.error _, _) => 0 := by
  have hbind := Script.bodies_bind svc eval (ExceptT.run a) (ExceptT.bindCont f) t
  change (ExceptT.run a >>= ExceptT.bindCont f).bodies svc eval t = _
  rw [hbind, exec]
  rcases (ExceptT.run a).run svc eval t with ⟨e | v, u⟩ <;> rfl

namespace Subtags

variable {svc : Services} {eval : Eval} {t : Activation}

theorem exec_isRunning : Action.isRunning.exec svc eval t = (.ok t.state.isRunning, t) := rfl

theorem exec_iterate : Action.iterate.exec svc eval t =
    ((svc.charge .loops t.state).1, ⟨t.args, (svc.charge .loops t.state).2⟩) := rfl

theorem exec_again {slot : Nat} {body : Statement}
    (hbody : (t.args.at? slot 0).bind Argument.statement? = some body) :
    (Action.again slot).exec svc eval t = (.ok (eval body (t.state.note .iterated)).1,
      ⟨t.args, (eval body (t.state.note .iterated)).2⟩) := by
  obtain ⟨⟨parameter, source, value?⟩, hat, hsource⟩ := Option.bind_eq_some_iff.mp hbody
  cases source with
  | default text => cases hsource
  | code statement =>
    obtain rfl := Option.some.inj hsource
    change (Except.ok (t.again eval slot 0).1, (t.again eval slot 0).2) = _
    rw [Activation.again, hat]
    rfl

theorem exec_times_stopped (h : t.state.isRunning = false) (body : Nat → Action String)
    (n start : Nat) (output : String) :
    (times body n start output).exec svc eval t = (.ok output, t) ∧
      (times body n start output).bodies svc eval t = 0 := by
  cases n with
  | zero => exact ⟨rfl, rfl⟩
  | succ n =>
    unfold times iteration
    rw [Action.exec_bind, Action.bodies_bind, exec_isRunning, h]
    exact ⟨rfl, rfl⟩

theorem exec_times_refused (h : t.state.isRunning = true)
    (hfull : svc.limits.maxLoops ≤ t.state.usage.loops) (body : Nat → Action String) (n start : Nat)
    (output : String) :
    (times body (n + 1) start output).exec svc eval t = (.error svc.limits.loopsExceeded,
        ⟨t.args, t.state.note (.refused svc.limits.loopsExceeded)⟩) ∧
      (times body (n + 1) start output).bodies svc eval t = 0 := by
  unfold times iteration
  rw [Action.exec_bind, Action.bodies_bind, exec_isRunning, h]
  dsimp only
  rw [if_pos rfl, Action.exec_bind, Action.bodies_bind, exec_iterate, svc.charge_loops,
    if_pos hfull]
  exact ⟨rfl, rfl⟩

theorem exec_times_started (h : t.state.isRunning = true)
    (hroom : ¬svc.limits.maxLoops ≤ t.state.usage.loops) {body : Statement}
    (hbody : (t.args.at? 0 0).bind Argument.statement? = some body) (n start : Nat)
    (output : String) :
    let a := eval body ((t.state.charged .loops).note .iterated)
    let loop := times (fun _ ↦ Action.again 0) (n + 1) start output
    let rest := times (fun _ ↦ Action.again 0) n (start + 1) (output ++ a.1)
    loop.exec svc eval t = rest.exec svc eval ⟨t.args, a.2⟩ ∧
      loop.bodies svc eval t = rest.bodies svc eval ⟨t.args, a.2⟩ + 1 := by
  intro a loop rest
  dsimp only [loop]
  rw [times, iteration, Action.exec_bind, Action.bodies_bind, exec_isRunning, h]
  dsimp only
  rw [if_pos rfl, Action.exec_bind, Action.bodies_bind, exec_iterate, svc.charge_loops,
    if_neg hroom]
  dsimp only
  rw [Action.exec_bind, Action.bodies_bind,
    exec_again (t := ⟨t.args, t.state.charged .loops⟩) hbody]
  refine ⟨rfl, ?_⟩
  change 0 + (0 + (1 + rest.bodies svc eval ⟨t.args, a.2⟩)) = _
  omega

theorem exec_repeatCode {text : String} (htext : (t.args.at? 1 0).bind Argument.value? = some text)
    {c : Invocation} {n : Int} (hn : c.plugins.integer? text = some n) (hnonneg : 0 ≤ n) :
    let loop := times (fun _ ↦ Action.again 0) n.toNat 0 ""
    (repeatCode c).exec svc eval t =
        ((loop.exec svc eval t).1.map some, (loop.exec svc eval t).2) ∧
      (repeatCode c).bodies svc eval t = loop.bodies svc eval t := by
  have hinteger : (c.integer text).exec svc eval t = (.ok n, t) := by
    unfold Invocation.integer
    rw [hn]
    rfl
  have hvalue : (Action.value 1).bodies svc eval t = 0 := rfl
  have hread : (c.integer text).bodies svc eval t = 0 := by
    unfold Invocation.integer
    rw [hn]
    rfl
  unfold repeatCode
  rw [Action.exec_bind, Action.bodies_bind, Fork.exec_value htext, hvalue]
  dsimp only
  rw [Action.exec_bind, Action.bodies_bind, hinteger, hread]
  dsimp only
  rw [if_neg (Int.not_lt.mpr hnonneg), Action.exec_bind, Action.bodies_bind, Nat.zero_add,
    Nat.zero_add]
  rcases (times (fun _ ↦ Action.again 0) n.toNat 0 "").exec svc eval t with ⟨e | output, u⟩ <;>
    exact ⟨rfl, Nat.add_zero _⟩

end Subtags

/-- How often a handler starts the body of a loop; of a host this is not known. -/
def Handler.bodies (svc : Services) (eval : Eval) (name : String) (t : Activation) : Handler → Nat
  | script body => (body ⟨name, svc.plugins, svc.origin⟩).bodies svc eval t
  | host _ => 0

section Repetition

open Subtags

variable {e : Engine} (he : e.Standard) (r : Request) {args : Arguments} {body : Statement}
  (hbody : (args.at? 0 0).bind Argument.statement? = some body) {k : Nat} {s t : State}

include he hbody

/-- A loop does what its body does that is written as often, unless it is refused a loop body. -/
theorem Engine.times_ahead (h : s.Ahead k t) (n start : Nat) (output : String) :
    let env := e.env r
    let loop := times (fun _ ↦ Action.again 0) n start output
    let run := loop.exec env.services env.eval ⟨args, s⟩
    let bodies := loop.bodies env.services env.eval ⟨args, s⟩
    let u := env.eval (body.times n) t
    (run.1 = .ok (output ++ u.1) ∧ run.2.state.Ahead (k + bodies) u.2 ∧
      (u.2.isRunning = true → bodies = n)) ∨
    s.NotedSince (.refused env.services.limits.loopsExceeded) run.2.state := by
  intro env
  have hlater := env.precedes_eval he.scripted
  -- With each round the loop gets ahead of the written body by the one unit that it counts.
  induction n generalizing k s t start output with
  | zero =>
    rw [Env.eval_times_zero]
    exact Or.inl ⟨congrArg Except.ok String.append_empty.symm, h, fun _ ↦ rfl⟩
  | succ n ih =>
    intro loop run bodies u
    by_cases hs : s.isRunning = true
    · by_cases hfull : env.services.limits.maxLoops ≤ s.usage.loops
      · have hrefused : run = _ := (exec_times_refused hs hfull _ n start output).1
        rw [hrefused]
        exact Or.inr ((State.Precedes.refl s).notedSince rfl)
      · have hcounted : s.Precedes ((s.charged .loops).note .iterated) :=
          .of_journal [.iterated, .charged .loops] rfl rfl
        obtain ⟨hrun, hbodies⟩ : run = _ ∧ bodies = _ :=
          exec_times_started (t := ⟨args, s⟩) hs hfull hbody n start output
        have hu : u = _ := env.eval_times_succ he.scripted n body t
        rw [hrun, hbodies, hu]
        rcases env.eval_ahead he.scripted h.counted body with ⟨htext, hstate⟩ | ⟨hrefused, -⟩
        · rcases ih hstate (start + 1)
              (output ++ (env.eval body ((s.charged .loops).note .iterated)).1) with
            ⟨hok, hend, hall⟩ | hrefused
          · refine Or.inl ⟨?_, ?_, ?_⟩
            · rw [hok, htext, String.append_assoc]
            · rw [Nat.add_comm _ 1, ← Nat.add_assoc]
              exact hend
            · intro hrunning
              rw [hall hrunning]
          · exact Or.inr (hrefused.earlier (hcounted.trans (hlater body _)))
        · exact Or.inr ((hrefused.later (Action.precedes_exec _ hlater _ ⟨args, _⟩)).earlier hcounted)
    · have hstopped : s.isRunning = false := by simpa using hs
      have ht : t.isRunning = false := h.isRunning_eq ▸ hstopped
      obtain ⟨hrun, hbodies⟩ : run = _ ∧ bodies = _ :=
        exec_times_stopped (t := ⟨args, s⟩) hstopped _ (n + 1) start output
      have hu : u = _ := Env.eval_stopped ht (body.times (n + 1))
      rw [hrun, hbodies, hu]
      exact Or.inl ⟨congrArg Except.ok String.append_empty.symm, h, by simp [ht]⟩

/-- If the body counts no loop bodies itself and the run goes on, a loop is refused a body after
those that were left. -/
theorem Engine.times_refused (h : s.Ahead k t) {left n : Nat} (hlt : left < n) (start : Nat)
    (output : String)
    (hleft : (e.env r).services.limits.maxLoops - s.usage.loops = left)
    (hrunning : ((e.env r).eval (body.times left) t).2.isRunning = true)
    (hloops : ((e.env r).eval (body.times left) t).2.usage.loops = t.usage.loops) :
    let env := e.env r
    let loop := times (fun _ ↦ Action.again 0) n start output
    let run := loop.exec env.services env.eval ⟨args, s⟩
    run.1 = .error env.services.limits.loopsExceeded ∧
      loop.bodies env.services env.eval ⟨args, s⟩ = left ∧
      run.2.state.Ahead (k + left) (env.eval (body.times left) t).2 := by
  obtain ⟨n, rfl⟩ : ∃ m, n = m + 1 := ⟨n - 1, by omega⟩
  induction left generalizing k s t n start output with
  | zero =>
    intro env loop run
    have hfull : (e.env r).services.limits.maxLoops ≤ s.usage.loops := by omega
    rw [Env.eval_times_zero] at hrunning ⊢
    have hs : s.isRunning = true := h.isRunning_eq ▸ hrunning
    obtain ⟨hrun, hbodies⟩ : run = _ ∧ loop.bodies _ _ _ = _ :=
      exec_times_refused (t := ⟨args, s⟩) hs hfull _ n start output
    rw [hrun]
    exact ⟨rfl, hbodies, h.same, h.loops⟩
  | succ left ih =>
    intro env loop run
    have ht : t.isRunning = true := by
      by_contra hstopped
      rw [Env.eval_stopped (by simpa using hstopped)] at hrunning
      exact hstopped hrunning
    have hs : s.isRunning = true := h.isRunning_eq ▸ ht
    have hroom : ¬(e.env r).services.limits.maxLoops ≤ s.usage.loops := by omega
    obtain ⟨hrun, hbodies⟩ : run = _ ∧ loop.bodies _ _ _ = _ :=
      exec_times_started (t := ⟨args, s⟩) hs hroom hbody n start output
    rw [Env.eval_times_succ he.scripted] at hrunning hloops ⊢
    have hfirst : t.CountsLoops (env.eval body t).2 := (he.course r body t).countsLoops
    have hrest : (env.eval body t).2.CountsLoops (env.eval (body.times left) (env.eval body t).2).2 :=
      (he.course r (body.times left) _).countsLoops
    -- The count does not fall, so that it has stayed where it was after the first body already.
    have hkept : (env.eval body t).2.usage.loops = t.usage.loops :=
      Nat.le_antisymm (hloops ▸ hrest.le) hfirst.le
    rcases env.eval_ahead he.scripted h.counted body with ⟨-, hstate⟩ | ⟨-, hcounted⟩
    · have hbudget : (e.env r).services.limits.maxLoops -
          (env.eval body ((s.charged .loops).note .iterated)).2.usage.loops = left := by
        have hahead := h.loops
        have hahead' := hstate.loops
        omega
      have hsame := hloops.trans hkept.symm
      obtain ⟨m, rfl⟩ : ∃ m, n = m + 1 := ⟨n - 1, by omega⟩
      obtain ⟨herror, hrounds, hend⟩ := ih hstate (start + 1) _ hbudget hrunning hsame m (by omega)
      rw [hrun, hbodies, hrounds, Nat.add_comm left 1, ← Nat.add_assoc]
      exact ⟨herror, rfl, hend⟩
    · have hmore := hfirst.lt hcounted
      omega

end Repetition

/-- A repetition is its body written as often as its amount says, but for the loop bodies that it
counts. Where fewer are left than the amount, the body counts none itself and the run goes on, those
that are left are evaluated and the next one is refused. -/
theorem Engine.repeat_unrolls {e : Engine} (he : e.Standard) {key : String} {d : Definition Handler}
    (hd : e.registry.lookup key = some d) (hid : d.id = "repeat") {signature : Signature Handler}
    (hsignature : signature ∈ d.signatures) (r : Request) (name : String) {t : Activation}
    {body : Statement} (hbody : (t.args.at? 0 0).bind Argument.statement? = some body)
    {text : String} (htext : (t.args.at? 1 0).bind Argument.value? = some text) {n : Int}
    (hn : (e.env r).services.plugins.integer? text = some n) (hnonneg : 0 ≤ n) :
    let env := e.env r
    let limits := env.services.limits
    let run := signature.handler.run env.services env.eval name t
    let started := signature.handler.bodies env.services env.eval name t
    (¬t.state.NotedSince (.refused limits.loopsExceeded) run.2.state →
      let written := env.eval (body.times n.toNat) t.state
      run.1 = .ok (some written.1) ∧ run.2.state.Ahead started written.2 ∧
      (written.2.isRunning = true → started = n.toNat)) ∧
    let left := limits.maxLoops - t.state.usage.loops
    let written := env.eval (body.times left) t.state
    left < n.toNat → written.2.isRunning = true →
      written.2.usage.loops = t.state.usage.loops →
      run.1 = .error limits.loopsExceeded ∧ limits.loopsExceeded.kind = .resourceLimit ∧
      started = left ∧ run.2.state.Ahead left written.2 := by
  intro env limits run started
  obtain ⟨description, hone⟩ := he.signatures_of_declares hd Subtags.declares_repeat hid
  obtain rfl : signature = Subtags.repeatSignature description := by
    rw [hone, List.mem_singleton] at hsignature
    exact hsignature
  obtain ⟨hrun, hstarted⟩ : run = _ ∧ started = _ :=
    Subtags.exec_repeatCode (t := t) htext (c := ⟨name, env.services.plugins, env.services.origin⟩) hn
      hnonneg
  have hself : t.state.Ahead 0 t.state := ⟨rfl, rfl⟩
  rw [hrun, hstarted]
  refine ⟨fun hnone ↦ ?_, fun hlt hrunning hloops ↦ ?_⟩
  · rcases times_ahead he r hbody hself n.toNat 0 "" with ⟨hok, hend, hall⟩ | hrefused
    · rw [Nat.zero_add] at hend
      refine ⟨?_, hend, hall⟩
      rw [hok, String.empty_append]
      rfl
    · exact absurd hrefused hnone
  · obtain ⟨herror, hbodies, hend⟩ := times_refused he r hbody hself hlt 0 "" rfl hrunning hloops
    rw [Nat.zero_add] at hend
    exact ⟨by rw [herror]; rfl, rfl, hbodies, hend⟩

/-- A loop in a loop that uses up all loop bodies, and a loop that is left six of its nine. -/
theorem Engine.repeat_unrolls_ceiling :
    let place : Span := ⟨⟨0, 1, 1⟩, ⟨0, 1, 1⟩⟩
    let amount (text : String) : Argument :=
      { parameter := ⟨"amount", .eager, .required⟩
        source := .code (.mk [.literal text place] place)
        value? := some text }
    let call (body : Statement) (text : String) : Activation :=
      ⟨⟨[], [[.supplied ⟨"code", .deferred, .required⟩ body], [amount text]]⟩, {}⟩
    let nested := parse "\x7brepeat;a;2\x7d\x7bset;x;1\x7d"
    let flat := parse "b\x7bset;x;1\x7d"
    let r : Request := { limits? := some { maxLoops := 6 } }
    ∃ e : Engine, e.Standard ∧ ∃ d, e.registry.lookup "loop" = some d ∧ d.id = "repeat" ∧
      ∃ signature ∈ d.signatures,
      let env := e.env r
      let run := signature.handler.run env.services env.eval "loop"
      ¬State.NotedSince {} (.refused env.services.limits.loopsExceeded)
        (run (call nested "2")).2.state ∧
      (run (call nested "2")).1 = .ok (some "aaaa") ∧
      (run (call nested "2")).2.state.Ahead 2 (env.eval (nested.times 2) {}).2 ∧
      (run (call flat "9")).1 = .error env.services.limits.loopsExceeded ∧
      signature.handler.bodies env.services env.eval "loop" (call flat "9") = 6 ∧
      (run (call flat "9")).2.state.Ahead 6 (env.eval (flat.times 6) {}).2 := by
  intro place amount call nested flat r
  obtain ⟨e, -, he, hruns⟩ := exists_standard_of_any (b := { providers := [⟨"", .tag⟩] }) rfl rfl
    (p := fun e ↦
      let env := e.env r
      let run := Handler.run env.services env.eval "loop" (call nested "2") (.script Subtags.repeatCode)
      let written := env.eval (nested.times 2) {}
      let written' := env.eval (flat.times 6) {}
      decide (env.services.plugins.integer? "2" = some 2 ∧ env.services.plugins.integer? "9" = some 9 ∧
        (∀ ev ∈ run.2.state.journal, ev.isRefusal = false) ∧
        written.1 = "aaaa" ∧ written.2.isRunning = true ∧
        written'.2.isRunning = true ∧ written'.2.usage.loops = 0))
    (by decide +kernel)
  obtain ⟨htwo, hnine, hnone, houtput, hrunning, hrunning', hloops⟩ := of_decide_eq_true hruns
  have hkey : normalize "loop" ∈ Subtags.repeatDeclaration.keys := by decide +kernel
  obtain ⟨d, hdeclaration, hd⟩ := he.lookup_of_key Subtags.declares_repeat.mem hkey
  have hid : d.id = "repeat" := (Definition.of_declaration hdeclaration).1
  obtain ⟨description, hone⟩ := he.signatures_of_declares hd Subtags.declares_repeat hid
  have hsignature : Subtags.repeatSignature description ∈ d.signatures := by
    rw [hone]
    exact List.mem_singleton_self _
  obtain ⟨hwritten, -⟩ := repeat_unrolls he hd hid hsignature r "loop" (t := call nested "2") rfl rfl
    htwo (by decide)
  obtain ⟨-, hrefused⟩ := repeat_unrolls he hd hid hsignature r "loop" (t := call flat "9") rfl rfl
    hnine (by decide)
  have hquiet : ¬State.NotedSince {} (.refused (e.env r).services.limits.loopsExceeded)
      ((Subtags.repeatSignature description).handler.run (e.env r).services (e.env r).eval "loop"
        (call nested "2")).2.state := by
    rintro ⟨later, hjournal, hev⟩
    have hnoted := List.mem_append_left ({} : State).journal hev
    rw [← hjournal] at hnoted
    exact Bool.noConfusion (hnone _ hnoted)
  have hleft : (e.env r).services.limits.maxLoops - (call flat "9").state.usage.loops = 6 := rfl
  have hamount : Int.toNat 2 = 2 := rfl
  have hamount' : Int.toNat 9 = 9 := rfl
  rw [hamount] at hwritten
  dsimp only at hrefused
  rw [hleft, hamount'] at hrefused
  dsimp only [call] at hwritten hrefused hquiet
  obtain ⟨hok, hahead, hall⟩ := hwritten hquiet
  obtain ⟨herror, -, hstarted, hahead'⟩ := hrefused (by decide) hrunning' hloops
  rw [hall hrunning] at hahead
  rw [houtput] at hok
  refine ⟨e, he, d, hd, hid, _, hsignature, ?_⟩
  dsimp only [call]
  exact ⟨hquiet, hok, hahead, herror, hstarted, hahead'⟩

end BraceScript
