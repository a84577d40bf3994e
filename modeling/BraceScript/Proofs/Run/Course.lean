import BraceScript.Proofs.Run.Anatomy
import BraceScript.Proofs.Run.Journal

namespace BraceScript

namespace State

def charged (s : State) (r : Resource) : State :=
  { s with usage := s.usage.count r }.note (.charged r)

/-- The state after a variable has been written, whether it is stored or temporary. -/
def written (s : State) (raw : String) (restoring : Bool) (store : Store)
    (temporaries : Table String Value) : State :=
  { s with store, frame := { s.frame with temporaries } }.note (.wrote raw restoring)

def adjusted (s : State) (quiet? : Option Bool) (fallback? : Option String) : State :=
  { s with frame := { s.frame with quiet?, fallback? } }

def drawn (s : State) : State := { s with draws := s.draws + 1 }

/-- One more call may be counted and nested in those in progress. -/
def MayCall (s : State) (l : Limits) : Prop :=
  s.usage.used .calls < l.ceiling .calls ∧ s.calls.length < l.maxDepth

/-- The state after a call has been counted and put on top of those in progress. -/
def called (s : State) (frame : CallFrame) : State := (s.charged .calls).pushCall frame

/-- The state in which the handler of the call on top starts. -/
def started (s : State) (frame : CallFrame) : State :=
  s.note (.started frame.name frame.span s.calls.length)

end State

def StoreFaults.Raises (f : StoreFaults) (e : Error) : Prop :=
  ∃ v, f.onGet v = some e ∨ f.onSet v = some e ∨ f.onReset v = some e

theorem Limits.charge_eq_error_iff {l : Limits} {u : Usage} {r : Resource} {e : Error} :
    l.charge u r = .error e ↔
      l.ceiling r ≤ u.used r ∧ e = .limitExceeded r.label (l.ceiling r) := by
  unfold charge
  split <;> simp [*, eq_comm]

theorem Limits.checkDepth_eq_error_iff {l : Limits} {depth : Nat} {e : Error} :
    l.checkDepth depth = .error e ↔ l.maxDepth < depth ∧ e = l.depthExceeded := by
  unfold checkDepth
  split <;> simp [*, eq_comm]

/-- One more unit would pass a ceiling, or one more call lie too deep, which is the error `e`. -/
inductive Refuses (l : Limits) (n : Tally) (e : Error) : Prop
  | unit (r : Resource) (h : l.charge n.usage r = .error e)
  | depth (h : l.checkDepth (n.calls.length + 1) = .error e)

namespace Refuses

variable {l : Limits} {n : Tally} {e : Error}

theorem of_used {r : Resource} (h : l.ceiling r ≤ n.usage.used r) :
    Refuses l n (.limitExceeded r.label (l.ceiling r)) :=
  .unit r (Limits.charge_eq_error_iff.mpr ⟨h, rfl⟩)

theorem of_calls (h : l.maxDepth ≤ n.calls.length) : Refuses l n l.depthExceeded :=
  .depth (Limits.checkDepth_eq_error_iff.mpr ⟨Nat.lt_succ_of_le h, rfl⟩)

theorem kind_eq (h : Refuses l n e) : e.kind = .resourceLimit := by
  cases h with
  | unit r h =>
    rw [(Limits.charge_eq_error_iff.mp h).2]
    rfl
  | depth h =>
    rw [(Limits.checkDepth_eq_error_iff.mp h).2]
    rfl

end Refuses

theorem Services.charge_eq (svc : Services) (r : Resource) (s : State) :
    svc.charge r s = if svc.limits.ceiling r ≤ s.usage.used r
      then Services.refuse (.limitExceeded r.label (svc.limits.ceiling r)) s
      else (.ok (), s.charged r) := by
  unfold Services.charge Limits.charge
  by_cases h : svc.limits.ceiling r ≤ s.usage.used r
  · simp only [if_pos h]
  · simp only [if_neg h]
    rfl

inductive Change (s : State) : State → Prop
  | write (raw : String) (store : Store) (temporaries : Table String Value) :
    Change s (s.written raw false store temporaries)
  | define (name : String) (body : Statement) : Change s (Services.define name body s)
  | adjust (quiet? : Option Bool) (fallback? : Option String) : Change s (s.adjusted quiet? fallback?)
  | draw : Change s s.drawn

/-- What a call does to the state in one go. A loop body starts after its unit has been counted and
perhaps a variable written, and the host is asked right after the request has been counted. -/
inductive Act (svc : Services) (s : State) : State → Prop
  | tick : Act svc s (svc.tick s).2
  | leave (forced : Bool) : Act svc s (Services.leave forced s)
  | charge (r : Resource) (h : s.usage.used r < svc.limits.ceiling r) (hr : r ≠ .requests) :
    Act svc s (s.charged r)
  | request (h : s.usage.used .requests < svc.limits.ceiling .requests) :
    Act svc s ((s.charged .requests).note .requested)
  | body {t : State} (h : s.usage.used .loops < svc.limits.ceiling .loops)
    (ht : t = s.charged .loops ∨ ∃ raw store temporaries,
      t = (s.charged .loops).written raw false store temporaries) : Act svc s (t.note .iterated)
  | change {t : State} (h : Change s t) : Act svc s t

/-- The course of an evaluation. The error is that of a call which is about to fail with it. -/
inductive Course (svc : Services) : State → Option Error → State → Prop
  | refl (s : State) : Course svc s none s
  | trans {s t u : State} {p : Option Error} : Course svc s none t → Course svc t p u →
    Course svc s p u
  | act {s t : State} : s.isRunning = true → Act svc s t → Course svc s none t
  -- The arguments of a call are evaluated first, and then its handler starts.
  | call {s t u : State} {p : Option Error} (frame : CallFrame) : s.isRunning = true →
    s.MayCall svc.limits → Course svc (s.called frame) none t → t.isRunning = true →
    Course svc (t.started frame) p u → Course svc s p u.popCall
  | unstarted {s t : State} (frame : CallFrame) : s.isRunning = true → s.MayCall svc.limits →
    Course svc (s.called frame) none t → Course svc s none t.popCall
  | activation {s t : State} (name : String) (params : List String) : s.isRunning = true →
    Course svc (s.enter name params) none t → Course svc s none t.exit
  | interception {s t : State} : Course svc s.pushCatch none t → Course svc s none t.popCatch
  | throw {s : State} (e : Error) : s.isRunning = true → Course svc s (some e) s
  | refuse {s : State} {e : Error} : s.isRunning = true → Refuses svc.limits s.tally e →
    Course svc s (some e) (s.note (.refused e))
  -- The store may fail a call that is left after the run has stopped.
  | fault {e : Error} (s : State) : svc.faults.Raises e → Course svc s (some e) s
  | restore {s t : State} {p : Option Error} (raw : String) (store : Store)
    (temporaries : Table String Value) : Course svc s p t →
    Course svc s p (t.written raw true store temporaries)
  | fail {s t : State} {e : Error} (name : String) (span : Span) : Course svc s (some e) t →
    Course svc s none (fail svc name span e t).2

/-- The part of a state on which the conduct of a run depends, besides its history. -/
structure Vitals where
  phase : Phase
  params : List String
  outer : List Frame
  calls : List CallFrame
  usage : Usage
  errors : List LocatedError
  catches : List (List LocatedError)
  tripped : Bool
  steps : Nat
  yields : Nat
  cancelled : Bool

def State.vitals (s : State) : Vitals where
  phase := s.phase
  params := s.frame.params
  outer := s.outer
  calls := s.calls
  usage := s.usage
  errors := s.errors
  catches := s.catches
  tripped := s.tripped
  steps := s.steps
  yields := s.yields
  cancelled := s.cancelled

theorem Change.vitals_eq {s t : State} (h : Change s t) : t.vitals = s.vitals := by
  cases h <;> rfl

theorem Change.isRunning_eq {s t : State} (h : Change s t) : t.isRunning = s.isRunning :=
  congrArg (fun v ↦ v.phase == .running) h.vitals_eq

namespace State

/-- What is the same after the evaluation of a statement. Lists are latest first, so a list that has
only been appended to has the earlier one as its end. -/
structure Keeps (s t : State) : Prop where
  calls : t.calls = s.calls
  outer : t.outer = s.outer
  params : t.frame.params = s.frame.params
  depth : t.catches.length = s.catches.length
  below : t.catches.tail = s.catches.tail
  caught : s.caught <:+ t.caught
  errors : s.errors <:+ t.errors

namespace Keeps

variable {s t u : State}

theorem refl (s : State) : s.Keeps s := ⟨rfl, rfl, rfl, rfl, rfl, List.suffix_rfl, List.suffix_rfl⟩

theorem trans (h : s.Keeps t) (h' : t.Keeps u) : s.Keeps u where
  calls := h'.calls.trans h.calls
  outer := h'.outer.trans h.outer
  params := h'.params.trans h.params
  depth := h'.depth.trans h.depth
  below := h'.below.trans h.below
  caught := h.caught.trans h'.caught
  errors := h.errors.trans h'.errors

theorem of_eq (hcalls : t.calls = s.calls) (houter : t.outer = s.outer)
    (hparams : t.frame.params = s.frame.params) (hcatches : t.catches = s.catches)
    (herrors : t.errors = s.errors) : s.Keeps t where
  calls := hcalls
  outer := houter
  params := hparams
  depth := by rw [hcatches]
  below := by rw [hcatches]
  caught := by
    have hcaught : t.caught = s.caught := congrArg (·.headD []) hcatches
    exact hcaught ▸ List.suffix_rfl
  errors := herrors ▸ List.suffix_rfl

theorem of_vitals (h : t.vitals = s.vitals) : s.Keeps t :=
  of_eq (congrArg Vitals.calls h) (congrArg Vitals.outer h) (congrArg Vitals.params h)
    (congrArg Vitals.catches h) (congrArg Vitals.errors h)

theorem record (s : State) (e : LocatedError) : s.Keeps (s.record e) := by
  rcases record_cases s e with h | ⟨c, rest, hcatches, -, h⟩
  · rw [h]
    exact ⟨rfl, rfl, rfl, rfl, rfl, List.suffix_rfl, List.suffix_cons e s.errors⟩
  · rw [h]
    refine ⟨rfl, rfl, rfl, by simp [hcatches], by simp [hcatches], ?_, List.suffix_rfl⟩
    rw [State.caught, hcatches]
    exact List.suffix_cons e c

theorem fail (svc : Services) (name : String) (span : Span) (e : Error) (s : State) :
    s.Keeps (fail svc name span e s).2 := by
  rw [fail_eq]
  have hphase : s.Keeps { s with phase := if e.isTerminal then .aborted else s.phase } :=
    of_eq rfl rfl rfl rfl rfl
  exact hphase.trans (record _ _)

theorem tick (svc : Services) (s : State) : s.Keeps (svc.tick s).2 := by
  rw [tick_eq]
  unfold Services.look Services.yieldIfDue
  split <;> split <;> exact of_eq rfl rfl rfl rfl rfl

theorem act {svc : Services} (h : Act svc s t) : s.Keeps t := by
  cases h with
  | tick => exact tick svc s
  | leave forced => exact of_eq rfl rfl rfl rfl rfl
  | charge r h => exact of_eq rfl rfl rfl rfl rfl
  | request h => exact of_eq rfl rfl rfl rfl rfl
  | body h ht =>
    rcases ht with rfl | ⟨raw, store, temporaries, rfl⟩
    · exact of_eq rfl rfl rfl rfl rfl
    · exact of_eq rfl rfl rfl rfl rfl
  | change h => exact of_vitals h.vitals_eq

theorem popCall {frame : CallFrame} (h : (s.called frame).Keeps t) : s.Keeps t.popCall :=
  ⟨congrArg List.tail h.calls, h.outer, h.params, h.depth, h.below, h.caught, h.errors⟩

end Keeps

theorem exit_eq {s : State} {f : Frame} {rest : List Frame} (h : s.outer = f :: rest) :
    s.exit = State.note { s with
      frame := f
      outer := rest
      phase := if s.phase = .returning then .running else s.phase } .exited := by
  unfold exit popFrame
  simp only [h]
  split <;> rfl

end State

theorem Course.keeps {svc : Services} {s t : State} {p : Option Error} (h : Course svc s p t) :
    s.Keeps t := by
  induction h with
  | refl s => exact .refl s
  | trans _ _ ih ih' => exact ih.trans ih'
  | act _ h => exact .act h
  | @call s t u p frame _ _ _ _ _ ih ih' =>
    have hstarted : t.Keeps (t.started frame) := .of_eq rfl rfl rfl rfl rfl
    exact .popCall (ih.trans (hstarted.trans ih'))
  | unstarted frame _ _ _ ih => exact .popCall ih
  | activation name params _ _ ih =>
    rw [State.exit_eq ih.outer]
    exact ⟨ih.calls, rfl, rfl, ih.depth, ih.below, ih.caught, ih.errors⟩
  | @interception s t _ ih =>
    have hcaught : t.popCatch.caught = s.caught := congrArg (·.headD []) ih.below
    exact ⟨ih.calls, ih.outer, ih.params, congrArg List.length ih.below,
      congrArg List.tail ih.below, hcaught ▸ List.suffix_rfl, ih.errors⟩
  | throw e _ => exact .refl _
  | refuse _ _ => exact .of_eq rfl rfl rfl rfl rfl
  | fault s _ => exact .refl s
  | restore raw store temporaries _ ih => exact ih.trans (.of_eq rfl rfl rfl rfl rfl)
  | fail name span _ ih => exact ih.trans (.fail _ _ _ _ _)

end BraceScript
