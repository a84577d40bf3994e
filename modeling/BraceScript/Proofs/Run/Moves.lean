import BraceScript.Proofs.Run.Course

namespace BraceScript

/-- One move of a course. The errors are those that the current call is about to fail with, before
and after the move. -/
inductive Move (svc : Services) : Option Error → State → Option Error → State → Prop
  | act {s t : State} : s.isRunning = true → Act svc s t → Move svc none s none t
  | call {s : State} (frame : CallFrame) : s.isRunning = true → s.MayCall svc.limits →
    Move svc none s none (s.called frame)
  | start {s : State} (frame : CallFrame) : s.isRunning = true →
    Move svc none s none (s.started frame)
  | finish (p : Option Error) (s : State) : Move svc p s p s.popCall
  | enter {s : State} (name : String) (params : List String) : s.isRunning = true →
    Move svc none s none (s.enter name params)
  | exit {s : State} {f : Frame} {rest : List Frame} : s.outer = f :: rest →
    Move svc none s none s.exit
  | pushCatch (s : State) : Move svc none s none s.pushCatch
  | popCatch (s : State) : Move svc none s none s.popCatch
  | throw {s : State} (e : Error) : s.isRunning = true → Move svc none s (some e) s
  | refuse {s : State} {e : Error} : s.isRunning = true → Refuses svc.limits s.tally e →
    Move svc none s (some e) (s.note (.refused e))
  | fault {e : Error} (s : State) : svc.faults.Raises e → Move svc none s (some e) s
  | restore (p : Option Error) (s : State) (raw : String) (store : Store)
    (temporaries : Table String Value) : Move svc p s p (s.written raw true store temporaries)
  | fail (e : Error) (s : State) (name : String) (span : Span) :
    Move svc (some e) s none (fail svc name span e s).2

theorem Course.preserves {svc : Services} {I : Option Error → State → Prop}
    (hmove : ∀ {p s q t}, Move svc p s q t → I p s → I q t) {s t : State} {p : Option Error}
    (h : Course svc s p t) (hs : I none s) : I p t := by
  induction h with
  | refl s => exact hs
  | trans _ _ ih ih' => exact ih' (ih hs)
  | act hrunning h => exact hmove (.act hrunning h) hs
  | call frame hrunning hmay _ hstart _ ih ih' =>
    have harguments := ih (hmove (.call frame hrunning hmay) hs)
    have hhandler := ih' (hmove (.start frame hstart) harguments)
    exact hmove (.finish _ _) hhandler
  | unstarted frame hrunning hmay _ ih =>
    exact hmove (.finish _ _) (ih (hmove (.call frame hrunning hmay) hs))
  | activation name params hrunning hbody ih =>
    -- The frame that is left is the one that was entered.
    have hentered := hmove (.enter name params hrunning) hs
    exact hmove (.exit hbody.keeps.outer) (ih hentered)
  | interception _ ih => exact hmove (.popCatch _) (ih (hmove (.pushCatch _) hs))
  | throw e hrunning => exact hmove (.throw e hrunning) hs
  | refuse hrunning hrefuses => exact hmove (.refuse hrunning hrefuses) hs
  | fault s hraises => exact hmove (.fault s hraises) hs
  | restore raw store temporaries _ ih => exact hmove (.restore _ _ raw store temporaries) (ih hs)
  | fail name span _ ih => exact hmove (.fail _ _ name span) (ih hs)

/-- The journal accounts for what the run has counted, nested and defined, and for its phase. -/
def State.Tallied (s : State) : Prop := s.tally = Tally.ofJournal s.journal

section Tallied

variable {svc : Services} {s t : State} {p q : Option Error}

theorem journal_fail (svc : Services) (name : String) (span : Span) (e : Error) (s : State) :
    (fail svc name span e s).2.journal = .recorded ⟨span, name, e, s.stack⟩ :: s.journal := by
  rw [fail_eq]
  rcases State.record_cases _ ⟨span, name, e, s.stack⟩ with h | ⟨c, rest, -, -, h⟩
  · rw [h]
    rfl
  · rw [h]
    rfl

theorem tally_fail (svc : Services) (name : String) (span : Span) (e : Error) (s : State) :
    (fail svc name span e s).2.tally = s.tally.enter (.recorded ⟨span, name, e, s.stack⟩) := by
  rw [fail_eq]
  rcases State.record_cases _ ⟨span, name, e, s.stack⟩ with h | ⟨c, rest, -, -, h⟩
  · rw [h]
    rfl
  · rw [h]
    rfl

theorem Act.tallied (h : Act svc s t) (hs : s.Tallied) : t.Tallied := by
  have henter (ev : Event) : s.tally.enter ev = (Tally.ofJournal s.journal).enter ev :=
    congrArg (·.enter ev) hs
  cases h with
  | tick =>
    rw [tick_eq]
    unfold Services.look Services.yieldIfDue
    split <;> split
    · exact congrArg (fun n : Tally ↦ (n.enter .stepped).enter .cancelled) hs
    · exact henter .stepped
    · exact congrArg (fun n : Tally ↦ (n.enter .stepped).enter .cancelled) hs
    · exact henter .stepped
  | leave forced => exact henter (.left forced s.outer.length)
  | charge r h hr => exact henter (.charged r)
  | request h => exact henter (.charged .requests)
  | body h ht =>
    rcases ht with rfl | ⟨raw, store, temporaries, rfl⟩
    · exact henter (.charged .loops)
    · exact henter (.charged .loops)
  | change h =>
    cases h with
    | write raw store temporaries => exact hs
    | define name body => exact henter (.defined (Text.lower name) body)
    | adjust quiet? fallback? => exact hs
    | draw => exact hs

theorem Move.tallied (h : Move svc p s q t) (hs : s.Tallied) : t.Tallied := by
  have henter (ev : Event) : s.tally.enter ev = (Tally.ofJournal s.journal).enter ev :=
    congrArg (·.enter ev) hs
  cases h with
  | act hrunning h => exact h.tallied hs
  | call frame hrunning hmay =>
    exact congrArg (fun n : Tally ↦ (n.enter (.charged .calls)).enter (.called frame)) hs
  | start frame hrunning => exact hs
  | finish => exact henter .finished
  | enter name params hrunning => exact henter (.entered name)
  | exit houter =>
    rw [State.exit_eq houter]
    refine Eq.trans ?_ (henter .exited)
    simp [State.tally, Tally.enter, State.note, houter]
  | pushCatch => exact hs
  | popCatch => exact hs
  | throw e hrunning => exact hs
  | refuse hrunning hrefuses => exact hs
  | fault _ hraises => exact hs
  | restore _ _ raw store temporaries => exact hs
  | fail e _ name span =>
    rw [State.Tallied, journal_fail, tally_fail]
    exact henter (.recorded ⟨span, name, e, s.stack⟩)

theorem Course.tallied (h : Course svc s p t) (hs : s.Tallied) : t.Tallied :=
  h.preserves (I := fun _ s ↦ s.Tallied) Move.tallied hs

end Tallied

structure Outline where
  phase : Phase
  cancelled : Bool
  activations : Nat
  reported : List LocatedError
  journal : List Event

def State.outline (s : State) : Outline where
  phase := s.phase
  cancelled := s.cancelled
  activations := s.outer.length
  reported := s.errors
  journal := s.journal

inductive Turn (svc : Services) : Option Error → Outline → Option Error → Outline → Prop
  | work (o : Outline) (k : Nat) (new : List Event) : o.phase = .running →
    (∀ ev ∈ new, ev.isWork = true) →
    Turn svc none o none { o with activations := k, journal := new ++ o.journal }
  | cancel (o : Outline) (new : List Event) : o.phase = .running →
    (∀ ev ∈ new, ev.isWork = true) → Turn svc none o none
      { o with phase := .aborted, cancelled := true, journal := .cancelled :: (new ++ o.journal) }
  | leave (o : Outline) (forced : Bool) : o.phase = .running → Turn svc none o none
      { o with
        phase := if forced then .aborted else .returning
        journal := .left forced o.activations :: o.journal }
  | unwind (p : Option Error) (o : Outline) (ev : Event) : ev.unwinds = true →
    Turn svc p o p { o with journal := ev :: o.journal }
  | exit (o : Outline) (k : Nat) : o.activations = k + 1 → Turn svc none o none
      { o with
        phase := if o.phase = .returning then .running else o.phase
        activations := k
        journal := .exited :: o.journal }
  | stay (o : Outline) : Turn svc none o none o
  | throw (o : Outline) (e : Error) : o.phase = .running → Turn svc none o (some e) o
  | fault (o : Outline) (e : Error) : svc.faults.Raises e → Turn svc none o (some e) o
  | refuse (o : Outline) (e : Error) : o.phase = .running → e.kind = .resourceLimit →
    Turn svc none o (some e) { o with journal := .refused e :: o.journal }
  | fail (o : Outline) (err : LocatedError) (reported : List LocatedError) :
    reported = err :: o.reported ∨ err.error.isTerminal = false ∧ reported = o.reported →
    Turn svc (some err.error) o none
      { o with
        phase := if err.error.isTerminal then .aborted else o.phase
        reported
        journal := .recorded err :: o.journal }

section Outline

variable {svc : Services} {s t : State} {p q : Option Error}

theorem State.phase_eq_running (h : s.isRunning = true) : s.phase = .running := beq_iff_eq.mp h

theorem tick_turn (hs : s.isRunning = true) :
    Turn svc none s.outline none (svc.tick s).2.outline := by
  have hstep : ∀ ev ∈ [Event.stepped], ev.isWork = true := by simp [Event.isWork]
  have hyield : ∀ ev ∈ [Event.yielded, Event.stepped], ev.isWork = true := by simp [Event.isWork]
  have hphase : s.outline.phase = .running := State.phase_eq_running hs
  rw [tick_eq]
  unfold Services.look Services.yieldIfDue
  split <;> split
  · exact .cancel s.outline [.yielded, .stepped] hphase hyield
  · exact .work s.outline _ [.yielded, .stepped] hphase hyield
  · exact .cancel s.outline [.stepped] hphase hstep
  · exact .work s.outline _ [.stepped] hphase hstep

theorem work_turn (hs : s.isRunning = true) (new : List Event)
    (hnew : new.all Event.isWork = true) (hphase : t.phase = s.phase)
    (hcancelled : t.cancelled = s.cancelled) (herrors : t.errors = s.errors)
    (hjournal : t.journal = new ++ s.journal) : Turn svc none s.outline none t.outline := by
  have hturn : Turn svc none s.outline none _ :=
    .work s.outline t.outer.length new (State.phase_eq_running hs) (List.all_eq_true.mp hnew)
  have houtline : t.outline = { s.outline with
      activations := t.outer.length, journal := new ++ s.outline.journal } := by
    simp only [State.outline, hphase, hcancelled, herrors, hjournal]
  rw [houtline]
  exact hturn

theorem act_turn (hs : s.isRunning = true) (h : Act svc s t) :
    Turn svc none s.outline none t.outline := by
  cases h with
  | tick => exact tick_turn hs
  | leave forced => exact .leave s.outline forced (State.phase_eq_running hs)
  | charge r h hr => exact work_turn hs [.charged r] rfl rfl rfl rfl rfl
  | request h => exact work_turn hs [.requested, .charged .requests] rfl rfl rfl rfl rfl
  | body h ht =>
    rcases ht with rfl | ⟨raw, store, temporaries, rfl⟩
    · exact work_turn hs [.iterated, .charged .loops] rfl rfl rfl rfl rfl
    · exact work_turn hs [.iterated, .wrote raw false, .charged .loops] rfl rfl rfl rfl rfl
  | change h =>
    cases h with
    | write raw store temporaries => exact work_turn hs [.wrote raw false] rfl rfl rfl rfl rfl
    | define name body => exact work_turn hs [.defined _ body] rfl rfl rfl rfl rfl
    | adjust quiet? fallback? => exact .stay s.outline
    | draw => exact .stay s.outline

theorem fail_turn (e : Error) (s : State) (name : String) (span : Span) :
    Turn svc (some e) s.outline none (fail svc name span e s).2.outline := by
  rw [fail_eq]
  rcases State.record_cases _ ⟨span, name, e, s.stack⟩ with h | ⟨c, rest, -, hterminal, h⟩
  · rw [h]
    exact .fail s.outline ⟨span, name, e, s.stack⟩ _ (Or.inl rfl)
  · rw [h]
    exact .fail s.outline ⟨span, name, e, s.stack⟩ _ (Or.inr ⟨hterminal, rfl⟩)

theorem Move.turn (h : Move svc p s q t) : Turn svc p s.outline q t.outline := by
  cases h with
  | act hs h => exact act_turn hs h
  | call frame hs hmay => exact work_turn hs [.called frame, .charged .calls] rfl rfl rfl rfl rfl
  | start frame hs =>
    exact work_turn hs [.started frame.name frame.span s.calls.length] rfl rfl rfl rfl rfl
  | finish => exact .unwind p s.outline .finished rfl
  | enter name params hs => exact work_turn hs [.entered name] rfl rfl rfl rfl rfl
  | exit houter =>
    rw [State.exit_eq houter]
    exact .exit s.outline _ (congrArg List.length houter)
  | pushCatch => exact .stay s.outline
  | popCatch => exact .stay s.outline
  | throw e hs => exact .throw s.outline e (State.phase_eq_running hs)
  | refuse hs hrefuses =>
    exact .refuse s.outline _ (State.phase_eq_running hs) hrefuses.kind_eq
  | fault _ hraises => exact .fault s.outline _ hraises
  | restore _ _ raw store temporaries => exact .unwind p s.outline (.wrote raw true) rfl
  | fail e _ name span => exact fail_turn e s name span

end Outline

theorem Course.outline {svc : Services} {I : Option Error → Outline → Prop}
    (hturn : ∀ {p o q o'}, Turn svc p o q o' → I p o → I q o') {s t : State} {p : Option Error}
    (h : Course svc s p t) (hs : I none s.outline) : I p t.outline := by
  have hmove : ∀ {p s q t}, Move svc p s q t → I p s.outline → I q t.outline :=
    fun h ↦ hturn h.turn
  exact h.preserves (I := fun p s ↦ I p s.outline) hmove hs

end BraceScript
