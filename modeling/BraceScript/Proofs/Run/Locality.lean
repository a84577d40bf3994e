import BraceScript.Proofs.Run.Anatomy

namespace BraceScript

namespace State

/-- `t` comes after `s` in a run: the journal and the report have only grown, and every error that
has been added to the report has been noted. -/
def Precedes (s t : State) : Prop :=
  ∃ later reported, t.journal = later ++ s.journal ∧ t.errors = reported ++ s.errors ∧
    ∀ err ∈ reported, .recorded err ∈ later

namespace Precedes

variable {s t u : State}

theorem of_journal (later : List Event) (hjournal : t.journal = later ++ s.journal)
    (herrors : t.errors = s.errors) : s.Precedes t :=
  ⟨later, [], hjournal, herrors, nofun⟩

theorem refl (s : State) : s.Precedes s := of_journal [] rfl rfl

theorem trans (h : s.Precedes t) (h' : t.Precedes u) : s.Precedes u := by
  obtain ⟨later, reported, hjournal, herrors, hnoted⟩ := h
  obtain ⟨later', reported', hjournal', herrors', hnoted'⟩ := h'
  refine ⟨later' ++ later, reported' ++ reported, ?_, ?_, ?_⟩
  · rw [hjournal', hjournal, List.append_assoc]
  · rw [herrors', herrors, List.append_assoc]
  · intro err herr
    rcases List.mem_append.mp herr with herr | herr
    · exact List.mem_append_left later (hnoted' err herr)
    · exact List.mem_append_right later' (hnoted err herr)

theorem mem_journal (h : s.Precedes t) {ev : Event} (hev : ev ∈ s.journal) : ev ∈ t.journal := by
  obtain ⟨later, -, hjournal, -⟩ := h
  rw [hjournal]
  exact List.mem_append_right later hev

theorem pushCatch (s : State) : s.Precedes s.pushCatch := of_journal [] rfl rfl

theorem popCatch (s : State) : s.Precedes s.popCatch := of_journal [] rfl rfl

theorem record (s : State) (e : LocatedError) : s.Precedes (s.record e) := by
  rcases record_cases s e with h | ⟨c, rest, -, -, h⟩
  · rw [h]
    exact ⟨[.recorded e], [e], rfl, rfl, by simp⟩
  · rw [h]
    exact of_journal [.recorded e] rfl rfl

theorem fail (svc : Services) (name : String) (span : Span) (e : Error) (s : State) :
    s.Precedes (fail svc name span e s).2 := by
  rw [fail_eq]
  have hphase : s.Precedes { s with phase := if e.isTerminal then .aborted else s.phase } :=
    of_journal [] rfl rfl
  exact hphase.trans (record _ _)

theorem yieldIfDue (svc : Services) (s : State) : s.Precedes (svc.yieldIfDue s) := by
  unfold Services.yieldIfDue
  split
  · exact of_journal [.yielded] rfl rfl
  · exact refl s

theorem tick (svc : Services) (s : State) : s.Precedes (svc.tick s).2 := by
  have hstepped : s.Precedes s.stepped := of_journal [.stepped] rfl rfl
  refine hstepped.trans ((yieldIfDue svc s.stepped).trans ?_)
  rcases tick_cases svc s with h | h
  · rw [h]
    exact refl _
  · rw [h]
    exact of_journal [.cancelled] rfl rfl

end Precedes

/-- The part of a state that documents work with. -/
def bare (s : State) : State where
  phase := s.phase
  frame := s.frame
  outer := s.outer
  calls := s.calls
  usage := s.usage
  functions := s.functions
  draws := s.draws
  store := s.store

def absorb (s u : State) : State :=
  { s with
    phase := u.phase
    frame := u.frame
    outer := u.outer
    calls := u.calls
    usage := u.usage
    functions := u.functions
    draws := u.draws
    store := u.store
    journal := u.journal ++ s.journal }

theorem Precedes.absorb (s u : State) : s.Precedes (s.absorb u) :=
  of_journal u.journal rfl rfl

end State

/-- The computation depends on the bare part of the state only, and changes no other part but by
adding to the journal. -/
def IsLocal {α : Type} (f : State → α × State) : Prop :=
  ∀ s, f s = ((f s.bare).1, s.absorb (f s.bare).2)

def IsLocalChange (f : State → State) : Prop := ∀ s, f s = s.absorb (f s.bare)

theorem IsLocal.precedes {α : Type} {f : State → α × State} (hf : IsLocal f) (s : State) :
    s.Precedes (f s).2 := by
  rw [hf s]
  exact State.Precedes.absorb s _

theorem IsLocalChange.precedes {f : State → State} (hf : IsLocalChange f) (s : State) :
    s.Precedes (f s) := by
  rw [hf s]
  exact State.Precedes.absorb s _

section Changes

theorem isLocalChange_note (ev : Event) : IsLocalChange (·.note ev) := fun _ ↦ rfl

theorem isLocalChange_started (frame : CallFrame) :
    IsLocalChange fun s ↦ s.note (.started frame.name frame.span s.calls.length) := fun _ ↦ rfl

theorem isLocalChange_pushCall (frame : CallFrame) : IsLocalChange (·.pushCall frame) := fun _ ↦ rfl

theorem isLocalChange_popCall : IsLocalChange State.popCall := fun _ ↦ rfl

theorem isLocalChange_enter (name : String) (params : List String) :
    IsLocalChange (State.enter name params) := fun _ ↦ rfl

theorem isLocalChange_exit : IsLocalChange State.exit := by
  intro s
  have hbare : s.bare.outer = s.outer := rfl
  unfold State.exit State.popFrame
  rw [hbare]
  cases s.outer with
  | nil =>
    change State.note (if s.phase = .returning then _ else _) _ =
      s.absorb (State.note (if s.phase = .returning then _ else _) _)
    split <;> rfl
  | cons f outer =>
    change State.note (if s.phase = .returning then _ else _) _ =
      s.absorb (State.note (if s.phase = .returning then _ else _) _)
    split <;> rfl

theorem isLocalChange_define (name : String) (body : Statement) :
    IsLocalChange (Services.define name body) := fun _ ↦ rfl

theorem isLocalChange_phase (phase : Phase → Phase) :
    IsLocalChange fun s ↦ { s with phase := phase s.phase } := fun _ ↦ rfl

end Changes

section Services

variable (svc : Services)

theorem isLocal_refuse {α : Type} (e : Error) : IsLocal (Services.refuse (α := α) e) := fun _ ↦ rfl

theorem isLocal_charge (r : Resource) : IsLocal (svc.charge r) := by
  intro s
  have hbare : s.bare.usage = s.usage := rfl
  unfold Services.charge
  rw [hbare]
  cases svc.limits.charge s.usage r <;> rfl

theorem isLocal_request {α : Type} (ask : Directory → Except Error α) :
    IsLocal (svc.request ask) := by
  intro s
  unfold Services.request
  cases svc.directory? with
  | none => rfl
  | some directory =>
    dsimp only
    rw [isLocal_charge svc .requests s]
    rcases svc.charge .requests s.bare with ⟨_ | _, u⟩ <;> rfl

def IsLocalWrite (write : State → Except Error State) : Prop :=
  ∀ s, write s = (write s.bare).map s.absorb

theorem isLocalWrite_assign (raw : String) (value : Value) : IsLocalWrite (svc.assign raw value) := by
  intro s
  have hbare : s.bare.store = s.store := rfl
  unfold Services.assign
  rw [hbare]
  cases svc.locate raw with
  | error e => rfl
  | ok place =>
    obtain ⟨_ | scope, name⟩ := place
    · rfl
    · dsimp only
      cases s.store.write svc.faults ⟨scope, name⟩ value <;> rfl

theorem isLocalWrite_unset (raw : String) : IsLocalWrite (svc.unset raw) := by
  intro s
  have hbare : s.bare.store = s.store := rfl
  unfold Services.unset
  rw [hbare]
  cases svc.locate raw with
  | error e => rfl
  | ok place =>
    obtain ⟨_ | scope, name⟩ := place
    · rfl
    · dsimp only
      cases s.store.reset svc.faults scope [name] <;> rfl

theorem isLocal_noteWrite {write : State → Except Error State} (hwrite : IsLocalWrite write)
    (raw : String) (restoring : Bool) :
    IsLocal fun s ↦ Services.noteWrite raw restoring s (write s) := by
  intro s
  dsimp only
  rw [hwrite s]
  cases write s.bare <;> rfl

theorem isLocal_restoreVariable (raw : String) (previous : Option Value) :
    IsLocal (svc.restoreVariable raw previous) := by
  cases previous with
  | none => exact isLocal_noteWrite (isLocalWrite_unset svc raw) raw true
  | some value => exact isLocal_noteWrite (isLocalWrite_assign svc raw value) raw true

theorem isLocal_effect {q : Query} (hq : q.isPlain = true) : IsLocal (q.effect svc) := by
  cases q with
  | value | again | attempt | activate | raw | count | supplied | define => cases hq
  | iterate => exact isLocal_charge svc .loops
  | findEntity => exact isLocal_request svc _
  | listEntities => exact isLocal_request svc _
  | setVariable name value => exact isLocal_noteWrite (isLocalWrite_assign svc name value) name false
  | resetVariable name => exact isLocal_noteWrite (isLocalWrite_unset svc name) name false
  | restoreVariable name previous => exact isLocal_restoreVariable svc name previous
  | _ => exact fun _ ↦ rfl

end Services

end BraceScript
