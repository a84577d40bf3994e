import BraceScript.Proofs.Run.Pairing

namespace BraceScript

structure Meters where
  usage : Usage
  tripped : Bool
  steps : Nat
  yields : Nat

namespace State

def meters (s : State) : Meters := ⟨s.usage, s.tripped, s.steps, s.yields⟩

def metered (s : State) (m : Meters) : State :=
  { s with
    usage := m.usage
    tripped := m.tripped
    steps := m.steps
    yields := m.yields
    journal := [] }

def unmetered (s : State) : State := s.metered ⟨{}, false, 0, 0⟩

end State

/-- The computation neither looks at the meters and the journal nor moves the meters. -/
def IsUnmetered {α : Type} (f : State → α × State) : Prop :=
  ∀ s, (f s.unmetered).1 = (f s).1 ∧ (f s.unmetered).2.unmetered = (f s).2.unmetered ∧
    (f s).2.meters = s.meters

section Unmetered

variable {α β : Type} (svc : Services)

theorem IsUnmetered.congr {f g : State → α × State} (hf : IsUnmetered f) (h : ∀ s, g s = f s) :
    IsUnmetered g := by
  rw [funext h]
  exact hf

theorem IsUnmetered.bind {f : State → α × State} {g : α → State → β × State} (hf : IsUnmetered f)
    (hg : ∀ a, IsUnmetered (g a)) : IsUnmetered fun s ↦ g (f s).1 (f s).2 := by
  intro s
  obtain ⟨hresult, hstate, hmeters⟩ := hf s
  obtain ⟨hresult', hstate', hmeters'⟩ := hg (f s).1 (f s).2
  obtain ⟨hresult'', hstate'', -⟩ := hg (f s).1 (f s.unmetered).2
  dsimp only
  rw [hresult, ← hresult', ← hstate', ← hresult'', ← hstate'', hstate]
  exact ⟨rfl, rfl, hmeters'.trans hmeters⟩

theorem isUnmetered_exit : IsUnmetered fun s ↦ ((), s.exit) := by
  rintro ⟨_ | _ | _, frame, _ | ⟨f, outer⟩⟩ <;> exact ⟨rfl, rfl, rfl⟩

theorem isUnmetered_record (e : LocatedError) : IsUnmetered fun s ↦ ((), s.record e) := by
  rintro ⟨phase, frame, outer, calls, usage, errors, _ | ⟨caught, rest⟩⟩
  · exact ⟨rfl, rfl, rfl⟩
  · cases h : e.error.isTerminal <;>
      simp [State.record, State.note, State.unmetered, State.metered, State.meters, h]

theorem isUnmetered_fail (name : String) (span : Span) (e : Error) :
    IsUnmetered (fail svc name span e) := by
  have hread : IsUnmetered fun s ↦ ((placeholder svc e s, s.stack), s) := fun _ ↦ ⟨rfl, rfl, rfl⟩
  have hphase : IsUnmetered fun s ↦
      ((), { s with phase := if e.isTerminal then .aborted else s.phase }) :=
    fun _ ↦ ⟨rfl, rfl, rfl⟩
  have htext (text : String) : IsUnmetered fun s ↦ (text, s) := fun _ ↦ ⟨rfl, rfl, rfl⟩
  have hfail := hread.bind fun r ↦
    (hphase.bind fun _ ↦ isUnmetered_record ⟨span, name, e, r.2⟩).bind fun _ ↦ htext r.1
  exact hfail.congr fun s ↦ Prod.ext rfl (fail_eq svc name span e s)

theorem isUnmetered_assign (raw : String) (value : Value) (restoring : Bool) :
    IsUnmetered fun s ↦ Services.noteWrite raw restoring s (svc.assign raw value s) := by
  intro s
  have hstore : s.unmetered.store = s.store := rfl
  simp only [Services.assign, hstore]
  cases svc.locate raw with
  | error e => exact ⟨rfl, rfl, rfl⟩
  | ok place =>
    obtain ⟨_ | scope, name⟩ := place
    · exact ⟨rfl, rfl, rfl⟩
    · dsimp only
      cases s.store.write svc.faults ⟨scope, name⟩ value <;> exact ⟨rfl, rfl, rfl⟩

theorem isUnmetered_unset (raw : String) (restoring : Bool) :
    IsUnmetered fun s ↦ Services.noteWrite raw restoring s (svc.unset raw s) := by
  intro s
  have hstore : s.unmetered.store = s.store := rfl
  simp only [Services.unset, hstore]
  cases svc.locate raw with
  | error e => exact ⟨rfl, rfl, rfl⟩
  | ok place =>
    obtain ⟨_ | scope, name⟩ := place
    · exact ⟨rfl, rfl, rfl⟩
    · dsimp only
      cases s.store.reset svc.faults scope [name] <;> exact ⟨rfl, rfl, rfl⟩

end Unmetered

/-- Related states differ in their meters and journals at most, and stay related as long as the
meters stand still. -/
structure IsMetering (R : State → State → Prop) : Prop where
  same : ∀ {s t}, R s t → s.unmetered = t.unmetered
  later : ∀ {s t u v : State}, R s t → s.Precedes u → t.Precedes v → u.unmetered = v.unmetered →
    u.meters = s.meters → v.meters = t.meters → R u v

namespace IsMetering

variable {Q R : State → State → Prop} (hR : IsMetering R)

include hR

theorem change {f : State → State} (hlater : ∀ s : State, s.Precedes (f s))
    (hf : IsUnmetered fun s ↦ ((), f s)) {s t : State} (h : R s t) : R (f s) (f t) := by
  obtain ⟨-, hs, hmeters⟩ := hf s
  obtain ⟨-, ht, hmeters'⟩ := hf t
  refine hR.later h (hlater s) (hlater t) ?_ hmeters hmeters'
  rw [← hs, ← ht, hR.same h]

theorem paired {α : Type} {f : State → α × State} (hlater : ∀ s : State, s.Precedes (f s).2)
    (hf : IsUnmetered f) : Paired Q R f f where
  left := hlater
  right := hlater
  meets s t h := by
    refine Or.inl ⟨?_, hR.change hlater (fun s ↦ ⟨rfl, (hf s).2⟩) h⟩
    rw [← (hf s).1, ← (hf t).1, hR.same h]

theorem paired_request {svc : Services}
    (hcharge : Meets Q R (svc.charge .requests) (svc.charge .requests)) {α : Type}
    (ask : Directory → Except Error α) : Paired Q R (svc.request ask) (svc.request ask) := by
  cases hdirectory : svc.directory? with
  | none =>
    have hnone : svc.request ask =
        fun s ↦ (.error (.host "No entity lookup service is configured"), s) := by
      funext s
      rw [Services.request, hdirectory]
    rw [hnone]
    exact .pure _
  | some directory =>
    let next (answer : Except Error Unit) (s : State) : Except Error α × State :=
      (answer.bind fun _ ↦ ask directory, if answer.isOk then s.note .requested else s)
    have hnext (answer : Except Error Unit) : Paired Q R (next answer) (next answer) := by
      cases answer with
      | error e => exact .pure _
      | ok _ => exact hR.paired (isLocalChange_note .requested).precedes fun _ ↦ ⟨rfl, rfl, rfl⟩
    have hsome : svc.request ask =
        fun s ↦ next (svc.charge .requests s).1 (svc.charge .requests s).2 := by
      funext s
      rw [Services.request, hdirectory]
      rcases svc.charge .requests s with ⟨_ | _, u⟩ <;> rfl
    have hcharged := (isLocal_charge svc .requests).precedes
    rw [hsome]
    exact Paired.bind ⟨hcharged, hcharged, hcharge⟩ hnext

end IsMetering

theorem Pairing.of_metering {svc : Services} {Q R : State → State → Prop} (hR : IsMetering R)
    (htick : Meets Q R svc.tick svc.tick) (hcharge : ∀ r, Meets Q R (svc.charge r) (svc.charge r)) :
    Pairing svc svc Q fun _ : Unit ↦ R where
  plugins := rfl
  origin := rfl
  depth _ := (hR.paired (isLocal_refuse _).precedes fun _ ↦ ⟨rfl, rfl, rfl⟩).meets
  running _ _ _ h := (congrArg State.isRunning (hR.same h) :)
  function _ _ _ h name := (congrArg (Services.function? name) (hR.same h) :)
  tick _ := htick
  charge _ := hcharge .calls
  fail _ name span e := (hR.paired (.fail svc name span e) (isUnmetered_fail svc name span e)).meets
  started _ _ _ frame := hR.change (isLocalChange_started frame).precedes fun _ ↦ ⟨rfl, rfl, rfl⟩
  iterated _ _ _ := hR.change (isLocalChange_note .iterated).precedes fun _ ↦ ⟨rfl, rfl, rfl⟩
  call frame i _ _ h :=
    ⟨i, hR.change (isLocalChange_pushCall frame).precedes (fun _ ↦ ⟨rfl, rfl, rfl⟩) h,
      fun _ _ ↦ hR.change isLocalChange_popCall.precedes fun _ ↦ ⟨rfl, rfl, rfl⟩⟩
  activation name params i _ _ h :=
    ⟨i, hR.change (isLocalChange_enter name params).precedes (fun _ ↦ ⟨rfl, rfl, rfl⟩) h,
      fun _ _ ↦ hR.change isLocalChange_exit.precedes isUnmetered_exit⟩
  interception i _ _ h :=
    ⟨i, hR.change .pushCatch (fun _ ↦ ⟨rfl, rfl, rfl⟩) h, fun _ _ h ↦
      ⟨(congrArg (·.caught.isEmpty) (hR.same h) :),
        hR.change .popCatch (fun _ ↦ ⟨rfl, rfl, rfl⟩) h⟩⟩
  define _ _ _ name body :=
    hR.change (isLocalChange_define name body).precedes fun _ ↦ ⟨rfl, rfl, rfl⟩
  answer _ q hq := by
    have hunmetered (h : IsUnmetered (q.effect svc)) : Meets Q R (q.effect svc) (q.effect svc) :=
      (hR.paired (isLocal_effect svc hq).precedes h).meets
    cases q with
    | value | again | attempt | activate | raw | count | supplied | define => cases hq
    | iterate => exact hcharge .loops
    | findEntity => exact (hR.paired_request (hcharge .requests) _).meets
    | listEntities => exact (hR.paired_request (hcharge .requests) _).meets
    | setVariable name value => exact hunmetered (isUnmetered_assign svc name value false)
    | resetVariable name => exact hunmetered (isUnmetered_unset svc name false)
    | restoreVariable name previous =>
      cases previous with
      | none => exact hunmetered (isUnmetered_unset svc name true)
      | some value => exact hunmetered (isUnmetered_assign svc name value true)
    | _ => exact hunmetered fun _ ↦ ⟨rfl, rfl, rfl⟩

end BraceScript
