import BraceScript.Proofs.Run.Evaluation
import BraceScript.Proofs.Run.Moves

namespace BraceScript

section Outline

variable {svc : Services} {o o' : Outline} {p q : Option Error}

theorem not_mem_of_work {new : List Event} (h : ∀ ev ∈ new, ev.isWork = true) (ev : Event)
    (hev : ev.isWork = false) : ev ∉ new := by
  intro hmem
  rw [h ev hmem] at hev
  cases hev

theorem ne_of_unwinds {ev' : Event} (h : ev'.unwinds = true) (ev : Event)
    (hev : ev.unwinds = false) : ev ≠ ev' := by
  rintro rfl
  rw [h] at hev
  cases hev

theorem any_aborts_of_work {new : List Event} (h : ∀ ev ∈ new, ev.isWork = true) :
    new.any Event.aborts = false := by
  rw [List.any_eq_false]
  intro ev hev
  rw [Event.aborts_of_isWork (h ev hev)]
  exact Bool.false_ne_true

def Outline.AbortedSince (base : List Event) (o : Outline) : Prop :=
  ∃ new, o.journal = new ++ base ∧ (o.phase = .aborted ↔ new.any Event.aborts = true)

theorem Turn.abortedSince {base : List Event} (h : Turn svc p o q o') (ho : o.AbortedSince base) :
    o'.AbortedSince base := by
  obtain ⟨since, hjournal, hphase⟩ := ho
  cases h with
  | work _ k new hrunning hnew =>
    refine ⟨new ++ since, by simp [hjournal], ?_⟩
    simpa [any_aborts_of_work hnew] using hphase
  | cancel _ new hrunning hnew =>
    exact ⟨.cancelled :: (new ++ since), by simp [hjournal], by simp [Event.aborts]⟩
  | leave _ forced hrunning =>
    refine ⟨.left forced o.activations :: since, by simp [hjournal], ?_⟩
    rw [hrunning] at hphase
    cases forced <;> simp_all [Event.aborts]
  | unwind _ _ ev hev =>
    refine ⟨ev :: since, by simp [hjournal], ?_⟩
    simpa [Event.aborts_of_unwinds hev] using hphase
  | exit _ k hk =>
    refine ⟨.exited :: since, by simp [hjournal], ?_⟩
    cases hp : o.phase <;> simp_all [Event.aborts]
  | stay => exact ⟨since, hjournal, hphase⟩
  | throw _ e hrunning => exact ⟨since, hjournal, hphase⟩
  | fault _ e hraises => exact ⟨since, hjournal, hphase⟩
  | refuse _ e hrunning hkind =>
    refine ⟨.refused e :: since, by simp [hjournal], ?_⟩
    simpa [Event.aborts] using hphase
  | fail _ err reported hreported =>
    refine ⟨.recorded err :: since, by simp [hjournal], ?_⟩
    cases hterminal : err.error.isTerminal <;> simp [Event.aborts, hterminal, hphase]

/-- The phase, the cancellation and the terminal errors in the report agree with the journal. -/
structure Outline.Faithful (o : Outline) : Prop where
  aborted : o.phase = .aborted ↔ o.journal.any Event.aborts = true
  cancelled : o.cancelled = true ↔ .cancelled ∈ o.journal
  reported : ∀ err, err.error.isTerminal = true → (err ∈ o.reported ↔ .recorded err ∈ o.journal)

namespace Outline.Faithful

theorem aborts_eq_false (ho : o.Faithful) (hrunning : o.phase = .running) :
    ∀ ev ∈ o.journal, ev.aborts = false := by
  intro ev hev
  by_contra haborts
  rw [Bool.not_eq_false] at haborts
  have haborted := ho.aborted.mpr (List.any_eq_true.mpr ⟨ev, hev, haborts⟩)
  rw [hrunning] at haborted
  cases haborted

theorem cancelled_eq_false (ho : o.Faithful) (hrunning : o.phase = .running) :
    o.cancelled = false := by
  by_contra hcancelled
  rw [Bool.not_eq_false] at hcancelled
  have haborts := ho.aborts_eq_false hrunning .cancelled (ho.cancelled.mp hcancelled)
  cases haborts

theorem aborts_eq_false_of_work (ho : o.Faithful) (hrunning : o.phase = .running)
    {new : List Event} (hnew : ∀ ev ∈ new, ev.isWork = true) :
    ∀ ev ∈ new ++ o.journal, ev.aborts = false := by
  intro ev hev
  rcases List.mem_append.mp hev with hev | hev
  · exact Event.aborts_of_isWork (hnew ev hev)
  · exact ho.aborts_eq_false hrunning ev hev

theorem isTerminal_eq_false (ho : o.Faithful) (hrunning : o.phase = .running) :
    ∀ err ∈ o.reported, err.error.isTerminal = false := by
  intro err herr
  by_contra hterminal
  rw [Bool.not_eq_false] at hterminal
  have hmem := (ho.reported err hterminal).mp herr
  have haborts := ho.aborts_eq_false hrunning (.recorded err) hmem
  rw [Event.aborts, hterminal] at haborts
  cases haborts

end Outline.Faithful

theorem Turn.faithful (h : Turn svc p o q o') (ho : o.Faithful) : o'.Faithful := by
  have haborted : o'.phase = .aborted ↔ o'.journal.any Event.aborts = true := by
    have hsince : o.AbortedSince [] := ⟨o.journal, (List.append_nil _).symm, ho.aborted⟩
    obtain ⟨new, hjournal, hphase⟩ := h.abortedSince hsince
    rw [hjournal, List.append_nil]
    exact hphase
  refine ⟨haborted, ?_, ?_⟩
  · have hcancelled := ho.cancelled
    cases h with
    | work _ k new hrunning hnew => simpa [not_mem_of_work hnew .cancelled rfl] using hcancelled
    | cancel _ new hrunning hnew => simp
    | leave _ forced hrunning => simpa using hcancelled
    | unwind _ _ ev hev => simpa [ne_of_unwinds hev .cancelled rfl] using hcancelled
    | exit _ k hk => simpa using hcancelled
    | stay => exact hcancelled
    | throw _ e hrunning => exact hcancelled
    | fault _ e hraises => exact hcancelled
    | refuse _ e hrunning hkind => simpa using hcancelled
    | fail _ err reported hreported => simpa using hcancelled
  · intro err hterminal
    have hreported := ho.reported err hterminal
    cases h with
    | work _ k new hrunning hnew => simpa [not_mem_of_work hnew (.recorded err) rfl] using hreported
    | cancel _ new hrunning hnew => simpa [not_mem_of_work hnew (.recorded err) rfl] using hreported
    | leave _ forced hrunning => simpa using hreported
    | unwind _ _ ev hev => simpa [ne_of_unwinds hev (.recorded err) rfl] using hreported
    | exit _ k hk => simpa using hreported
    | stay => exact hreported
    | throw _ e hrunning => exact hreported
    | fault _ e hraises => exact hreported
    | refuse _ e hrunning hkind => simpa using hreported
    | fail _ err' reported hreported' =>
      rcases hreported' with rfl | ⟨hnot, rfl⟩
      · simp [hreported]
      · have hne : err ≠ err' := by
          rintro rfl
          rw [hterminal] at hnot
          cases hnot
        simpa [hne] using hreported

def StoreFaults.IsReliable (f : StoreFaults) : Prop :=
  ∀ v, f.onGet v = none ∧ f.onSet v = none ∧ f.onReset v = none

theorem StoreFaults.IsReliable.not_raises {f : StoreFaults} (h : f.IsReliable) (e : Error) :
    ¬f.Raises e := by
  rintro ⟨v, hget | hset | hreset⟩
  · rw [(h v).1] at hget
    cases hget
  · rw [(h v).2.1] at hset
    cases hset
  · rw [(h v).2.2] at hreset
    cases hreset

structure Outline.Final (p : Option Error) (o : Outline) : Prop where
  faithful : o.Faithful
  pending : p.isSome = true → o.phase = .running
  unwound : Ensues Event.aborts Event.unwinds o.journal
  last : ∀ err ∈ o.reported.tail, err.error.isTerminal = false
  uncancelled : ∀ err ∈ o.reported, err.error.isTerminal = true → o.cancelled = false

theorem Turn.final (hstore : svc.faults.IsReliable) (h : Turn svc p o q o') (ho : o.Final p) :
    o'.Final q := by
  have hfaithful := h.faithful ho.faithful
  cases h with
  | work _ k new hrunning hnew =>
    have hnone := ho.faithful.aborts_eq_false_of_work hrunning hnew
    exact ⟨hfaithful, nofun, ensues_of_none hnone, ho.last, ho.uncancelled⟩
  | cancel _ new hrunning hnew =>
    have hnone := ho.faithful.aborts_eq_false_of_work hrunning hnew
    refine ⟨hfaithful, nofun, ensues_cons _ (ensues_of_none hnone) hnone, ho.last, ?_⟩
    intro err herr hterminal
    rw [ho.faithful.isTerminal_eq_false hrunning err herr] at hterminal
    cases hterminal
  | leave _ forced hrunning =>
    have hunwound := ensues_cons (.left forced o.activations) ho.unwound
      (ho.faithful.aborts_eq_false hrunning)
    exact ⟨hfaithful, nofun, hunwound, ho.last, ho.uncancelled⟩
  | unwind _ _ ev hev =>
    have hunwound : Ensues Event.aborts Event.unwinds (ev :: o.journal) :=
      ho.unwound.cons fun _ _ _ ↦ hev
    exact ⟨hfaithful, ho.pending, hunwound, ho.last, ho.uncancelled⟩
  | exit _ k hk =>
    have hunwound : Ensues Event.aborts Event.unwinds (.exited :: o.journal) :=
      ho.unwound.cons fun _ _ _ ↦ rfl
    exact ⟨hfaithful, nofun, hunwound, ho.last, ho.uncancelled⟩
  | stay => exact ho
  | throw _ e hrunning => exact ⟨hfaithful, fun _ ↦ hrunning, ho.unwound, ho.last, ho.uncancelled⟩
  | fault _ e hraises => exact absurd hraises (hstore.not_raises e)
  | refuse _ e hrunning hkind =>
    have hunwound := ensues_cons (.refused e) ho.unwound (ho.faithful.aborts_eq_false hrunning)
    exact ⟨hfaithful, fun _ ↦ hrunning, hunwound, ho.last, ho.uncancelled⟩
  | fail _ err reported hreported =>
    -- The call fails while the run is running, so nothing terminal has been recorded before.
    have hrunning := ho.pending rfl
    have hunwound := ensues_cons (.recorded err) ho.unwound
      (ho.faithful.aborts_eq_false hrunning)
    refine ⟨hfaithful, nofun, hunwound, ?_, fun _ _ _ ↦ ho.faithful.cancelled_eq_false hrunning⟩
    rcases hreported with rfl | ⟨-, rfl⟩
    · exact ho.faithful.isTerminal_eq_false hrunning
    · exact ho.last

end Outline

namespace Engine

variable {e : Engine}

theorem initial_faithful (r : Request) (store : Store) : (initial r store).outline.Faithful := by
  constructor <;> simp [initial, State.outline]

theorem run_faithful (he : e.Standard) (statement : Statement) (r : Request) (store : Store) :
    (e.run statement r store).2.outline.Faithful :=
  (he.course r statement _).outline (I := fun _ o ↦ o.Faithful) Turn.faithful
    (initial_faithful r store)

theorem run_tallied (he : e.Standard) (statement : Statement) (r : Request) (store : Store) :
    (e.run statement r store).2.Tallied :=
  (he.course r statement _).tallied rfl

theorem run_final (he : e.Standard) (hstore : e.faults.IsReliable) (statement : Statement)
    (r : Request) (store : Store) : (e.run statement r store).2.outline.Final none := by
  have hinitial : (initial r store).outline.Final none :=
    ⟨initial_faithful r store, nofun, List.Pairwise.nil, nofun, nofun⟩
  exact (he.course r statement _).outline (Turn.final hstore) hinitial

/-- Once a run is aborted it is only left: calls and functions end and loops put their variables
back. A terminal error is the last one of its report, and the run ends as aborted. -/
theorem abort_final (he : e.Standard) (hstore : e.faults.IsReliable) (source : String) (r : Request)
    (store : Store) :
    let t := (e.run (parse source) r store).2
    let x := (e.execute source r store).1
    t.tally = Tally.ofJournal t.journal ∧
    (∀ later journal, t.journal = later ++ journal → (Tally.ofJournal journal).phase = .aborted →
      (∀ ev ∈ later, ev.unwinds = true) ∧
      t.steps = (Tally.ofJournal journal).steps ∧ t.usage = (Tally.ofJournal journal).usage ∧
      t.functions = (Tally.ofJournal journal).functions) ∧
    ∀ before err after, x.errors = before ++ err :: after → err.error.isTerminal = true →
      after = [] ∧ x.termination = .aborted := by
  intro t x
  have htallied : t.Tallied := run_tallied he (parse source) r store
  have hfinal : t.outline.Final none := run_final he hstore (parse source) r store
  refine ⟨htallied, ?_, ?_⟩
  · intro later journal hjournal hphase
    obtain ⟨ev, hev, haborts⟩ := Tally.exists_aborts_of_phase hphase
    have hunwound : Ensues Event.aborts Event.unwinds (later ++ journal) :=
      hjournal ▸ hfinal.unwound
    have hlater : ∀ ev' ∈ later, ev'.unwinds = true := fun ev' hev' ↦
      (List.pairwise_append.mp hunwound).2.2 ev' hev' ev hev haborts
    have htally : t.tally = Tally.ofJournal (later ++ journal) := hjournal ▸ htallied
    obtain ⟨hsteps, husage, hfunctions⟩ := Tally.ofJournal_of_concludes fun ev' hev' ↦
      Event.concludes_of_unwinds (hlater ev' hev')
    exact ⟨hlater, (congrArg Tally.steps htally).trans hsteps,
      (congrArg Tally.usage htally).trans husage,
      (congrArg Tally.functions htally).trans hfunctions⟩
  · intro before err after herrors hterminal
    have hreversed : t.errors = after.reverse ++ err :: before.reverse := by
      have h := congrArg List.reverse herrors
      simpa [x, execute, State.execution] using h
    have hmem : err ∈ t.errors := by simp [hreversed]
    have hlast : after = [] := by
      cases hafter : after.reverse with
      | nil => exact List.reverse_eq_nil_iff.mp hafter
      | cons first rest =>
        have htail : err ∈ t.errors.tail := by simp [hreversed, hafter]
        have hnot := hfinal.last err htail
        rw [hterminal] at hnot
        cases hnot
    have hrecorded := (hfinal.faithful.reported err hterminal).mp hmem
    have hphase : t.phase = .aborted :=
      hfinal.faithful.aborted.mpr (List.any_eq_true.mpr ⟨.recorded err, hrecorded, hterminal⟩)
    have hcancelled : t.cancelled = false := hfinal.uncancelled err hmem hterminal
    have htermination : t.termination = .aborted := by simp [State.termination, hcancelled, hphase]
    exact ⟨hlast, htermination⟩

theorem isReliable_of_build {b : Blueprint} (hstandard : b.withStandard = true)
    (hfaults : b.faults = {}) (h : build b = .ok e) : e.faults.IsReliable := by
  obtain ⟨scopes, -, h⟩ := exists_of_bind_eq_ok h
  rw [hstandard, if_pos rfl] at h
  obtain ⟨standard, -, h⟩ := exists_of_bind_eq_ok h
  obtain ⟨registry, -, h⟩ := exists_of_bind_eq_ok h
  obtain ⟨registry', -, h⟩ := exists_of_bind_eq_ok h
  cases h
  change b.faults.IsReliable
  rw [hfaults]
  exact fun _ ↦ ⟨rfl, rfl, rfl⟩

/-- A forced return in a loop inside a loop, with more to do after it. -/
theorem abort_final_nested_loops :
    let source := "\x7bforeach;~x;[1,2];\x7brepeat;\x7btry;\x7breturn;true\x7d\x7d;3\x7d\x7d\x7bset;y;1\x7d"
    ∃ e : Engine, e.Standard ∧ e.faults.IsReliable ∧
      let t := (e.run (parse source) {} []).2
      ∀ later journal, t.journal = later ++ journal → (Tally.ofJournal journal).phase = .aborted →
        (∀ ev ∈ later, ev.unwinds = true) ∧ t.usage = (Tally.ofJournal journal).usage := by
  intro source
  obtain ⟨e, hbuild, he⟩ := exists_standard (b := {}) rfl rfl Scopes.exists_ofProviders_standard
  have hstore : e.faults.IsReliable := isReliable_of_build rfl rfl hbuild
  refine ⟨e, he, hstore, fun later journal hjournal hphase ↦ ?_⟩
  have h := (abort_final he hstore source {} []).2.1 later journal hjournal hphase
  exact ⟨h.1, h.2.2.1⟩

end Engine

end BraceScript
