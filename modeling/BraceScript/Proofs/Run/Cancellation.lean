import BraceScript.Proofs.Run.Yielding

namespace BraceScript

section Signal

variable {svc : Services} {s t : State} {p q : Option Error}

def State.Prompt (svc : Services) (s : State) : Prop :=
  ∀ n, 1 ≤ n → n < s.steps → ¬svc.SignalledAt n

theorem Move.prompt (h : Move svc p s q t) (hs : s.Prompt svc) (hattentive : s.Attentive svc)
    (hfaithful : s.outline.Faithful) : t.Prompt svc := by
  rcases h.tick_or_same with ⟨hrunning, rfl⟩ | ⟨hsteps, -⟩
  · intro n hn hlt hat
    have hstepped : (svc.tick s).2.steps = s.steps + 1 := by
      rcases tick_cases svc s with htick | htick
      · rw [htick]
        exact (steps_of_stepped svc s).1
      · rw [htick]
        exact (steps_of_stepped svc s).1
    have huncancelled : s.cancelled = false :=
      hfaithful.cancelled_eq_false (State.phase_eq_running hrunning)
    have hcancelled := hattentive.cancelled.mpr ⟨n, hn, by omega, hat⟩
    rw [huncancelled] at hcancelled
    cases hcancelled
  · intro n hn hlt
    rw [hsteps] at hlt
    exact hs n hn hlt

theorem Course.prompt (h : Course svc s p t) (hs : s.Prompt svc) (hattentive : s.Attentive svc)
    (hfaithful : s.outline.Faithful) : t.Prompt svc := by
  have hmove : ∀ {p s q t}, Move svc p s q t →
      s.Prompt svc ∧ s.Attentive svc ∧ s.outline.Faithful →
      t.Prompt svc ∧ t.Attentive svc ∧ t.outline.Faithful :=
    fun h ⟨hs, hattentive, hfaithful⟩ ↦ ⟨h.prompt hs hattentive hfaithful,
      h.attentive hattentive hfaithful, h.turn.faithful hfaithful⟩
  exact (h.preserves (I := fun _ s ↦ s.Prompt svc ∧ s.Attentive svc ∧ s.outline.Faithful) hmove
    ⟨hs, hattentive, hfaithful⟩).1

end Signal

structure Start where
  steps : Nat
  name : String
  span : Span

namespace Start

def ofEvent? (steps : Nat) : Event → Option Start
  | .started name span _ => some ⟨steps, name, span⟩
  | _ => none

/-- The starts that a journal tells of, latest first. -/
def ofJournal : List Event → List Start
  | [] => []
  | ev :: journal => (ofEvent? (Tally.ofJournal journal).steps ev).toList ++ ofJournal journal

theorem steps_of_mem_ofEvent? {n : Nat} {ev : Event} {start : Start}
    (h : start ∈ (ofEvent? n ev).toList) : start.steps = n := by
  cases ev with
  | started name span depth =>
    obtain rfl := List.mem_singleton.mp h
    rfl
  | _ => cases h

theorem steps_le_enter (n : Tally) (ev : Event) : n.steps ≤ (n.enter ev).steps := by
  cases ev <;> simp [Tally.enter]

theorem steps_le {journal : List Event} {start : Start} (h : start ∈ ofJournal journal) :
    start.steps ≤ (Tally.ofJournal journal).steps := by
  induction journal with
  | nil => cases h
  | cons ev journal ih =>
    have hle := steps_le_enter (Tally.ofJournal journal) ev
    rcases List.mem_append.mp h with hnow | hearlier
    · rw [steps_of_mem_ofEvent? hnow]
      exact hle
    · exact Nat.le_trans (ih hearlier) hle

theorem steps_le_append (later journal : List Event) :
    (Tally.ofJournal journal).steps ≤ (Tally.ofJournal (later ++ journal)).steps := by
  induction later with
  | nil => exact Nat.le_refl _
  | cons ev later ih => exact Nat.le_trans ih (steps_le_enter _ ev)

theorem filter_ofJournal (later : List Event) {journal : List Event} {n : Nat}
    (hn : n ≤ (Tally.ofJournal journal).steps) :
    (ofJournal (later ++ journal)).filter (fun start ↦ start.steps < n) =
      (ofJournal journal).filter (fun start ↦ start.steps < n) := by
  induction later with
  | nil => rfl
  | cons ev later ih =>
    rw [List.cons_append, ofJournal, List.filter_append, ih]
    have hnone : (ofEvent? (Tally.ofJournal (later ++ journal)).steps ev).toList.filter
        (fun start ↦ start.steps < n) = [] := by
      rw [List.filter_eq_nil_iff]
      intro start hstart
      have hsteps := steps_of_mem_ofEvent? hstart
      have hle := steps_le_append later journal
      simp only [decide_eq_true_eq]
      omega
    rw [hnone, List.nil_append]

theorem ofJournal_of_unwinds {later : List Event} (journal : List Event)
    (h : ∀ ev ∈ later, ev.unwinds = true) : ofJournal (later ++ journal) = ofJournal journal := by
  induction later with
  | nil => rfl
  | cons ev later ih =>
    obtain ⟨hev, hlater⟩ := List.forall_mem_cons.mp h
    have hnone : ofEvent? (Tally.ofJournal (later ++ journal)).steps ev = none := by
      cases ev with
      | started => cases hev
      | _ => rfl
    rw [List.cons_append, ofJournal, hnone, ih hlater]
    rfl

end Start

section Calm

variable {s t : State}

theorem tally_calm (journal : List Event) :
    Tally.ofJournal (journal.filter fun ev ↦ !ev.isYield) = Tally.ofJournal journal := by
  induction journal with
  | nil => rfl
  | cons ev journal ih =>
    cases ev with
    | yielded => exact ih
    | _ => exact congrArg (Tally.enter · _) ih

theorem starts_calm (journal : List Event) :
    Start.ofJournal (journal.filter fun ev ↦ !ev.isYield) = Start.ofJournal journal := by
  induction journal with
  | nil => rfl
  | cons ev journal ih =>
    cases ev with
    | yielded => exact ih
    | _ => rw [List.filter_cons_of_pos rfl, Start.ofJournal, Start.ofJournal, tally_calm, ih]

theorem State.Precedes.calm (h : s.Precedes t) : s.calm.Precedes t.calm := by
  obtain ⟨later, reported, hjournal, herrors, hnoted⟩ := h
  refine ⟨later.filter fun ev ↦ !ev.isYield, reported, ?_, herrors, fun err herr ↦ ?_⟩
  · rw [State.calm, hjournal, List.filter_append]
    rfl
  · exact List.mem_filter.mpr ⟨hnoted err herr, rfl⟩

end Calm

namespace Engine

variable {e : Engine}

theorem run_prompt (he : e.Standard) (statement : Statement) (r : Request) (store : Store) :
    (e.run statement r store).2.Prompt (e.env r).services :=
  (he.course r statement _).prompt (fun n _ hlt ↦ absurd hlt (Nat.not_lt_zero n))
    (initial_attentive r store) (initial_faithful r store)

theorem steps_of_cancelled (he : e.Standard) {statement : Statement} {r : Request} {store : Store}
    (hcancelled : (e.run statement r store).2.cancelled = true) {n : Nat} (hn : 1 ≤ n)
    (hat : (e.env r).services.SignalledAt n)
    (hfirst : ∀ m, 1 ≤ m → m < n → ¬(e.env r).services.SignalledAt m) :
    (e.run statement r store).2.steps = n := by
  obtain ⟨m, hm, hle, hat'⟩ := (run_attentive he statement r store).cancelled.mp hcancelled
  have hge : n ≤ m := Nat.le_of_not_lt fun hlt ↦ hfirst m hm hlt hat'
  have hlast : ¬n < (e.run statement r store).2.steps := fun hlt ↦
    run_prompt he statement r store n hn hlt hat
  omega

theorem cancelled_of_signalledAt (he : e.Standard) (statement : Statement) (r r' : Request)
    (store : Store) (hsvc : (e.env r).services.untimed = (e.env r').services.untimed)
    (huncancelled : (e.run statement r store).2.cancelled = false) {n : Nat} (hn : 1 ≤ n)
    (hle : n ≤ (e.run statement r store).2.steps) (hat : (e.env r').services.SignalledAt n) :
    (e.run statement r' store).2.cancelled = true := by
  rcases run_calmAlike_or_parted he rfl statement r r' store hsvc with ⟨-, halike⟩ | hparted
  · have hsteps : (e.run statement r store).2.steps = (e.run statement r' store).2.steps :=
      (congrArg State.steps halike :)
    rw [hsteps] at hle
    exact (run_attentive he statement r' store).cancelled.mpr ⟨n, hn, hle, hat⟩
  · obtain ⟨_, _, ⟨b, c, -, rfl, rfl, hfalse | hfalse⟩, hleft, hright⟩ := hparted
    · rw [cancelled_of_tick he hleft hfalse] at huncancelled
      cases huncancelled
    · exact cancelled_of_tick he hright hfalse

theorem exists_unwinding (he : e.Standard) (hstore : e.faults.IsReliable) (statement : Statement)
    (r : Request) (store : Store) {s : State}
    (h : s.cancel.Precedes (e.run statement r store).2.calm) :
    ∃ later, (e.run statement r store).2.calm.journal = later ++ .cancelled :: s.journal ∧
      (∀ ev ∈ later, ev.unwinds = true) ∧ (e.run statement r store).2.errors = s.errors := by
  obtain ⟨later, reported, hjournal, herrors, hnoted⟩ := h
  have hunwound : ∀ ev ∈ later, ev.unwinds = true := by
    intro ev hev
    have hensues := (run_final he hstore statement r store).unwound.filter fun ev ↦ !ev.isYield
    change List.Pairwise _ (e.run statement r store).2.calm.journal at hensues
    rw [hjournal] at hensues
    exact (List.pairwise_append.mp hensues).2.2 ev hev .cancelled List.mem_cons_self rfl
  refine ⟨later, hjournal, hunwound, ?_⟩
  cases reported with
  | nil => exact herrors
  | cons err reported =>
    -- An error in the report has been recorded, which does not happen while a run is left.
    have hrecorded := hunwound _ (hnoted err List.mem_cons_self)
    cases hrecorded

/-- Of two runs that differ in their signals only, the one that is cancelled has done what the other
one had before some step. -/
theorem exists_common (he : e.Standard) (hstore : e.faults.IsReliable) (statement : Statement)
    (r r' : Request) (store : Store)
    (hsvc : (e.env r).services.untimed = (e.env r').services.untimed)
    (huncancelled : (e.run statement r store).2.cancelled = false)
    (hcancelled : (e.run statement r' store).2.cancelled = true) :
    ∃ common later later' reported,
      (e.run statement r store).2.calm.journal = later ++ .stepped :: common ∧
      (e.run statement r' store).2.calm.journal = later' ++ .cancelled :: .stepped :: common ∧
      (∀ ev ∈ later', ev.unwinds = true) ∧
      (e.run statement r store).2.errors = reported ++ (e.run statement r' store).2.errors := by
  rcases run_calmAlike_or_parted he rfl statement r r' store hsvc with ⟨-, halike⟩ | hparted
  · have hsame : (e.run statement r store).2.cancelled = (e.run statement r' store).2.cancelled :=
      (congrArg State.cancelled halike :)
    rw [huncancelled, hcancelled] at hsame
    cases hsame
  obtain ⟨_, _, ⟨b, c, halike, rfl, rfl, hone⟩, hleft, hright⟩ := hparted
  have hgoing : ((e.env r).services.tick b).1 = true := by
    by_contra hfalse
    rw [Bool.not_eq_true] at hfalse
    rw [cancelled_of_tick he hleft hfalse] at huncancelled
    cases huncancelled
  have hstopped : ((e.env r').services.tick c).1 = false := by
    rw [hgoing] at hone
    exact hone.resolve_left Bool.noConfusion
  -- Before the step the two runs are alike.
  have hsteps : b.stepped.calm = c.stepped.calm := congrArg State.stepped halike
  have hbefore := hleft.calm
  have hafter := hright.calm
  rw [calm_of_tick hgoing] at hbefore
  rw [calm_of_cancelled_tick hstopped, ← hsteps] at hafter
  obtain ⟨later, reported, hjournal, herrors, -⟩ := hbefore
  obtain ⟨later', hjournal', hunwound, herrors'⟩ := exists_unwinding he hstore statement r' store hafter
  refine ⟨b.calm.journal, later, later', reported, hjournal, hjournal', hunwound, ?_⟩
  rw [herrors']
  exact herrors

/-- A run that is cancelled at step `n` has done what the run that is not had done before that step,
and reports no error that the other does not. -/
theorem execute_cancelled_at (he : e.Standard) (hstore : e.faults.IsReliable) (source : String)
    (r : Request) (store : Store) (signal? : Option Signal) (clock : Nat → Nat) {n : Nat}
    (hn : 1 ≤ n) (huncancelled : (e.execute source r store).1.termination ≠ .cancelled)
    (hsteps : n ≤ (e.execute source r store).1.steps)
    (hat : (e.env { r with signal?, clock }).services.SignalledAt n)
    (hfirst : ∀ m, 1 ≤ m → m < n → ¬(e.env { r with signal?, clock }).services.SignalledAt m) :
    let r' := { r with signal?, clock }
    let t := (e.run (parse source) r store).2
    let t' := (e.run (parse source) r' store).2
    let x := (e.execute source r store).1
    let x' := (e.execute source r' store).1
    x'.steps = n ∧ x'.termination = .cancelled ∧
    Start.ofJournal t'.journal = (Start.ofJournal t.journal).filter (·.steps < n) ∧
    x'.errors <+: x.errors := by
  intro r' t t' x x'
  have hgoing : t.cancelled = false := by
    by_contra hcancelled
    rw [Bool.not_eq_false] at hcancelled
    exact huncancelled (if_pos hcancelled)
  have hcancelled : t'.cancelled = true :=
    cancelled_of_signalledAt he (parse source) r r' store rfl hgoing hn hsteps hat
  have hlast : t'.steps = n := steps_of_cancelled he hcancelled hn hat hfirst
  obtain ⟨common, later, later', reported, hjournal, hjournal', hunwound, herrors⟩ :=
    exists_common he hstore (parse source) r r' store rfl hgoing hcancelled
  have hcommon : n = (Tally.ofJournal common).steps + 1 := by
    have htallied : t'.tally = Tally.ofJournal t'.journal := run_tallied he (parse source) r' store
    rw [← tally_calm t'.journal] at htallied
    change t'.tally = Tally.ofJournal t'.calm.journal at htallied
    rw [hjournal'] at htallied
    have hsteps := (congrArg Tally.steps htallied).trans (Tally.ofJournal_of_concludes fun ev hev ↦
      Event.concludes_of_unwinds (hunwound ev hev)).1
    exact hlast.symm.trans hsteps
  have hstarts : Start.ofJournal t'.journal = Start.ofJournal common := by
    rw [← starts_calm t'.journal]
    change Start.ofJournal t'.calm.journal = _
    rw [hjournal', Start.ofJournal_of_unwinds _ hunwound]
    rfl
  have hbefore : (Start.ofJournal t.journal).filter (·.steps < n) = Start.ofJournal common := by
    rw [← starts_calm t.journal]
    change (Start.ofJournal t.calm.journal).filter _ = _
    have hstepped : Start.ofJournal (.stepped :: common) = Start.ofJournal common := rfl
    rw [hjournal, Start.filter_ofJournal later (Nat.le_of_eq hcommon), hstepped]
    refine List.filter_eq_self.mpr fun start hstart ↦ decide_eq_true ?_
    have hle := Start.steps_le hstart
    omega
  refine ⟨hlast, if_pos hcancelled, hstarts.trans hbefore.symm, reported.reverse, ?_⟩
  change t'.errors.reverse ++ reported.reverse = t.errors.reverse
  rw [herrors, List.reverse_append]

/-- A loop whose body fails three times, cancelled at the third of its four steps. -/
theorem execute_cancelled_at_third_step :
    let source := "\x7bforeach;x;[1,2,3];\x7bthrow;no\x7d\x7d"
    let signal : Signal := { atYield := fun k ↦ k == 3 }
    ∃ e : Engine, e.Standard ∧ e.faults.IsReliable ∧
      let x := (e.execute source {} []).1
      let x' := (e.execute source { signal? := some signal } []).1
      x.steps = 4 ∧ x.errors.length = 3 ∧ x'.steps = 3 ∧ x'.termination = .cancelled ∧
      Start.ofJournal (e.run (parse source) { signal? := some signal } []).2.journal =
        (Start.ofJournal (e.run (parse source) {} []).2.journal).filter (·.steps < 3) ∧
      x'.errors <+: x.errors := by
  intro source signal
  obtain ⟨e, hbuild, he, hrun⟩ := exists_standard_of_any
    (b := { providers := [⟨"", .tag⟩], config := { yieldInterval := 1 } }) rfl rfl
    (p := fun e ↦ decide (e.config.yieldInterval = 1 ∧ (e.execute source {} []).1.steps = 4 ∧
      (e.execute source {} []).1.errors.length = 3 ∧
      (e.execute source {} []).1.termination = .completed))
    (by decide +kernel)
  obtain ⟨hinterval, hsteps, hlength, hcompleted⟩ := of_decide_eq_true hrun
  have hstore : e.faults.IsReliable := isReliable_of_build rfl rfl hbuild
  have hat (n : Nat) : (e.env { signal? := some signal }).services.SignalledAt n ↔ 3 ≤ n := by
    simp [Services.SignalledAt, Services.tripsAt, Services.deadline?, env, hinterval, signal]
  have h := execute_cancelled_at he hstore source {} [] (some signal) (fun _ ↦ 0)
    (by decide : 1 ≤ 3) (by rw [hcompleted]; decide) (by rw [hsteps]; decide)
    ((hat 3).mpr (Nat.le_refl 3)) (fun m _ hlt ↦ by rw [hat m]; omega)
  exact ⟨e, he, hstore, hsteps, hlength, h⟩

end Engine

end BraceScript
