import BraceScript.Proofs.Run.Ending
import BraceScript.Proofs.Run.Resemblance

namespace BraceScript

section Count

variable {svc : Services} {s t : State} {p q : Option Error}

def State.NotesYields (s : State) : Prop := s.journal.countP Event.isYield = s.yields

theorem Act.notesYields (h : Act svc s t) (hs : s.NotesYields) : t.NotesYields := by
  cases h with
  | tick =>
    have hyielded : List.countP Event.isYield (.yielded :: .stepped :: s.journal) = s.yields + 1 :=
      (List.countP_cons_of_pos rfl).trans (congrArg (· + 1) hs)
    rw [tick_eq]
    unfold Services.look Services.yieldIfDue
    split <;> split
    · exact hyielded
    · exact hyielded
    · exact hs
    · exact hs
  | leave forced => exact hs
  | charge r h hr => exact hs
  | request h => exact hs
  | body h ht =>
    rcases ht with rfl | ⟨raw, store, temporaries, rfl⟩
    · exact hs
    · exact hs
  | change h => cases h <;> exact hs

theorem Move.notesYields (h : Move svc p s q t) (hs : s.NotesYields) : t.NotesYields := by
  cases h with
  | act hrunning h => exact h.notesYields hs
  | exit houter =>
    rw [State.exit_eq houter]
    exact hs
  | fail e _ name span =>
    rw [fail_eq]
    rcases State.record_cases _ ⟨span, name, e, s.stack⟩ with h | ⟨c, rest, -, -, h⟩
    · rw [h]
      exact hs
    · rw [h]
      exact hs
  | _ => exact hs

end Count

namespace State

def calm (s : State) : State :=
  { s with tripped := false, yields := 0, journal := s.journal.filter fun ev ↦ !ev.isYield }

theorem calm_absorb (s u : State) : (s.absorb u).calm = s.calm.absorb u.calm := by
  have hjournal := List.filter_append (p := fun ev ↦ !ev.isYield) u.journal s.journal
  simp only [calm, absorb, hjournal]

theorem calm_record (s : State) (err : LocatedError) : (s.record err).calm = s.calm.record err := by
  have hcatches : s.calm.catches = s.catches := rfl
  unfold record
  simp only [note, hcatches]
  cases s.catches with
  | nil => rfl
  | cons caught rest =>
    dsimp only
    split <;> rfl

theorem calm_yieldIfDue (svc : Services) (s : State) : (svc.yieldIfDue s).calm = s.calm := by
  unfold Services.yieldIfDue
  split <;> rfl

end State

def CalmAlike (s t : State) : Prop := s.calm = t.calm

theorem isResemblance_calmAlike : IsResemblance CalmAlike where
  bare h := (congrArg State.bare h :)
  absorb {s t} h u := by
    rw [CalmAlike, State.calm_absorb, State.calm_absorb, h]

section Tick

variable {svc svc' : Services} {s t : State}

theorem calm_of_tick (h : (svc.tick s).1 = true) : (svc.tick s).2.calm = s.stepped.calm := by
  rcases tick_cases svc s with htick | htick
  · rw [htick]
    exact State.calm_yieldIfDue svc s.stepped
  · rw [htick] at h
    cases h

theorem calm_of_cancelled_tick (h : (svc.tick s).1 = false) :
    (svc.tick s).2.calm = s.stepped.calm.cancel := by
  rcases tick_cases svc s with htick | htick
  · rw [htick] at h
    cases h
  · rw [htick]
    exact congrArg State.cancel (State.calm_yieldIfDue svc s.stepped)

def CancelledApart (svc svc' : Services) (s t : State) : Prop :=
  ∃ b c : State, CalmAlike b c ∧ s = (svc.tick b).2 ∧ t = (svc'.tick c).2 ∧
    ((svc.tick b).1 = false ∨ (svc'.tick c).1 = false)

theorem meets_tick : Meets (CancelledApart svc svc') CalmAlike svc.tick svc'.tick := by
  intro s t hst
  by_cases hboth : (svc.tick s).1 = true ∧ (svc'.tick t).1 = true
  · refine Or.inl ⟨hboth.1.trans hboth.2.symm, ?_⟩
    rw [CalmAlike, calm_of_tick hboth.1, calm_of_tick hboth.2]
    exact congrArg State.stepped hst
  · have hone : (svc.tick s).1 = false ∨ (svc'.tick t).1 = false := by
      rw [not_and_or, Bool.not_eq_true, Bool.not_eq_true] at hboth
      exact hboth
    exact Or.inr (.of ⟨s, t, hst, rfl, rfl, hone⟩)

theorem pairing_of_untimed (hsvc : svc.untimed = svc'.untimed) :
    Pairing svc svc' (CancelledApart svc svc') fun _ : Unit ↦ CalmAlike := by
  refine .of_resemblance hsvc (fun _ ↦ isResemblance_calmAlike) (fun _ ↦ meets_tick) ?_ ?_
  · intro _ s t err hst
    rw [CalmAlike, State.calm_record, State.calm_record, hst]
  · intro i s t hst
    refine ⟨i, (congrArg State.pushCatch hst :), fun s' t' hst' ↦ ?_⟩
    have hcaught : s'.caught = t'.caught := (congrArg State.caught hst' :)
    exact ⟨by rw [hcaught], (congrArg State.popCatch hst' :)⟩

end Tick

namespace Engine

variable {e : Engine}

theorem run_notesYields (he : e.Standard) (statement : Statement) (r : Request) (store : Store) :
    (e.run statement r store).2.NotesYields :=
  (he.course r statement _).preserves (I := fun _ s ↦ s.NotesYields) Move.notesYields rfl

/-- Runs in the same surroundings but for the times are alike, unless a step has cancelled one. -/
theorem run_calmAlike_or_parted (he : e.Standard) {e' : Engine}
    (hregistry : e.registry = e'.registry) (statement : Statement) (r r' : Request) (store : Store)
    (hsvc : (e.env r).services.untimed = (e'.env r').services.untimed) :
    ((e.run statement r store).1 = (e'.run statement r' store).1 ∧
      CalmAlike (e.run statement r store).2 (e'.run statement r' store).2) ∨
    Parted (CancelledApart (e.env r).services (e'.env r').services)
      (e.run statement r store).2 (e'.run statement r' store).2 := by
  have hdepth : (e.env r).services.limits.maxDepth = (e'.env r').services.limits.maxDepth :=
    (congrArg (fun svc ↦ svc.limits.maxDepth) hsvc :)
  have hpaired := (pairing_of_untimed hsvc).evalAt he.scripted (Nat.le_of_eq hdepth)
    (fun hlt ↦ absurd hdepth (Nat.ne_of_lt hlt)) () statement
  have hrun : e'.run statement r' store =
      evalAt ⟨(e'.env r').services, e.registry⟩ (e'.env r').services.limits.maxDepth statement
        (initial r' store) := by
    rw [hregistry]
    rfl
  have hinitial : CalmAlike (initial r store) (initial r' store) := rfl
  rw [hrun]
  exact hpaired.meets _ _ hinitial

theorem cancelled_of_tick (he : e.Standard) {statement : Statement} {r : Request} {store : Store}
    {s : State} (hs : ((e.env r).services.tick s).2.Precedes (e.run statement r store).2)
    (htick : ((e.env r).services.tick s).1 = false) :
    (e.run statement r store).2.cancelled = true := by
  have hjournal := congrArg State.journal (calm_of_cancelled_tick htick)
  have hmem : .cancelled ∈ ((e.env r).services.tick s).2.calm.journal := by
    rw [hjournal]
    exact List.mem_cons_self
  exact (run_faithful he statement r store).cancelled.mpr
    (hs.mem_journal (List.mem_filter.mp hmem).1)

theorem not_cancelled (he : e.Standard) (statement : Statement) {r : Request} (store : Store)
    (hnever : ∀ n, 1 ≤ n → ¬(e.env r).services.SignalledAt n) :
    (e.run statement r store).2.cancelled ≠ true := by
  intro hcancelled
  obtain ⟨n, hn, -, hat⟩ := (run_attentive he statement r store).cancelled.mp hcancelled
  exact hnever n hn hat

def yieldingEvery (e : Engine) (k : Nat) : Engine :=
  { e with config := { e.config with yieldInterval := k } }

theorem Standard.yieldingEvery (he : e.Standard) (k : Nat) : (e.yieldingEvery k).Standard := by
  obtain ⟨b, hstandard, hdefinitions, hbuild⟩ := he
  obtain ⟨scopes, registry, hscopes, hregistry, rfl⟩ :=
    (build_eq_ok_iff hstandard hdefinitions).mp hbuild
  let b' : Blueprint := { b with config := { b.config with yieldInterval := k } }
  have hbuild' : build b' = .ok (b'.engine scopes registry) :=
    (build_eq_ok_iff (b := b') hstandard hdefinitions).mpr
      ⟨scopes, registry, hscopes, hregistry, rfl⟩
  exact ⟨b', hstandard, hdefinitions, hbuild'⟩

/-- The interval at which a run yields makes no difference to it as long as its signal is never
tripped, and it is the number of steps from one yield to the next. -/
theorem execute_yieldInterval (he : e.Standard) (source : String) (r : Request) (store : Store) :
    (∀ k, (∀ n, 1 ≤ n → ¬(e.env r).services.SignalledAt n) →
      (∀ n, 1 ≤ n → ¬((e.yieldingEvery k).env r).services.SignalledAt n) →
      (e.yieldingEvery k).execute source r store = e.execute source r store) ∧
    (e.run (parse source) r store).2.journal.countP Event.isYield =
      if 0 < e.config.yieldInterval then
        (e.execute source r store).1.steps / e.config.yieldInterval
      else 0 := by
  refine ⟨fun k hnever hnever' ↦ ?_, ?_⟩
  · have hregistry : e.registry = (e.yieldingEvery k).registry := rfl
    rcases run_calmAlike_or_parted he hregistry (parse source) r r store rfl with
      ⟨houtput, halike⟩ | hparted
    · have hexecution (output : String) : (e.run (parse source) r store).2.execution output =
          ((e.yieldingEvery k).run (parse source) r store).2.execution output :=
        (congrArg (State.execution · output) halike :)
      have hstore : (e.run (parse source) r store).2.store =
          ((e.yieldingEvery k).run (parse source) r store).2.store :=
        (congrArg State.store halike :)
      simp only [execute]
      rw [houtput, hexecution, hstore]
    · obtain ⟨_, _, ⟨b, c, -, rfl, rfl, hfalse | hfalse⟩, hleft, hright⟩ := hparted
      · exact absurd (cancelled_of_tick he hleft hfalse) (not_cancelled he (parse source) store hnever)
      · have he' := he.yieldingEvery k
        exact absurd (cancelled_of_tick he' hright hfalse)
          (not_cancelled he' (parse source) store hnever')
  · have hnoted := run_notesYields he (parse source) r store
    have hyields := (run_attentive he (parse source) r store).yields
    rw [hnoted, hyields]
    split
    · rfl
    · rename_i hzero
      have hinterval : (e.env r).services.yieldInterval = 0 := Nat.eq_zero_of_not_pos hzero
      rw [hinterval, Nat.div_zero]

/-- A loop of four steps, with yields after every second of them and without any. -/
theorem execute_yieldInterval_zero :
    let source := "\x7brepeat;\x7bget;x\x7d,;3\x7d"
    let r : Request := { signal? := some { deadline? := some 9 }, clock := fun _ ↦ 5 }
    ∃ e : Engine, e.Standard ∧ e.config.yieldInterval = 2 ∧
      (∀ n, 1 ≤ n → ¬(e.env r).services.SignalledAt n) ∧
      (∀ n, 1 ≤ n → ¬((e.yieldingEvery 0).env r).services.SignalledAt n) ∧
      (e.yieldingEvery 0).execute source r [] = e.execute source r [] ∧
      (e.run (parse source) r []).2.journal.countP Event.isYield = 2 := by
  intro source r
  obtain ⟨e, -, he, hrun⟩ := exists_standard_of_any
    (b := { providers := [⟨"", .tag⟩], config := { yieldInterval := 2 } }) rfl rfl
    (p := fun e ↦ decide (e.config.yieldInterval = 2 ∧ (e.execute source r []).1.steps = 4))
    (by decide +kernel)
  obtain ⟨hinterval, hsteps⟩ := of_decide_eq_true hrun
  have hnever (e : Engine) (n : Nat) (_ : 1 ≤ n) : ¬(e.env r).services.SignalledAt n := by
    simp [Services.SignalledAt, Services.tripsAt, Services.deadline?, env, r]
  obtain ⟨hsame, hyields⟩ := execute_yieldInterval he source r []
  rw [hinterval, hsteps] at hyields
  exact ⟨e, he, hinterval, hnever e, hnever _, hsame 0 (hnever e) (hnever _), hyields⟩

end Engine

end BraceScript
