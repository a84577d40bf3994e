import BraceScript.Proofs.Run.Finality

namespace BraceScript

section Signal

variable {svc : Services} {s t : State} {p q : Option Error}

/-- The signal counts as tripped at step `n`: it was before the run, the host has tripped it during
a yield, or the deadline has passed. -/
def Services.SignalledAt (svc : Services) (n : Nat) : Prop :=
  svc.signal?.any Signal.tripped = true ∨
  (∃ k, 1 ≤ k ∧ k ≤ n / svc.yieldInterval ∧ svc.tripsAt k = true) ∨
  svc.deadline?.any (· ≤ svc.clock n) = true

structure State.Attentive (svc : Services) (s : State) : Prop where
  yields : s.yields = s.steps / svc.yieldInterval
  tripped : s.tripped = true ↔ svc.signal?.any Signal.tripped = true ∨
    ∃ k, 1 ≤ k ∧ k ≤ s.yields ∧ svc.tripsAt k = true
  cancelled : s.cancelled = true ↔ ∃ n, 1 ≤ n ∧ n ≤ s.steps ∧ svc.SignalledAt n

theorem yieldIfDue_stepped (svc : Services) (s : State) :
    (svc.yieldInterval ∣ s.steps + 1 ∧ svc.yieldIfDue s.stepped = State.note { s.stepped with
      yields := s.yields + 1, tripped := s.tripped || svc.tripsAt (s.yields + 1) } .yielded) ∨
    (¬svc.yieldInterval ∣ s.steps + 1 ∧ svc.yieldIfDue s.stepped = s.stepped) := by
  unfold Services.yieldIfDue
  split
  · rename_i hdue
    rw [Bool.and_eq_true, beq_iff_eq] at hdue
    exact Or.inl ⟨Nat.dvd_of_mod_eq_zero hdue.2, rfl⟩
  · rename_i hdue
    refine Or.inr ⟨fun hdvd ↦ hdue ?_, rfl⟩
    rw [Bool.and_eq_true, decide_eq_true_iff, beq_iff_eq]
    exact ⟨Nat.pos_of_dvd_of_pos hdvd (Nat.succ_pos _), Nat.mod_eq_zero_of_dvd hdvd⟩

theorem yields_of_stepped (hs : s.Attentive svc) :
    (svc.yieldIfDue s.stepped).yields = (s.steps + 1) / svc.yieldInterval := by
  rw [Nat.succ_div, ← hs.yields]
  rcases yieldIfDue_stepped svc s with ⟨hdue, h⟩ | ⟨hdue, h⟩
  · rw [h, if_pos hdue]
    rfl
  · rw [h, if_neg hdue]
    rfl

theorem tripped_of_stepped (hs : s.Attentive svc) :
    (svc.yieldIfDue s.stepped).tripped = true ↔ svc.signal?.any Signal.tripped = true ∨
      ∃ k, 1 ≤ k ∧ k ≤ (svc.yieldIfDue s.stepped).yields ∧ svc.tripsAt k = true := by
  rcases yieldIfDue_stepped svc s with ⟨-, h⟩ | ⟨-, h⟩
  · rw [h]
    change (s.tripped || svc.tripsAt (s.yields + 1)) = true ↔
      _ ∨ ∃ k, 1 ≤ k ∧ k ≤ s.yields + 1 ∧ _
    rw [Bool.or_eq_true, hs.tripped]
    constructor
    · rintro ((hbefore | ⟨k, hk, hle, htrips⟩) | htrips)
      · exact Or.inl hbefore
      · exact Or.inr ⟨k, hk, by omega, htrips⟩
      · exact Or.inr ⟨s.yields + 1, by omega, Nat.le_refl _, htrips⟩
    · rintro (hbefore | ⟨k, hk, hle, htrips⟩)
      · exact Or.inl (Or.inl hbefore)
      · rcases Nat.lt_or_eq_of_le hle with hlt | rfl
        · exact Or.inl (Or.inr ⟨k, hk, by omega, htrips⟩)
        · exact Or.inr htrips
  · rw [h]
    exact hs.tripped

theorem steps_of_stepped (svc : Services) (s : State) :
    (svc.yieldIfDue s.stepped).steps = s.steps + 1 ∧
      (svc.yieldIfDue s.stepped).cancelled = s.cancelled := by
  rcases yieldIfDue_stepped svc s with ⟨-, h⟩ | ⟨-, h⟩
  · rw [h]
    exact ⟨rfl, rfl⟩
  · rw [h]
    exact ⟨rfl, rfl⟩

theorem isSignalled_of_stepped (hs : s.Attentive svc) :
    svc.isSignalled (svc.yieldIfDue s.stepped) = true ↔ svc.SignalledAt (s.steps + 1) := by
  unfold Services.isSignalled Services.SignalledAt
  rw [Bool.or_eq_true, tripped_of_stepped hs, yields_of_stepped hs, (steps_of_stepped svc s).1,
    or_assoc]

theorem State.Attentive.tick (hs : s.Attentive svc) (hcancelled : s.cancelled = false) :
    (svc.tick s).2.Attentive svc := by
  obtain ⟨hsteps, hsame⟩ := steps_of_stepped svc s
  have hyields := yields_of_stepped hs
  have htripped := tripped_of_stepped hs
  have hsignalled := isSignalled_of_stepped hs
  rw [← hsteps] at hyields hsignalled
  rw [tick_eq]
  unfold Services.look
  split
  · rename_i hsees
    have hat := hsignalled.mp hsees
    refine ⟨hyields, htripped, fun _ ↦ ⟨_, ?_, Nat.le_refl _, hat⟩, fun _ ↦ rfl⟩
    change 1 ≤ (svc.yieldIfDue s.stepped).steps
    omega
  · rename_i hsees
    refine ⟨hyields, htripped, ?_⟩
    dsimp only
    -- Neither this step nor an earlier one has seen the signal tripped.
    rw [hsame, hcancelled]
    refine ⟨nofun, ?_⟩
    rintro ⟨n, hn, hle, hat⟩
    rcases Nat.lt_or_eq_of_le hle with hlt | rfl
    · have h := hs.cancelled.mpr ⟨n, hn, by omega, hat⟩
      rw [hcancelled] at h
      cases h
    · exact absurd (hsignalled.mpr hat) hsees

theorem Move.tick_or_same (h : Move svc p s q t) :
    (s.isRunning = true ∧ t = (svc.tick s).2) ∨
    (t.steps = s.steps ∧ t.yields = s.yields ∧ t.tripped = s.tripped ∧
      t.cancelled = s.cancelled) := by
  cases h with
  | act hs h =>
    cases h with
    | tick => exact Or.inl ⟨hs, rfl⟩
    | leave forced => exact Or.inr ⟨rfl, rfl, rfl, rfl⟩
    | charge r h hr => exact Or.inr ⟨rfl, rfl, rfl, rfl⟩
    | request h => exact Or.inr ⟨rfl, rfl, rfl, rfl⟩
    | body h ht =>
      rcases ht with rfl | ⟨raw, store, temporaries, rfl⟩
      · exact Or.inr ⟨rfl, rfl, rfl, rfl⟩
      · exact Or.inr ⟨rfl, rfl, rfl, rfl⟩
    | change h =>
      have hvitals := h.vitals_eq
      exact Or.inr ⟨congrArg Vitals.steps hvitals, congrArg Vitals.yields hvitals,
        congrArg Vitals.tripped hvitals, congrArg Vitals.cancelled hvitals⟩
  | exit houter =>
    rw [State.exit_eq houter]
    exact Or.inr ⟨rfl, rfl, rfl, rfl⟩
  | fail e _ name span =>
    rw [fail_eq]
    rcases State.record_cases _ ⟨span, name, e, s.stack⟩ with h | ⟨c, rest, -, -, h⟩
    · rw [h]
      exact Or.inr ⟨rfl, rfl, rfl, rfl⟩
    · rw [h]
      exact Or.inr ⟨rfl, rfl, rfl, rfl⟩
  | _ => exact Or.inr ⟨rfl, rfl, rfl, rfl⟩

theorem Move.attentive (h : Move svc p s q t) (hs : s.Attentive svc)
    (hfaithful : s.outline.Faithful) : t.Attentive svc := by
  rcases h.tick_or_same with ⟨hrunning, rfl⟩ | ⟨hsteps, hyields, htripped, hcancelled⟩
  · exact hs.tick (hfaithful.cancelled_eq_false (State.phase_eq_running hrunning))
  · refine ⟨?_, ?_, ?_⟩
    · rw [hyields, hsteps]
      exact hs.yields
    · rw [htripped, hyields]
      exact hs.tripped
    · rw [hcancelled, hsteps]
      exact hs.cancelled

theorem Course.attentive (h : Course svc s p t) (hs : s.Attentive svc)
    (hfaithful : s.outline.Faithful) : t.Attentive svc := by
  have hmove : ∀ {p s q t}, Move svc p s q t → s.Attentive svc ∧ s.outline.Faithful →
      t.Attentive svc ∧ t.outline.Faithful :=
    fun h hs ↦ ⟨h.attentive hs.1 hs.2, h.turn.faithful hs.2⟩
  exact (h.preserves (I := fun _ s ↦ s.Attentive svc ∧ s.outline.Faithful) hmove
    ⟨hs, hfaithful⟩).1

end Signal

section Return

variable {svc : Services} {o o' : Outline} {p q : Option Error}

end Return

namespace Engine

variable {e : Engine}

theorem initial_attentive (r : Request) (store : Store) :
    (initial r store).Attentive (e.env r).services := by
  refine ⟨(Nat.zero_div _).symm, ⟨Or.inl, ?_⟩, nofun, ?_⟩
  · rintro (hbefore | ⟨k, hk, hle, -⟩)
    · exact hbefore
    · exact absurd (Nat.le_trans hk hle) (Nat.not_succ_le_zero 0)
  · rintro ⟨n, hn, hle, -⟩
    exact absurd (Nat.le_trans hn hle) (Nat.not_succ_le_zero 0)

theorem run_attentive (he : e.Standard) (statement : Statement) (r : Request) (store : Store) :
    (e.run statement r store).2.Attentive (e.env r).services :=
  (he.course r statement _).attentive (initial_attentive r store) (initial_faithful r store)

end Engine

end BraceScript
