import BraceScript.Proofs.Run.Finality

namespace BraceScript

def Event.isFree : Event → Bool
  | charged _ | called _ | iterated | requested | refused _ => false
  | _ => true

theorem Event.kinds_of_isFree {ev : Event} (h : ev.isFree = true) :
    ev.isIteration = false ∧ ev.isRequest = false ∧ ev.isRefusal = false := by
  cases ev <;> simp_all [isFree, isIteration, isRequest, isRefusal]

theorem Tally.enter_of_isFree (n : Tally) {ev : Event} (h : ev.isFree = true) :
    (n.enter ev).usage = n.usage ∧ (n.enter ev).calls.length ≤ n.calls.length := by
  cases ev <;> simp_all [Event.isFree, enter]

/-- What holds at the moment at which this is the journal of a run. -/
structure Within (l : Limits) (journal : List Event) : Prop where
  used : ∀ r, (Tally.ofJournal journal).usage.used r ≤ l.ceiling r
  depth : (Tally.ofJournal journal).calls.length ≤ l.maxDepth
  bodies : journal.countP Event.isIteration ≤ (Tally.ofJournal journal).usage.loops
  requests : journal.countP Event.isRequest = (Tally.ofJournal journal).usage.requests ∨
    ∃ earlier, journal = .charged .requests :: earlier ∧
      earlier.countP Event.isRequest = (Tally.ofJournal earlier).usage.requests
  refusal : ∀ e earlier, journal = .refused e :: earlier → Refuses l (Tally.ofJournal earlier) e

structure Bounded (l : Limits) (journal : List Event) : Prop where
  moments : ∀ earlier, earlier <:+ journal → Within l earlier
  settled : journal.countP Event.isRequest = (Tally.ofJournal journal).usage.requests

theorem Usage.used_count (u : Usage) (r r' : Resource) :
    (u.count r).used r' = if r' = r then u.used r' + 1 else u.used r' := by
  cases r <;> cases r' <;> rfl

section Journal

variable {l : Limits} {journal : List Event}

theorem moments_cons {ev : Event} (h : ∀ earlier, earlier <:+ journal → Within l earlier)
    (hev : Within l (ev :: journal)) : ∀ earlier, earlier <:+ ev :: journal → Within l earlier := by
  intro earlier hearlier
  rcases List.suffix_cons_iff.mp hearlier with rfl | hearlier
  · exact hev
  · exact h earlier hearlier

namespace Bounded

theorem now (h : Bounded l journal) : Within l journal := h.moments journal List.suffix_rfl

theorem nil : Bounded l [] := by
  refine ⟨fun earlier hearlier ↦ ?_, rfl⟩
  rw [List.suffix_nil.mp hearlier]
  have hused : ∀ r, (Tally.ofJournal []).usage.used r ≤ l.ceiling r := by
    intro r
    cases r <;> exact Nat.zero_le _
  exact ⟨hused, Nat.zero_le _, Nat.le_refl 0, Or.inl rfl, nofun⟩

theorem free (h : Bounded l journal) {ev : Event} (hev : ev.isFree = true) :
    Bounded l (ev :: journal) := by
  obtain ⟨husage, hcalls⟩ := Tally.enter_of_isFree (Tally.ofJournal journal) hev
  obtain ⟨hiteration, hrequest, hrefusal⟩ := Event.kinds_of_isFree hev
  obtain ⟨hused, hdepth, hbodies, -, -⟩ := h.now
  have hsettled : (ev :: journal).countP Event.isRequest =
      (Tally.ofJournal (ev :: journal)).usage.requests := by
    rw [List.countP_cons_of_neg (by simp [hrequest]), Tally.ofJournal, husage]
    exact h.settled
  refine ⟨moments_cons h.moments ⟨?_, ?_, ?_, Or.inl hsettled, ?_⟩, hsettled⟩
  · rw [Tally.ofJournal, husage]
    exact hused
  · exact Nat.le_trans hcalls hdepth
  · rw [List.countP_cons_of_neg (by simp [hiteration]), Tally.ofJournal, husage]
    exact hbodies
  · intro e earlier heq
    cases heq
    cases hrefusal

theorem within_charged (h : Bounded l journal) {r : Resource}
    (hr : (Tally.ofJournal journal).usage.used r < l.ceiling r) :
    Within l (.charged r :: journal) := by
  obtain ⟨hused, hdepth, hbodies, -, -⟩ := h.now
  refine ⟨fun r' ↦ ?_, hdepth, ?_, ?_, nofun⟩
  · change ((Tally.ofJournal journal).usage.count r).used r' ≤ l.ceiling r'
    rw [Usage.used_count]
    split
    · rename_i hsame
      rw [hsame]
      exact hr
    · exact hused r'
  · cases r with
    | loops => exact Nat.le_succ_of_le hbodies
    | calls => exact hbodies
    | requests => exact hbodies
  · cases r with
    | loops => exact Or.inl h.settled
    | calls => exact Or.inl h.settled
    | requests => exact Or.inr ⟨journal, rfl, h.settled⟩

theorem charged (h : Bounded l journal) {r : Resource} (hr : r ≠ .requests)
    (hbelow : (Tally.ofJournal journal).usage.used r < l.ceiling r) :
    Bounded l (.charged r :: journal) := by
  refine ⟨moments_cons h.moments (h.within_charged hbelow), ?_⟩
  cases r with
  | loops => exact h.settled
  | calls => exact h.settled
  | requests => exact absurd rfl hr

theorem requested (h : Bounded l journal)
    (hbelow : (Tally.ofJournal journal).usage.used .requests < l.ceiling .requests) :
    Bounded l (.requested :: .charged .requests :: journal) := by
  have hcharged := h.within_charged hbelow
  have hsettled : (Event.requested :: .charged .requests :: journal).countP Event.isRequest =
      (Tally.ofJournal (.requested :: .charged .requests :: journal)).usage.requests := by
    rw [List.countP_cons_of_pos rfl]
    exact congrArg (· + 1) h.settled
  have hwithin : Within l (.requested :: .charged .requests :: journal) :=
    ⟨hcharged.used, hcharged.depth, hcharged.bodies, Or.inl hsettled, nofun⟩
  exact ⟨moments_cons (moments_cons h.moments hcharged) hwithin, hsettled⟩

theorem iterated (h : Bounded l journal)
    (hbelow : journal.countP Event.isIteration < (Tally.ofJournal journal).usage.loops) :
    Bounded l (.iterated :: journal) := by
  obtain ⟨hused, hdepth, -, -, -⟩ := h.now
  have hbodies : (Event.iterated :: journal).countP Event.isIteration ≤
      (Tally.ofJournal journal).usage.loops := by
    rw [List.countP_cons_of_pos rfl]
    exact hbelow
  have hwithin : Within l (.iterated :: journal) :=
    ⟨hused, hdepth, hbodies, Or.inl h.settled, nofun⟩
  exact ⟨moments_cons h.moments hwithin, h.settled⟩

theorem called (h : Bounded l journal) (frame : CallFrame)
    (hbelow : (Tally.ofJournal journal).calls.length < l.maxDepth) :
    Bounded l (.called frame :: journal) := by
  obtain ⟨hused, -, hbodies, -, -⟩ := h.now
  have hwithin : Within l (.called frame :: journal) :=
    ⟨hused, hbelow, hbodies, Or.inl h.settled, nofun⟩
  exact ⟨moments_cons h.moments hwithin, h.settled⟩

theorem refused (h : Bounded l journal) {e : Error} (he : Refuses l (Tally.ofJournal journal) e) :
    Bounded l (.refused e :: journal) := by
  obtain ⟨hused, hdepth, hbodies, -, -⟩ := h.now
  have hrefusal : ∀ e' earlier, Event.refused e :: journal = .refused e' :: earlier →
      Refuses l (Tally.ofJournal earlier) e' := by
    intro e' earlier heq
    cases heq
    exact he
  have hwithin : Within l (.refused e :: journal) :=
    ⟨hused, hdepth, hbodies, Or.inl h.settled, hrefusal⟩
  exact ⟨moments_cons h.moments hwithin, h.settled⟩

/-- A loop body starts once its unit has been counted, and perhaps the loop variable written. -/
theorem body (h : Bounded l journal)
    (hbelow : (Tally.ofJournal journal).usage.used .loops < l.ceiling .loops) :
    Bounded l (.iterated :: .charged .loops :: journal) ∧
    ∀ raw, Bounded l (.iterated :: .wrote raw false :: .charged .loops :: journal) := by
  have hcharged := h.charged (by decide) hbelow
  have hcount := Nat.lt_succ_of_le h.now.bodies
  exact ⟨hcharged.iterated hcount, fun raw ↦ (hcharged.free rfl).iterated hcount⟩

end Bounded

end Journal

section State

variable {svc : Services} {s t : State} {p q : Option Error}

theorem Act.bounded (h : Act svc s t) (htallied : s.Tallied)
    (hs : Bounded svc.limits s.journal) : Bounded svc.limits t.journal := by
  have husage : s.usage = (Tally.ofJournal s.journal).usage := congrArg Tally.usage htallied
  cases h with
  | tick =>
    have hstep : Bounded svc.limits (.stepped :: s.journal) := hs.free rfl
    have hyield : Bounded svc.limits (.yielded :: .stepped :: s.journal) := hstep.free rfl
    rw [tick_eq]
    unfold Services.look Services.yieldIfDue
    split <;> split
    · exact hyield.free rfl
    · exact hyield
    · exact hstep.free rfl
    · exact hstep
  | leave forced => exact hs.free rfl
  | charge r h hr => exact hs.charged hr (husage ▸ h)
  | request h => exact hs.requested (husage ▸ h)
  | body h ht =>
    obtain ⟨hplain, hwritten⟩ := hs.body (husage ▸ h)
    rcases ht with rfl | ⟨raw, store, temporaries, rfl⟩
    · exact hplain
    · exact hwritten raw
  | change h =>
    cases h with
    | write raw store temporaries => exact hs.free rfl
    | define name body => exact hs.free rfl
    | adjust quiet? fallback? => exact hs
    | draw => exact hs

theorem Move.bounded (h : Move svc p s q t) (htallied : s.Tallied)
    (hs : Bounded svc.limits s.journal) : Bounded svc.limits t.journal := by
  cases h with
  | act hrunning h => exact h.bounded htallied hs
  | call frame hrunning hmay =>
    have husage : s.usage = (Tally.ofJournal s.journal).usage := congrArg Tally.usage htallied
    have hcalls : s.calls = (Tally.ofJournal s.journal).calls := congrArg Tally.calls htallied
    have hcharged := hs.charged (by decide) (husage ▸ hmay.1)
    exact hcharged.called frame (hcalls ▸ hmay.2)
  | start frame hrunning => exact hs.free rfl
  | finish => exact hs.free rfl
  | enter name params hrunning => exact hs.free rfl
  | exit houter =>
    rw [State.exit_eq houter]
    exact hs.free rfl
  | pushCatch => exact hs
  | popCatch => exact hs
  | throw e hrunning => exact hs
  | refuse hrunning hrefuses => exact hs.refused (htallied ▸ hrefuses)
  | fault _ hraises => exact hs
  | restore _ _ raw store temporaries => exact hs.free rfl
  | fail e _ name span =>
    rw [journal_fail]
    exact hs.free rfl

theorem Turn.reported_eq {o o' : Outline} (h : Turn svc none o q o') : o'.reported = o.reported := by
  cases h <;> rfl

theorem Move.errors_cases (h : Move svc p s q t) :
    t.errors = s.errors ∨ ∃ err, t.errors = err :: s.errors ∧ err.stack = s.stack := by
  cases h with
  | act hrunning h => exact Or.inl (act_turn hrunning h).reported_eq
  | exit houter =>
    rw [State.exit_eq houter]
    exact Or.inl rfl
  | fail e _ name span =>
    rw [fail_eq]
    rcases State.record_cases _ ⟨span, name, e, s.stack⟩ with h | ⟨c, rest, -, -, h⟩
    · rw [h]
      exact Or.inr ⟨_, rfl, rfl⟩
    · rw [h]
      exact Or.inl rfl
  | _ => exact Or.inl rfl

/-- The run keeps to its limits, and the stacks of the errors it has reported do as well. -/
structure State.KeepsTo (l : Limits) (s : State) : Prop where
  tallied : s.Tallied
  bounded : Bounded l s.journal
  reports : ∀ err ∈ s.errors, err.stack.length ≤ l.maxDepth

theorem Move.keepsTo (h : Move svc p s q t) (hs : s.KeepsTo svc.limits) :
    t.KeepsTo svc.limits := by
  refine ⟨h.tallied hs.tallied, h.bounded hs.tallied hs.bounded, ?_⟩
  rcases h.errors_cases with herrors | ⟨err, herrors, hstack⟩
  · rw [herrors]
    exact hs.reports
  · rw [herrors, List.forall_mem_cons]
    refine ⟨?_, hs.reports⟩
    have hcalls : s.calls = (Tally.ofJournal s.journal).calls := congrArg Tally.calls hs.tallied
    rw [hstack, State.stack, List.length_reverse, List.length_map, hcalls]
    exact hs.bounded.now.depth

theorem Act.starts (h : Act svc s t) :
    t.journal.countP Event.isStart = s.journal.countP Event.isStart ∧
      s.usage.calls ≤ t.usage.calls := by
  cases h with
  | tick =>
    rw [tick_eq]
    unfold Services.look Services.yieldIfDue
    split <;> split <;> exact ⟨rfl, Nat.le_refl _⟩
  | leave forced => exact ⟨rfl, Nat.le_refl _⟩
  | charge r h hr =>
    refine ⟨rfl, ?_⟩
    cases r with
    | calls => exact Nat.le_succ _
    | loops => exact Nat.le_refl _
    | requests => exact Nat.le_refl _
  | request h => exact ⟨rfl, Nat.le_refl _⟩
  | body h ht =>
    rcases ht with rfl | ⟨raw, store, temporaries, rfl⟩
    · exact ⟨rfl, Nat.le_refl _⟩
    · exact ⟨rfl, Nat.le_refl _⟩
  | change h => cases h <;> exact ⟨rfl, Nat.le_refl _⟩

theorem Course.starts (h : Course svc s p t) :
    t.journal.countP Event.isStart + s.usage.calls ≤
      t.usage.calls + s.journal.countP Event.isStart := by
  induction h with
  | refl s => omega
  | trans _ _ ih ih' => omega
  | act hrunning h =>
    have hact := h.starts
    omega
  | @call s t u p frame _ _ _ _ _ ih ih' =>
    -- The unit of the call is there for the one handler that starts in it.
    have hcounted : (s.called frame).usage.calls = s.usage.calls + 1 := rfl
    have hcalled : (s.called frame).journal.countP Event.isStart =
      s.journal.countP Event.isStart := rfl
    have hstarted : (t.started frame).journal.countP Event.isStart =
      t.journal.countP Event.isStart + 1 := List.countP_cons_of_pos rfl
    have husage : (t.started frame).usage = t.usage := rfl
    have hpopped : u.popCall.journal.countP Event.isStart = u.journal.countP Event.isStart := rfl
    have husage' : u.popCall.usage = u.usage := rfl
    rw [hpopped, husage']
    rw [hcounted, hcalled] at ih
    rw [hstarted, husage] at ih'
    omega
  | @unstarted s t frame _ _ _ ih =>
    have hcounted : (s.called frame).usage.calls = s.usage.calls + 1 := rfl
    have hcalled : (s.called frame).journal.countP Event.isStart =
      s.journal.countP Event.isStart := rfl
    rw [hcounted, hcalled] at ih
    exact Nat.le_trans (Nat.add_le_add_left (Nat.le_succ _) _) ih
  | activation name params _ hbody ih =>
    rw [State.exit_eq hbody.keeps.outer]
    exact ih
  | interception _ ih => exact ih
  | throw e _ => omega
  | refuse _ _ => exact Nat.le_of_eq (Nat.add_comm _ _)
  | fault s _ => omega
  | restore raw store temporaries _ ih => exact ih
  | @fail s t e name span _ ih =>
    have husage : (BraceScript.fail svc name span e t).2.usage = t.usage :=
      congrArg Tally.usage (tally_fail svc name span e t)
    rw [journal_fail, husage]
    exact ih

end State

section Refusals

variable {svc : Services} {o o' : Outline} {p q : Option Error}

/-- A refusal is about to fail its call, or has been reported and has ended the run. -/
structure Outline.Refusals (p : Option Error) (o : Outline) : Prop where
  faithful : o.Faithful
  told : ∀ e, .refused e ∈ o.journal → e.isTerminal = true ∧
    (p = some e ∧ o.phase = .running ∨
      o.phase = .aborted ∧ o.cancelled = false ∧ ∃ err ∈ o.reported, err.error = e)
  left : Ensues Event.isRefusal Event.concludes o.journal

theorem Outline.Refusals.none_of_running (ho : o.Refusals none) (hrunning : o.phase = .running) :
    ∀ ev ∈ o.journal, ev.isRefusal = false := by
  intro ev hev
  cases ev with
  | refused e =>
    rcases (ho.told e hev).2 with ⟨hpending, -⟩ | ⟨haborted, -⟩
    · cases hpending
    · rw [hrunning] at haborted
      cases haborted
  | _ => rfl

theorem Outline.Refusals.of_none (hfaithful : o.Faithful)
    (hnone : ∀ ev ∈ o.journal, ev.isRefusal = false) : o.Refusals p := by
  refine ⟨hfaithful, fun e he ↦ ?_, ensues_of_none hnone⟩
  have h := hnone (.refused e) he
  cases h

theorem Outline.Refusals.none_of_work (ho : o.Refusals none) (hrunning : o.phase = .running)
    {new : List Event} (hnew : ∀ ev ∈ new, ev.isWork = true) :
    ∀ ev ∈ new ++ o.journal, ev.isRefusal = false := by
  intro ev hev
  rcases List.mem_append.mp hev with hev | hev
  · exact Event.isRefusal_of_isWork (hnew ev hev)
  · exact ho.none_of_running hrunning ev hev

theorem Turn.refusals (h : Turn svc p o q o') (ho : o.Refusals p) : o'.Refusals q := by
  have hfaithful := h.faithful ho.faithful
  cases h with
  | work _ k new hrunning hnew => exact .of_none hfaithful (ho.none_of_work hrunning hnew)
  | cancel _ new hrunning hnew =>
    have hnone := ho.none_of_work hrunning hnew
    exact .of_none hfaithful (List.forall_mem_cons.mpr ⟨rfl, hnone⟩)
  | leave _ forced hrunning =>
    have hnone := ho.none_of_running hrunning
    exact .of_none hfaithful (List.forall_mem_cons.mpr ⟨rfl, hnone⟩)
  | unwind _ _ ev hev =>
    refine ⟨hfaithful, fun e he ↦ ?_, ho.left.cons fun _ _ _ ↦ ?_⟩
    · have hearlier : .refused e ∈ o.journal := by
        simpa [ne_of_unwinds hev (.refused e) rfl] using he
      exact ho.told e hearlier
    · exact Event.concludes_of_unwinds hev
  | exit _ k hk =>
    refine ⟨hfaithful, fun e he ↦ ?_, ho.left.cons fun _ _ _ ↦ rfl⟩
    have hearlier : .refused e ∈ o.journal := by simpa using he
    obtain ⟨hterminal, ⟨hpending, -⟩ | ⟨haborted, hrest⟩⟩ := ho.told e hearlier
    · cases hpending
    · exact ⟨hterminal, Or.inr ⟨by simp [haborted], hrest⟩⟩
  | stay => exact ho
  | throw _ e hrunning => exact .of_none hfaithful (ho.none_of_running hrunning)
  | fault _ e hraises =>
    refine ⟨hfaithful, fun e' he' ↦ ?_, ho.left⟩
    obtain ⟨hterminal, ⟨hpending, -⟩ | hended⟩ := ho.told e' he'
    · cases hpending
    · exact ⟨hterminal, Or.inr hended⟩
  | refuse _ e hrunning hkind =>
    have hnone := ho.none_of_running hrunning
    refine ⟨hfaithful, fun e' he' ↦ ?_, ensues_cons _ ho.left hnone⟩
    rcases List.mem_cons.mp he' with hnow | hearlier
    · cases hnow
      have hterminal : e.isTerminal = true := by rw [Error.isTerminal, hkind, ErrorKind.isTerminal]
      exact ⟨hterminal, Or.inl ⟨rfl, hrunning⟩⟩
    · have h := hnone (.refused e') hearlier
      cases h
  | fail _ err reported hreported =>
    refine ⟨hfaithful, fun e he ↦ ?_, ho.left.cons fun _ _ _ ↦ rfl⟩
    have hearlier : .refused e ∈ o.journal := by simpa using he
    obtain ⟨hterminal, ⟨hpending, hrunning⟩ | ⟨haborted, hcancelled, err', herr', herror⟩⟩ :=
      ho.told e hearlier
    · -- The refusal is the error of this call.
      cases hpending
      have hphase : (if err.error.isTerminal then .aborted else o.phase) = Phase.aborted := by
        rw [if_pos hterminal]
      have hmem : err ∈ reported := by
        rcases hreported with rfl | ⟨hnot, -⟩
        · exact List.mem_cons_self
        · rw [hterminal] at hnot
          cases hnot
      exact ⟨hterminal,
        Or.inr ⟨hphase, ho.faithful.cancelled_eq_false hrunning, err, hmem, rfl⟩⟩
    · have hmem : err' ∈ reported := by
        rcases hreported with rfl | ⟨-, rfl⟩
        · exact List.mem_cons_of_mem err herr'
        · exact herr'
      exact ⟨hterminal, Or.inr ⟨by simp [haborted], hcancelled, err', hmem, herror⟩⟩

end Refusals

namespace Engine

variable {e : Engine}

theorem run_keepsTo (he : e.Standard) (statement : Statement) (r : Request) (store : Store) :
    (e.run statement r store).2.KeepsTo (e.env r).services.limits := by
  have hinitial : (initial r store).KeepsTo (e.env r).services.limits := ⟨rfl, .nil, nofun⟩
  exact (he.course r statement _).preserves
    (I := fun _ s ↦ s.KeepsTo (e.env r).services.limits) Move.keepsTo hinitial

theorem run_refusals (he : e.Standard) (statement : Statement) (r : Request) (store : Store) :
    (e.run statement r store).2.outline.Refusals none := by
  have hinitial : (initial r store).outline.Refusals none :=
    .of_none (initial_faithful r store) nofun
  exact (he.course r statement _).outline Turn.refusals hinitial

theorem run_used_le (he : e.Standard) (statement : Statement) (r : Request) (store : Store)
    (resource : Resource) : (e.run statement r store).2.usage.used resource ≤
      (e.env r).services.limits.ceiling resource := by
  have hkeeps := run_keepsTo he statement r store
  have husage := congrArg Tally.usage hkeeps.tallied
  have hused := hkeeps.bounded.now.used resource
  rwa [← husage] at hused

theorem run_starts (he : e.Standard) (statement : Statement) (r : Request) (store : Store) :
    (e.run statement r store).2.journal.countP Event.isStart ≤
      (e.env r).services.limits.maxCalls :=
  Nat.le_trans (he.course r statement (initial r store)).starts
    (run_used_le he statement r store .calls)

/-- At every moment a run is within its limits, and a refusal is reported and ends the run. -/
theorem resource_ceilings (he : e.Standard) (source : String) (r : Request) (store : Store) :
    let l := (e.env r).services.limits
    let t := (e.run (parse source) r store).2
    let x := (e.execute source r store).1
    t.tally = Tally.ofJournal t.journal ∧ t.journal.countP Event.isRequest = t.usage.requests ∧
    (∀ journal, journal <:+ t.journal →
      journal.countP Event.isStart ≤ l.maxCalls ∧
      (Tally.ofJournal journal).calls.length ≤ l.maxDepth ∧
      journal.countP Event.isIteration ≤ l.maxLoops ∧
      journal.countP Event.isRequest ≤ l.maxRequests ∧
      (journal.countP Event.isRequest = (Tally.ofJournal journal).usage.requests ∨
        ∃ earlier, journal = .charged .requests :: earlier ∧
          earlier.countP Event.isRequest = (Tally.ofJournal earlier).usage.requests)) ∧
    (∀ err ∈ x.errors, err.stack.length ≤ l.maxDepth) ∧
    ∀ later error earlier, t.journal = later ++ .refused error :: earlier →
      Refuses l (Tally.ofJournal earlier) error ∧ error.kind = .resourceLimit ∧
      t.usage = (Tally.ofJournal earlier).usage ∧
      (∀ ev ∈ later, ev.unwinds = true ∨ ev.isRecord = true) ∧
      (∃ err ∈ x.errors, err.error = error) ∧ x.termination = .aborted := by
  intro l t x
  have hkeeps : t.KeepsTo l := run_keepsTo he (parse source) r store
  have hrefusals : t.outline.Refusals none := run_refusals he (parse source) r store
  have herrors : ∀ err, err ∈ x.errors ↔ err ∈ t.errors := fun err ↦ List.mem_reverse
  have hsettled : t.journal.countP Event.isRequest = t.usage.requests :=
    hkeeps.bounded.settled.trans (congrArg (·.usage.requests) hkeeps.tallied).symm
  refine ⟨hkeeps.tallied, hsettled, fun journal hsuffix ↦ ?_, fun err herr ↦ ?_, ?_⟩
  · have hwithin := hkeeps.bounded.moments journal hsuffix
    have hstarts : journal.countP Event.isStart ≤ l.maxCalls :=
      Nat.le_trans hsuffix.sublist.countP_le (run_starts he (parse source) r store)
    have hrequests : journal.countP Event.isRequest ≤ l.maxRequests := by
      rcases hwithin.requests with hequal | ⟨earlier, rfl, hequal⟩
      · rw [hequal]
        exact hwithin.used .requests
      · have hbefore := hkeeps.bounded.moments earlier
          ((List.suffix_cons _ _).trans hsuffix)
        change earlier.countP Event.isRequest ≤ _
        rw [hequal]
        exact hbefore.used .requests
    exact ⟨hstarts, hwithin.depth, Nat.le_trans hwithin.bodies (hwithin.used .loops), hrequests,
      hwithin.requests⟩
  · exact hkeeps.reports err ((herrors err).mp herr)
  · intro later error earlier hjournal
    have hmem : .refused error ∈ t.journal := by simp [hjournal]
    have hrefuses : Refuses l (Tally.ofJournal earlier) error := by
      have hsuffix : .refused error :: earlier <:+ t.journal := hjournal ▸ List.suffix_append _ _
      exact (hkeeps.bounded.moments _ hsuffix).refusal error earlier rfl
    have hlater : ∀ ev ∈ later, ev.concludes = true := by
      intro ev hev
      have hensues : Ensues Event.isRefusal Event.concludes (later ++ .refused error :: earlier) :=
        hjournal ▸ hrefusals.left
      exact (List.pairwise_append.mp hensues).2.2 ev hev _ List.mem_cons_self rfl
    have husage : t.usage = (Tally.ofJournal earlier).usage := by
      have htally : t.tally = Tally.ofJournal (later ++ .refused error :: earlier) :=
        hjournal ▸ hkeeps.tallied
      exact (congrArg Tally.usage htally).trans (Tally.ofJournal_of_concludes hlater).2.1
    obtain ⟨-, ⟨hpending, -⟩ | ⟨haborted, hcancelled, err, herr, herror⟩⟩ :=
      hrefusals.told error hmem
    · cases hpending
    have htermination : t.termination = .aborted := by
      change t.phase = .aborted at haborted
      change t.cancelled = false at hcancelled
      simp [State.termination, hcancelled, haborted]
    exact ⟨hrefuses, hrefuses.kind_eq, husage,
      fun ev hev ↦ Bool.or_eq_true _ _ |>.mp (hlater ev hev),
      ⟨err, (herrors err).mpr herr, herror⟩, htermination⟩

/-- A loop with a call of a function that calls itself, under small limits. -/
theorem resource_ceilings_recursion :
    let source := "\x7bfunction;f;\x7bfunc.f\x7d\x7d\x7brepeat;\x7btry;\x7bfunc.f\x7d\x7d;9\x7d"
    let r : Request := { limits? := some { maxLoops := 4, maxCalls := 9, maxDepth := 3 } }
    ∃ e : Engine, e.Standard ∧
      let t := (e.run (parse source) r []).2
      (∀ journal, journal <:+ t.journal → journal.countP Event.isStart ≤ 9 ∧
        (Tally.ofJournal journal).calls.length ≤ 3 ∧ journal.countP Event.isIteration ≤ 4) ∧
      ∀ error, .refused error ∈ t.journal →
        (e.execute source r []).1.termination = .aborted := by
  intro source r
  obtain ⟨e, -, he⟩ := exists_standard (b := {}) rfl rfl Scopes.exists_ofProviders_standard
  obtain ⟨-, -, hmoments, -, hrefusals⟩ := resource_ceilings he source r []
  refine ⟨e, he, fun journal hsuffix ↦ ?_, fun error hmem ↦ ?_⟩
  · obtain ⟨hstarts, hdepth, hbodies, -⟩ := hmoments journal hsuffix
    exact ⟨hstarts, hdepth, hbodies⟩
  · obtain ⟨later, earlier, hjournal⟩ := List.append_of_mem hmem
    obtain ⟨-, -, -, -, -, htermination⟩ := hrefusals later error earlier hjournal
    exact htermination

end Engine

end BraceScript
