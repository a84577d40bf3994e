import BraceScript.Proofs.Run.Ceilings
import BraceScript.Proofs.Run.Derivation
import BraceScript.Proofs.Run.Repertoire

namespace BraceScript

section Nesting

/-- At every moment so far the functions in progress were no more than the calls in progress, and
the journal accounts for both. -/
structure State.Nested (s : State) : Prop where
  activations : (Tally.ofJournal s.journal).activations = s.outer.length
  calls : (Tally.ofJournal s.journal).calls.length = s.calls.length
  moments : ∀ journal, journal <:+ s.journal →
    (Tally.ofJournal journal).activations ≤ (Tally.ofJournal journal).calls.length

theorem Tally.enter_of_isLevel (n : Tally) {ev : Event} (h : ev.isLevel = true) :
    (n.enter ev).activations = n.activations ∧ (n.enter ev).calls = n.calls := by
  cases ev with
  | called | finished | entered | exited => cases h
  | _ => exact ⟨rfl, rfl⟩

namespace State.Nested

variable {s t : State}

theorem now (h : s.Nested) : s.outer.length ≤ s.calls.length := by
  rw [← h.activations, ← h.calls]
  exact h.moments s.journal List.suffix_rfl

theorem cons (h : s.Nested) (ev : Event) (hjournal : t.journal = ev :: s.journal)
    (hactivations : ((Tally.ofJournal s.journal).enter ev).activations = t.outer.length)
    (hcalls : ((Tally.ofJournal s.journal).enter ev).calls.length = t.calls.length)
    (hle : t.outer.length ≤ t.calls.length) : t.Nested := by
  have hnow : (Tally.ofJournal t.journal).activations = t.outer.length ∧
      (Tally.ofJournal t.journal).calls.length = t.calls.length := by
    rw [hjournal]
    exact ⟨hactivations, hcalls⟩
  refine ⟨hnow.1, hnow.2, fun journal hsuffix ↦ ?_⟩
  rw [hjournal] at hsuffix
  rcases List.suffix_cons_iff.mp hsuffix with heq | hsuffix
  · rw [heq, ← hjournal, hnow.1, hnow.2]
    exact hle
  · exact h.moments journal hsuffix

theorem level (h : s.Nested) (hcalls : t.calls = s.calls) (houter : t.outer = s.outer)
    (new : List Event) (hjournal : t.journal = new ++ s.journal)
    (hnew : ∀ ev ∈ new, ev.isLevel = true) : t.Nested := by
  induction new generalizing t with
  | nil =>
    have heq : t.journal = s.journal := hjournal
    exact ⟨by rw [heq, houter, h.activations], by rw [heq, hcalls, h.calls], heq ▸ h.moments⟩
  | cons ev new ih =>
    obtain ⟨hev, hnew⟩ := List.forall_mem_cons.mp hnew
    -- The state between the two has the stacks of `t` already.
    have hearlier : State.Nested { t with journal := new ++ s.journal } := ih hcalls houter rfl hnew
    obtain ⟨hactivations, hsame⟩ :=
      Tally.enter_of_isLevel (Tally.ofJournal (new ++ s.journal)) hev
    exact hearlier.cons ev hjournal (hactivations.trans hearlier.activations)
      ((congrArg List.length hsame).trans hearlier.calls) hearlier.now

theorem tick (h : s.Nested) (svc : Services) : (svc.tick s).2.Nested := by
  have hkeeps := State.Keeps.tick svc s
  obtain ⟨new, hjournal, hnew⟩ :
      ∃ new, (svc.tick s).2.journal = new ++ s.journal ∧ ∀ ev ∈ new, ev.isLevel = true := by
    rw [tick_eq]
    unfold Services.look Services.yieldIfDue
    split <;> split
    · exact ⟨[.cancelled, .yielded, .stepped], rfl, by simp [Event.isLevel]⟩
    · exact ⟨[.yielded, .stepped], rfl, by simp [Event.isLevel]⟩
    · exact ⟨[.cancelled, .stepped], rfl, by simp [Event.isLevel]⟩
    · exact ⟨[.stepped], rfl, by simp [Event.isLevel]⟩
  exact h.level hkeeps.calls hkeeps.outer new hjournal hnew

theorem note (h : s.Nested) {ev : Event} (hev : ev.isLevel = true) : (s.note ev).Nested :=
  h.level rfl rfl [ev] rfl (by simpa using hev)

theorem charged (h : s.Nested) (r : Resource) : (s.charged r).Nested :=
  h.level rfl rfl [.charged r] rfl (by simp [Event.isLevel])

theorem conclude (h : s.Nested) (svc : Services) (name : String) (span : Span) (outcome : Outcome) :
    (conclude svc name span outcome s).2.Nested := by
  cases outcome with
  | ok text => exact h
  | error e =>
    have hkeeps := State.Keeps.fail svc name span e s
    exact h.level hkeeps.calls hkeeps.outer [_] (journal_fail svc name span e s)
      (by simp [Event.isLevel])

theorem called (h : s.Nested) (frame : CallFrame) : (s.called frame).Nested :=
  (h.charged .calls).cons (.called frame) rfl h.activations
    (congrArg (· + 1) h.calls) (Nat.le_succ_of_le h.now)

theorem popCall (h : s.Nested) (hle : s.outer.length ≤ s.calls.tail.length) : s.popCall.Nested := by
  refine h.cons .finished rfl h.activations ?_ hle
  change (Tally.ofJournal s.journal).calls.tail.length = s.calls.tail.length
  rw [List.length_tail, List.length_tail, h.calls]

theorem enter (h : s.Nested) (hlt : s.outer.length < s.calls.length) (name : String)
    (params : List String) : (s.enter name params).Nested :=
  h.cons (.entered name) rfl (congrArg (· + 1) h.activations) h.calls hlt

theorem exit (h : s.Nested) {f : Frame} {rest : List Frame} (houter : s.outer = f :: rest) :
    s.exit.Nested := by
  have hnow := h.now
  rw [houter, List.length_cons] at hnow
  rw [State.exit_eq houter]
  refine h.cons .exited rfl ?_ h.calls (Nat.le_of_succ_le hnow)
  change (Tally.ofJournal s.journal).activations - 1 = rest.length
  rw [h.activations, houter]
  rfl

end State.Nested

def Task.InsideCall : Task → Prop
  | .script _ t => t.state.outer.length < t.state.calls.length
  | _ => True

theorem Ends.nested {env : Env} {k : Task} {r : k.Result} (h : Ends env k r) (hk : k.InsideCall)
    (hs : k.before.Nested) : (k.after r).Nested := by
  induction h with
  | nil | stopped | literal | unknown | slotNil | slotsNil | done => exact hs
  | cons _ _ _ ih ih' => exact ih' trivial (ih trivial hs)
  | cancelled => exact hs.tick _
  | unnamed _ _ _ _ _ ih => exact ih trivial (hs.tick _)
  | named _ _ _ _ ih ih' => exact (ih' trivial (ih trivial (hs.tick _))).conclude _ _ _ _
  | uncounted => exact hs.note rfl
  | deep => exact (hs.charged .calls).note rfl
  | unbound => exact hs.charged .calls
  | @unstarted _ _ _ _ s _ _ a _ _ _ ha _ ih =>
    obtain ⟨hcalls, houter⟩ := ha.stacks_eq
    have hleft : a.2.outer.length ≤ a.2.calls.tail.length := by
      change a.2.calls = _ :: s.calls at hcalls
      change a.2.outer = s.outer at houter
      rw [hcalls, houter]
      exact hs.now
    exact (ih trivial (hs.called _)).popCall hleft
  | @started _ _ _ _ s _ _ a _ b _ _ _ ha _ _ hb ih ih' =>
    obtain ⟨hcalls, houter⟩ := ha.stacks_eq
    obtain ⟨hcalls', houter'⟩ := hb.stacks_eq
    change a.2.calls = _ :: s.calls at hcalls
    change a.2.outer = s.outer at houter
    change b.2.state.calls = a.2.calls at hcalls'
    change b.2.state.outer = a.2.outer at houter'
    have hinside : a.2.outer.length < a.2.calls.length := by
      rw [hcalls, houter]
      exact Nat.lt_succ_of_le hs.now
    have hleft : b.2.state.outer.length ≤ b.2.state.calls.tail.length := by
      rw [hcalls', houter', hcalls, houter]
      exact hs.now
    exact (ih' hinside ((ih trivial (hs.called _)).note rfl)).popCall hleft
  | eager _ _ _ _ _ ih ih' => exact ih' trivial (ih trivial hs)
  | deferred _ _ ih => exact ih trivial hs
  | slotsCons _ _ ih ih' => exact ih' trivial (ih trivial hs)
  | @answered _ _ t u _ _ hneed _ ih =>
    obtain ⟨hcalls, houter, -, -, -, -, new, hjournal, hnew⟩ := (Query.settles_of_need hneed).level
    have hinside : u.state.outer.length < u.state.calls.length := by
      rw [hcalls, houter]
      exact hk
    exact ih hinside (hs.level hcalls houter new hjournal hnew)
  | @evaluated _ _ t _ s resume a _ hneed ha _ ih ih' =>
    obtain ⟨leave, hdetour, hresume⟩ := Query.detour_of_need hneed
    have hleft := hdetour.stacks_eq ha.stacks_eq.1 ha.stacks_eq.2
    have hstate : (resume a.1 a.2).2.state = leave a.2 := (hresume a.1 a.2).1
    have hinside : (resume a.1 a.2).2.state.outer.length < (resume a.1 a.2).2.state.calls.length := by
      rw [hstate, hleft.1, hleft.2]
      exact hk
    refine ih' hinside ?_
    change (resume a.1 a.2).2.state.Nested
    rw [hstate]
    cases hdetour with
    | reading => exact ih trivial hs
    | iteration => exact ih trivial (hs.note rfl)
    | interception =>
      have hpushed : t.state.pushCatch.Nested := hs.level rfl rfl [] rfl (by simp)
      exact (ih trivial hpushed).level rfl rfl [] rfl (by simp)
    | activation name params =>
      -- Entering is possible as the call of the script itself runs no other function.
      exact (ih trivial (hs.enter hk name params)).exit ha.stacks_eq.2

end Nesting

section Loops

variable {α β : Type} (svc : Services) (eval : Eval)

/-- How often the script starts the body of a loop. -/
def Script.bodies : Script α → Activation → Nat
  | done _, _ => 0
  | ask q next, t =>
    (if q.isLoopBody then 1 else 0) +
      (next (q.answer svc eval t).1).bodies (q.answer svc eval t).2

theorem Script.bodies_bind (x : Script α) (f : α → Script β) (t : Activation) :
    (x >>= f).bodies svc eval t =
      x.bodies svc eval t + (f (x.run svc eval t).1).bodies svc eval (x.run svc eval t).2 := by
  induction x generalizing t with
  | done a => exact (Nat.zero_add _).symm
  | ask q next ih => exact (congrArg _ (ih _ _)).trans (Nat.add_assoc _ _ _).symm

theorem Script.bodies_of_asks {x : Script α} (h : x.Asks (!·.isLoopBody)) (t : Activation) :
    x.bodies svc eval t = 0 := by
  induction x generalizing t with
  | done a => rfl
  | ask q next ih =>
    have hq : q.isLoopBody = false := by simpa using h.1
    rw [bodies, hq, ih _ (h.2 _)]
    rfl

namespace Action

def bodies (a : Action α) (t : Activation) : Nat := (ExceptT.run a).bodies svc eval t

/-- The number that an action gives, or nothing where it fails. -/
def total (a : Action Nat) (t : Activation) : Nat :=
  match (a.exec svc eval t).1 with
  | .ok n => n
  | .error _ => 0

variable {svc eval} {a : Action α} {f : α → Action β} {t : Activation}

theorem bodies_of_asks (ha : a.Asks (!·.isLoopBody)) (t : Activation) :
    a.bodies svc eval t = 0 := Script.bodies_of_asks svc eval ha.script t

theorem bodies_bind_le {m n : Nat} (ha : a.bodies svc eval t ≤ m)
    (hf : ∀ v u, (f v).bodies svc eval u ≤ n) : (a >>= f).bodies svc eval t ≤ m + n := by
  have hbind := Script.bodies_bind svc eval (ExceptT.run a) (ExceptT.bindCont f) t
  change (ExceptT.run a >>= ExceptT.bindCont f).bodies svc eval t ≤ m + n
  rw [hbind]
  refine Nat.add_le_add ha ?_
  rcases (ExceptT.run a).run svc eval t with ⟨e | v, u⟩
  · exact Nat.zero_le n
  · exact hf v u

theorem bodies_bind_le_of_asks {n : Nat} (ha : a.Asks (!·.isLoopBody))
    (hf : ∀ v u, (f v).bodies svc eval u ≤ n) : (a >>= f).bodies svc eval t ≤ n := by
  have hbind := bodies_bind_le (Nat.le_of_eq (bodies_of_asks ha t)) hf
  rwa [Nat.zero_add] at hbind

theorem bodies_outcome (a : Action α) (t : Activation) :
    (Action.outcome a).bodies svc eval t = a.bodies svc eval t :=
  Script.bodies_bind svc eval (ExceptT.run a) (fun r ↦ Pure.pure (Except.ok r)) t

theorem bodies_bind_le_total {g : α → Action Nat} (ha : a.Asks (!·.isLoopBody))
    (h : ∀ v u, (f v).bodies svc eval u ≤ (g v).total svc eval u) :
    (a >>= f).bodies svc eval t ≤ (a >>= g).total svc eval t := by
  have hbind := Script.bodies_bind svc eval (ExceptT.run a) (ExceptT.bindCont f) t
  change (ExceptT.run a >>= ExceptT.bindCont f).bodies svc eval t ≤ _
  rw [hbind, Script.bodies_of_asks svc eval ha.script, Nat.zero_add, total, exec_bind, exec]
  rcases (ExceptT.run a).run svc eval t with ⟨e | v, u⟩
  · exact Nat.zero_le _
  · exact h v u

end Action

namespace Subtags

variable {svc eval} {t : Activation}

theorem bodies_iteration_le {body : Action String} {next : String → Action String} {n : Nat}
    (hbody : ∀ u, body.bodies svc eval u ≤ 1) (output : String)
    (hnext : ∀ output u, (next output).bodies svc eval u ≤ n) :
    (iteration body output next).bodies svc eval t ≤ 1 + n := by
  refine Action.bodies_bind_le_of_asks (.ask rfl) fun running u ↦ ?_
  split
  · refine Action.bodies_bind_le_of_asks (.demand (Script.asks_query rfl)) fun _ u ↦ ?_
    exact Action.bodies_bind_le (hbody u) fun text u ↦ hnext (output ++ text) u
  · exact Nat.zero_le _

theorem bodies_times_le {body : Nat → Action String}
    (hbody : ∀ i u, (body i).bodies svc eval u ≤ 1) (count start : Nat) (output : String) :
    (times body count start output).bodies svc eval t ≤ count := by
  induction count generalizing start output t with
  | zero => exact Nat.le_refl 0
  | succ count ih =>
    rw [times, Nat.add_comm count 1]
    exact bodies_iteration_le (hbody start) output fun output u ↦ ih (start + 1) output

theorem bodies_each_le {body : α → Action String}
    (hbody : ∀ item u, (body item).bodies svc eval u ≤ 1) (items : List α) (output : String) :
    (each body items output).bodies svc eval t ≤ items.length := by
  induction items generalizing output t with
  | nil => exact Nat.le_refl 0
  | cons item items ih =>
    rw [List.length_cons, Nat.add_comm]
    exact bodies_iteration_le (hbody item) output fun output u ↦ ih output

/-- How often a loop is asked to run its body: the amount, or the length of the array. -/
def rounds (id : String) (c : Invocation) : Action Nat :=
  if id = "repeat" then do
    let amount ← c.integer (← Action.value 1)
    return amount.toNat
  else if id = "foreach" then do
    let _ ← Action.value 0
    let array ← resolveArray (← Action.value 1)
    return array.items.length
  else return 0

theorem bodies_again_le (slot : Nat) : (Action.again slot).bodies svc eval t ≤ 1 := Nat.le_refl 1

theorem bodies_repeatCode_le (c : Invocation) :
    (repeatCode c).bodies svc eval t ≤ (rounds "repeat" c).total svc eval t := by
  refine Action.bodies_bind_le_total (.ask rfl) fun text u ↦
    Action.bodies_bind_le_total (.ofOption _ _) fun amount u ↦ ?_
  split
  · exact Nat.zero_le _
  · exact Action.bodies_bind_le (n := 0) (bodies_times_le (fun _ u ↦ bodies_again_le 0) _ _ _)
      fun _ _ ↦ Nat.le_refl 0

theorem bodies_forEach_le (c : Invocation) :
    (forEach c).bodies svc eval t ≤ (rounds "foreach" c).total svc eval t := by
  refine Action.bodies_bind_le_total (.ask rfl) fun name u ↦
    Action.bodies_bind_le_total (.ask rfl) fun text u ↦
    Action.bodies_bind_le_total (asks_resolveArray text).modest.unlooped
      fun array u ↦ ?_
  refine Action.bodies_bind_le_of_asks (.demand (Script.asks_query rfl)) fun previous u ↦ ?_
  have hbody (item : Value) (u : Activation) : Action.bodies svc eval
      (do Action.setVariable name item; Action.again 2) u ≤ 1 :=
    Action.bodies_bind_le_of_asks (.demand (Script.asks_query rfl)) fun _ u ↦ bodies_again_le 2
  have heach := bodies_each_le (t := u) hbody array.items ""
  rw [← Action.bodies_outcome] at heach
  exact Action.bodies_bind_le (n := 0) heach fun result u ↦ Action.bodies_bind_le_of_asks
    (.ask rfl) fun restored u ↦ Action.bodies_bind_le_of_asks (.settle result) fun _ u ↦
    Action.bodies_bind_le_of_asks (.settle restored) fun _ u ↦ Nat.le_refl 0

end Subtags

/-- A script of the standard starts the body of a loop as often as it is asked to at most. -/
theorem Handler.Usual.bodies_le {id : String} {eager : Nat → Bool} {handler : Handler}
    (h : handler.Usual id eager) : ∃ body, handler = .script body ∧ ∀ svc eval c t,
      (body c).bodies svc eval t ≤ (Subtags.rounds id c).total svc eval t := by
  cases h with
  | modest hmodest =>
    refine ⟨_, rfl, fun svc eval c t ↦ ?_⟩
    rw [Action.bodies_of_asks (hmodest c).unlooped]
    exact Nat.zero_le _
  | repeatCode hid => exact ⟨_, rfl, fun svc eval c t ↦ hid ▸ Subtags.bodies_repeatCode_le c⟩
  | forEach hid => exact ⟨_, rfl, fun svc eval c t ↦ hid ▸ Subtags.bodies_forEach_le c⟩
  | callFunction _ =>
    refine ⟨_, rfl, fun svc eval c t ↦ ?_⟩
    have hunlooped := (Subtags.callFunction_asks c).mono fun _ ↦ Query.unlooped_of_isCalling
    rw [Action.bodies_of_asks hunlooped]
    exact Nat.zero_le _

end Loops

namespace Engine

variable {e : Engine}

/-- Every execution ends, with the one result that its derivation gives. Functions are nested no
deeper than calls and calls no deeper than their ceiling, and each loop runs its body as often as
its amount or its array says at most. -/
theorem execution_ends (he : e.Standard) (source : String) (r : Request) (store : Store) :
    (∃ result, Ends (e.env r) (.parts (parse source).parts (initial r store)) result ∧
      (∀ result', Ends (e.env r) (.parts (parse source).parts (initial r store)) result' →
        result' = result) ∧
      e.execute source r store = (result.2.execution result.1, result.2.store)) ∧
    (∀ journal, journal <:+ (e.run (parse source) r store).2.journal →
      (Tally.ofJournal journal).activations ≤ (Tally.ofJournal journal).calls.length ∧
      (Tally.ofJournal journal).calls.length ≤ (e.env r).services.limits.maxDepth) ∧
    ∀ name d, e.registry.lookup name = some d → ∀ signature ∈ d.signatures,
      ∃ body, signature.handler = .script body ∧ ∀ svc eval c t,
        (body c).bodies svc eval t ≤ (Subtags.rounds d.id c).total svc eval t := by
  have hends := (e.env r).ends_eval he.scripted (parse source) (initial r store)
  refine ⟨⟨_, hends, fun result' hresult' ↦ hresult'.eq_eval, rfl⟩, fun journal hsuffix ↦ ?_, ?_⟩
  · have hinitial : (initial r store).Nested := ⟨rfl, rfl, by simp [initial, Tally.ofJournal]⟩
    have hnested := hends.nested trivial hinitial
    have hwithin := (run_keepsTo he (parse source) r store).bounded.moments journal hsuffix
    exact ⟨hnested.moments journal hsuffix, hwithin.depth⟩
  · intro name d hd signature hsignature
    exact (he.usual name d hd signature hsignature).bodies_le

/-- Two functions that call each other, in a loop, with as many calls and iterations as can be
counted. -/
theorem execution_ends_recursion :
    let source := "\x7bfunction;f;\x7bfunc.g\x7d\x7d\x7bfunction;g;\x7bfunc.f\x7d\x7d" ++
      "\x7brepeat;\x7bfunc.f\x7d;4294967295\x7d"
    let limits : Limits :=
      { maxCalls := 18446744073709551615, maxLoops := 18446744073709551615, maxDepth := 5 }
    let r : Request := { limits? := some limits }
    ∃ e : Engine, e.Standard ∧ (e.execute source r []).1.termination = .aborted ∧
      (∃ result, Ends (e.env r) (.parts (parse source).parts (initial r [])) result ∧
        (e.execute source r []).1 = result.2.execution result.1) ∧
      ∀ journal, journal <:+ (e.run (parse source) r []).2.journal →
        (Tally.ofJournal journal).activations ≤ 5 := by
  intro source limits r
  obtain ⟨e, -, he, hrun⟩ := exists_standard_of_any (b := { providers := [⟨"", .tag⟩] }) rfl rfl
    (p := fun e ↦ decide ((e.execute source r []).1.termination = .aborted)) (by decide +kernel)
  obtain ⟨⟨result, hends, -, hresult⟩, hnesting, -⟩ := execution_ends he source r []
  refine ⟨e, he, of_decide_eq_true hrun, ⟨result, hends, by rw [hresult]⟩, fun journal hsuffix ↦ ?_⟩
  obtain ⟨hactivations, hcalls⟩ := hnesting journal hsuffix
  exact Nat.le_trans hactivations hcalls

end Engine

end BraceScript
