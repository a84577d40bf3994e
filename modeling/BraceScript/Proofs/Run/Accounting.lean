import BraceScript.Proofs.Run.Ceilings
import BraceScript.Proofs.Run.Provenance
import BraceScript.Proofs.Run.Repertoire
import BraceScript.Proofs.Source.Depth

namespace BraceScript

def ShallowBodies (functions : Table String Statement) : Prop :=
  ∀ f ∈ functions, f.2.nesting ≤ 255

namespace State

/-- Between the two states there is a step for each counted call and for each reported error, and
all steps but `loss` of them are paid for by counted calls. -/
structure Costs (loss : Nat) (s t : State) : Prop where
  functions : ShallowBodies s.functions → ShallowBodies t.functions
  calls : t.usage.calls + s.steps ≤ s.usage.calls + t.steps
  errors : t.errors.length + s.steps ≤ s.errors.length + t.steps
  steps : t.steps + 256 * s.usage.calls ≤ s.steps + 256 * t.usage.calls + loss

namespace Costs

variable {s t u : State} {m n : Nat}

theorem of_eq (hfunctions : t.functions = s.functions) (hcalls : t.usage.calls = s.usage.calls)
    (herrors : t.errors = s.errors) (hsteps : t.steps = s.steps) : s.Costs n t where
  functions h := by rwa [hfunctions]
  calls := by omega
  errors := by
    rw [herrors]
    omega
  steps := by omega

theorem refl (s : State) : s.Costs n s := of_eq rfl rfl rfl rfl

theorem trans (h : s.Costs m t) (h' : t.Costs n u) : s.Costs (m + n) u where
  functions hs := h'.functions (h.functions hs)
  calls := by
    have := h.calls
    have := h'.calls
    omega
  errors := by
    have := h.errors
    have := h'.errors
    omega
  steps := by
    have := h.steps
    have := h'.steps
    omega

theorem mono (h : s.Costs m t) (hmn : m ≤ n) : s.Costs n t :=
  ⟨h.functions, h.calls, h.errors, Nat.le_trans h.steps (Nat.add_le_add_left hmn _)⟩

end Costs

structure Accounts (loss : Nat) (s t : State) : Prop where
  whole : s.Costs loss t
  going : t.isRunning = true → s.Costs 0 t
  halted : s.isRunning = false → t.isRunning = false ∧ s.Costs 0 t

namespace Accounts

variable {s t u : State} {n : Nat}

theorem of_costs (h : s.Costs 0 t) (hstopped : s.isRunning = false → t.isRunning = false) :
    s.Accounts n t :=
  ⟨h.mono (Nat.zero_le n), fun _ ↦ h, fun hs ↦ ⟨hstopped hs, h⟩⟩

theorem refl (s : State) : s.Accounts n s := of_costs (.refl s) id

theorem stop (h : s.Costs n t) (hs : s.isRunning = true) (ht : t.isRunning = false) :
    s.Accounts n t :=
  ⟨h, fun hrunning ↦ absurd hrunning (by simp [ht]), fun hstopped ↦ absurd hs (by simp [hstopped])⟩

theorem trans (h : s.Accounts n t) (h' : t.Accounts n u) : s.Accounts n u where
  whole := by
    cases ht : t.isRunning with
    | true =>
      have hboth := (h.going ht).trans h'.whole
      rwa [Nat.zero_add] at hboth
    | false => exact h.whole.trans (h'.halted ht).2
  going hu := by
    cases ht : t.isRunning with
    | true => exact (h.going ht).trans (h'.going hu)
    | false =>
      have hstopped := (h'.halted ht).1
      rw [hu] at hstopped
      cases hstopped
  halted hs := by
    obtain ⟨ht, hcosts⟩ := h.halted hs
    obtain ⟨hu, hcosts'⟩ := h'.halted ht
    exact ⟨hu, hcosts.trans hcosts'⟩

end Accounts

end State

section Steps

variable {svc : Services} {s t : State} {n : Nat}

theorem conclude_counts (svc : Services) (name : String) (span : Span) (outcome : Outcome)
    (s : State) :
    (conclude svc name span outcome s).2.functions = s.functions ∧
    (conclude svc name span outcome s).2.usage = s.usage ∧
    (conclude svc name span outcome s).2.steps = s.steps ∧
    (conclude svc name span outcome s).2.errors.length ≤ s.errors.length + 1 := by
  cases outcome with
  | ok text => exact ⟨rfl, rfl, rfl, Nat.le_succ _⟩
  | error e =>
    simp only [conclude, fail_eq]
    rcases State.record_cases _ ⟨span, name, e, s.stack⟩ with hrecord | ⟨c, rest, -, -, hrecord⟩
    · rw [hrecord]
      exact ⟨rfl, rfl, rfl, Nat.le_refl _⟩
    · rw [hrecord]
      exact ⟨rfl, rfl, rfl, Nat.le_succ _⟩

theorem conclude_stops (svc : Services) (name : String) (span : Span) {e : Error}
    (he : e.isTerminal = true) (s : State) :
    (conclude svc name span (.error e) s).2.isRunning = false := by
  simp only [conclude, fail_eq, he, if_true]
  rcases State.record_cases _ ⟨span, name, e, s.stack⟩ with hrecord | ⟨c, rest, -, -, hrecord⟩
  · rw [hrecord]
    rfl
  · rw [hrecord]
    rfl

namespace State.Costs

theorem concluded {s₁ : State} (hs₁ : s₁ = (svc.tick s).2)
    (hfunctions : ShallowBodies s₁.functions → ShallowBodies t.functions)
    (hcalls : t.usage.calls + s₁.steps ≤ s₁.usage.calls + t.steps + 1)
    (herrors : t.errors.length + s₁.steps ≤ s₁.errors.length + t.steps)
    (hsteps : t.steps + 256 * s₁.usage.calls + 1 ≤ s₁.steps + 256 * t.usage.calls + n)
    (name : String) (span : Span) (outcome : Outcome) :
    s.Costs n (conclude svc name span outcome t).2 := by
  obtain ⟨hfunctions', husage, herrors', hsteps'⟩ := tick_counts svc s
  rw [← hs₁] at hfunctions' husage herrors' hsteps'
  rw [hfunctions'] at hfunctions
  rw [husage, hsteps'] at hcalls hsteps
  rw [herrors', hsteps'] at herrors
  obtain ⟨hsame, hsameUsage, hsameSteps, hreported⟩ := conclude_counts svc name span outcome t
  refine ⟨?_, ?_, ?_, ?_⟩
  · rwa [hsame]
  · rw [hsameUsage, hsameSteps]
    omega
  · omega
  · rw [hsameUsage, hsameSteps]
    omega

theorem uncounted (h : (svc.tick s).2.Costs n t) (name : String) (span : Span)
    (outcome : Outcome) : s.Costs (n + 1) (conclude svc name span outcome t).2 :=
  concluded rfl h.functions (Nat.le_succ_of_le h.calls) h.errors (Nat.succ_le_succ h.steps)
    name span outcome

/-- A call that is counted pays for its own step and for all that is lost inside of it. -/
theorem counted {a : State} (h : (svc.tick s).2.Costs 0 a) (h' : (a.charged .calls).Costs 255 t)
    (name : String) (span : Span) (outcome : Outcome) :
    s.Costs 0 (conclude svc name span outcome t).2 := by
  obtain ⟨hfunctions, hcalls, herrors, hsteps⟩ := h'
  change ShallowBodies a.functions → _ at hfunctions
  change t.usage.calls + a.steps ≤ a.usage.calls + 1 + t.steps at hcalls
  change t.errors.length + a.steps ≤ a.errors.length + t.steps at herrors
  change t.steps + 256 * (a.usage.calls + 1) ≤ a.steps + 256 * t.usage.calls + 255 at hsteps
  have hcalls' := h.calls
  have herrors' := h.errors
  have hsteps' := h.steps
  exact concluded rfl (fun hs ↦ hfunctions (h.functions hs)) (by omega) (by omega) (by omega)
    name span outcome

end State.Costs

end Steps

namespace Query

/-- Whether the question is about the functions or about the arguments of the first parameter. -/
def readsFirst : Query → Bool
  | value 0 _ | count 0 | hasFunction _ => true
  | _ => false

theorem need_of_readsFirst {q : Query} (hq : q.readsFirst = true) (svc : Services) {t : Activation}
    (h : t.args.Settled 0) :
    ∃ a u, q.need svc t = .answered a u ∧ u.args.Settled 0 := by
  cases q with
  | value slot index =>
    obtain rfl : slot = 0 := by
      cases slot with
      | zero => rfl
      | succ slot => cases hq
    simp only [need]
    cases hat : t.args.at? 0 index with
    | none => exact ⟨_, _, rfl, h⟩
    | some a =>
      have hsettled := h a (Arguments.mem_all_of_at? hat)
      obtain ⟨p, source, value?⟩ := a
      cases value? with
      | some text => exact ⟨_, _, rfl, h⟩
      | none =>
        cases source with
        | default text => exact ⟨_, _, rfl, h.keep 0 index text⟩
        | code statement => cases hsettled rfl
  | count slot => exact ⟨_, _, rfl, h⟩
  | hasFunction name => exact ⟨_, _, rfl, h⟩
  | _ => cases hq

end Query

/-- The script reads the first parameter, and when it runs a function it ends with that. -/
def Script.CallsLast {α : Type} : Script α → Prop
  | done _ => True
  | ask q next => q.readsFirst = true ∧ (∀ r, (next r).CallsLast) ∨
      q.isActivation = true ∧ ∀ r, ∃ a, next r = done a

theorem Script.CallsLast.bind {α β : Type} {x : Script α} {f : α → Script β}
    (hx : x.Asks Query.readsFirst) (hf : ∀ a, (f a).CallsLast) : Script.CallsLast (x >>= f) := by
  induction x with
  | done a => exact hf a
  | ask q next ih => exact Or.inl ⟨hx.1, fun r ↦ ih r (hx.2 r)⟩

theorem Subtags.callFunction_callsLast (c : Invocation) :
    Script.CallsLast (ExceptT.run (callFunction c)) := by
  have hbind {α β : Type} {a : Action α} {f : α → Action β} (ha : a.Asks Query.readsFirst)
      (hf : ∀ v, Script.CallsLast (ExceptT.run (f v))) :
      Script.CallsLast (ExceptT.run (a >>= f)) := by
    refine Script.CallsLast.bind (f := ExceptT.bindCont f) ha.script fun r ↦ ?_
    cases r with
    | ok v => exact hf v
    | error e => trivial
  have hvalues : (Action.values 0).Asks Query.readsFirst :=
    .bind (.ask rfl) fun count ↦ .collect (fun _ ↦ .ask rfl) 0 count
  refine hbind (.ask rfl) fun found ↦ ?_
  split
  · exact hbind hvalues fun params ↦ Or.inr ⟨rfl, fun _ ↦ ⟨_, rfl⟩⟩
  · trivial

theorem Handler.Usual.callsLast {id : String} {eager : Nat → Bool}
    {body : Invocation → Action (Option String)} (h : (Handler.script body).Usual id eager)
    (c : Invocation) : Script.Asks (!·.isActivation) (ExceptT.run (body c)) ∨
      Script.CallsLast (ExceptT.run (body c)) ∧ eager 0 = true := by
  cases h with
  | modest hmodest => exact Or.inl (hmodest c).inactive.script
  | repeatCode _ =>
    exact Or.inl ((Subtags.repeatCode_asks c).mono fun _ ↦ Query.inactive_of_isLooping).script
  | forEach _ =>
    exact Or.inl ((Subtags.forEach_asks c).mono fun _ ↦ Query.inactive_of_isLooping).script
  | callFunction heager => exact Or.inr ⟨Subtags.callFunction_callsLast c, heager⟩

def Script.Careful {α : Type} (x : Script α) (t : Activation) : Prop :=
  x.Asks (!·.isActivation) ∨ x.CallsLast ∧ t.args.Settled 0

namespace Script.Careful

variable {α : Type} {q : Query} {next : q.Answer → Script α} {t u : Activation} {svc : Services}

theorem answered (h : (ask q next).Careful t) {a : q.Answer}
    (hneed : q.need svc t = .answered a u) : (next a).Careful u := by
  rcases h with hasks | ⟨⟨hfirst, hlast⟩ | ⟨-, hdone⟩, hsettled⟩
  · exact Or.inl (hasks.2 a)
  · obtain ⟨a', u', hneed', hsettled'⟩ := Query.need_of_readsFirst hfirst svc hsettled
    rw [hneed] at hneed'
    cases hneed'
    exact Or.inr ⟨hlast a, hsettled'⟩
  · obtain ⟨v, hv⟩ := hdone a
    rw [hv]
    exact Or.inl trivial

/-- An evaluation is that of an argument, or that of a function with which the script ends. -/
theorem evaluated (h : (ask q next).Careful t) {statement : Statement} {s : State}
    {resume : String → State → q.Answer × Activation}
    (hneed : q.need svc t = .evaluates statement s resume) :
    (ask q next).Asks (!·.isActivation) ∨
      q.isActivation = true ∧ ∀ r, ∃ a, next r = done a := by
  rcases h with hasks | ⟨⟨hfirst, -⟩ | hlast, hsettled⟩
  · exact Or.inl hasks
  · obtain ⟨a, u, hneed', -⟩ := Query.need_of_readsFirst hfirst svc hsettled
    rw [hneed] at hneed'
    cases hneed'
  · exact Or.inr hlast

end Script.Careful

theorem Ends.settled {env : Env} {signature : Signature Handler}
    {signatures : List (Signature Handler)} {args : List Statement} {bound : Arguments} {s : State}
    {a : List (List Argument) × State} (h : Ends env (.slots bound.slots s) a)
    (hbind : Binding.bind signatures args = .ok (signature, bound))
    (hrunning : a.2.isRunning = true) {i : Nat} (heager : signature.eager i = true) :
    Arguments.Settled { bound with slots := a.1 } i := by
  obtain rfl := h.eq_value _ rfl
  unfold Signature.eager at heager
  cases hp : signature.parameters[i]? with
  | none => simp [hp] at heager
  | some p => exact Binding.settled hbind hrunning hp (by simpa [hp] using heager)

theorem Part.nesting_call {name : Statement} {args : List Statement} {span : Span} {l : Nat}
    (h : (Part.call name args span).nesting ≤ l) :
    ∃ m, l = m + 1 ∧ (∀ p ∈ name.parts, p.nesting ≤ m) ∧ ∀ a ∈ args, a.nesting ≤ m := by
  obtain ⟨hname, hargs⟩ := List.forall_mem_cons.mp (nesting_call_le.mp h)
  obtain ⟨m, rfl⟩ := Nat.exists_eq_add_one_of_ne_zero (Nat.ne_zero_of_lt hname)
  exact ⟨m, rfl, Statement.nesting_le.mp (Nat.le_of_lt_succ hname),
    fun a ha ↦ Nat.le_of_lt_succ (hargs a ha)⟩

theorem Activation.Settles.accounts {t u : Activation} (h : t.Settles u)
    (hargs : ∀ statement, t.args.Supplies statement → statement.nesting ≤ 255) {n : Nat} :
    t.state.Accounts n u.state := by
  have hlevel := h.level
  refine .of_costs ⟨fun hs f hf ↦ ?_, ?_, ?_, ?_⟩ hlevel.stopped
  · rcases h.functions f hf with hf | hf
    · exact hs f hf
    · exact hargs f.2 hf
  · rw [hlevel.counted, hlevel.steps]
  · rw [hlevel.errors, hlevel.steps]
  · rw [hlevel.counted, hlevel.steps, Nat.add_zero]

namespace Detour

variable {t : Activation} {q : Query} {statement : Statement} {s a : State} {leave : State → State}

theorem functions (h : Detour t q statement s leave) : s.functions = t.state.functions := by
  cases h <;> rfl

theorem supplies (h : Detour t q statement s leave) (hq : q.isActivation = false) :
    t.args.Supplies statement := by
  cases h with
  | reading h | iteration h | interception h => exact h
  | activation => cases hq

theorem nesting_le (h : Detour t q statement s leave)
    (hargs : ∀ statement, t.args.Supplies statement → statement.nesting ≤ 255)
    (hs : ShallowBodies t.state.functions) : statement.nesting ≤ 255 := by
  cases h with
  | reading h | iteration h | interception h => exact hargs statement h
  | activation name params h => exact hs _ (Table.mem_of_get? h)

theorem costs (h : Detour t q statement s leave) (houter : a.outer = s.outer) {n : Nat}
    (ha : s.Costs n a) : t.state.Costs n (leave a) := by
  cases h with
  | reading | iteration | interception => exact ⟨ha.functions, ha.calls, ha.errors, ha.steps⟩
  | activation name params _ =>
    rw [State.exit_eq houter]
    exact ⟨ha.functions, ha.calls, ha.errors, ha.steps⟩

theorem accounts (h : Detour t q statement s leave) (hq : q.isActivation = false)
    (houter : a.outer = s.outer) {n : Nat} (ha : s.Accounts n a) :
    t.state.Accounts n (leave a) := by
  have hcosts {m : Nat} (h' : s.Costs m a) : t.state.Costs m (leave a) := h.costs houter h'
  cases h with
  | activation => cases hq
  | reading | iteration | interception =>
    exact ⟨hcosts ha.whole, fun hrunning ↦ hcosts (ha.going hrunning),
      fun hstopped ↦ ⟨(ha.halted hstopped).1, hcosts (ha.halted hstopped).2⟩⟩

end Detour

theorem Binding.nesting_of_bind {signatures : List (Signature Handler)} {args : List Statement}
    {signature : Signature Handler} {bound : Arguments} {l : Nat}
    (hbind : Binding.bind signatures args = .ok (signature, bound))
    (hargs : ∀ a ∈ args, a.nesting ≤ l) : ∀ slot ∈ bound.slots, ∀ a ∈ slot, ∀ statement,
      a.source = .code statement → statement.nesting ≤ l := by
  intro slot hslot a ha statement hsource
  have hsupplies := Arguments.supplies_iff.mpr ⟨slot, hslot, a, ha, hsource⟩
  exact hargs statement (supplied_of_bind hbind hsupplies)

def Task.Nests (l : Nat) : Task → Prop
  | .parts ps _ => l ≤ 256 ∧ ∀ p ∈ ps, p.nesting ≤ l
  | .part p s => l ≤ 256 ∧ p.nesting ≤ l ∧ s.isRunning = true
  | .invocation _ args _ _ => l ≤ 255 ∧ ∀ a ∈ args, a.nesting ≤ l
  | .slot args _ => l ≤ 255 ∧ ∀ a ∈ args, ∀ statement, a.source = .code statement →
      statement.nesting ≤ l
  | .slots list _ => l ≤ 255 ∧ ∀ slot ∈ list, ∀ a ∈ slot, ∀ statement,
      a.source = .code statement → statement.nesting ≤ l
  | .script body t => l ≤ 255 ∧ (∀ statement, t.args.Supplies statement → statement.nesting ≤ l) ∧
      body.Careful t

def Task.Accounts (l : Nat) : (k : Task) → k.Result → Prop
  | .invocation _ _ _ s, r => (s.Costs 0 r.2 ∧ ∃ e, r.1 = .error e ∧ e.isTerminal = true) ∨
      (s.charged .calls).Costs 255 r.2
  | .script body t, r => t.state.Costs 255 r.2.state ∧
      (body.Asks (!·.isActivation) → t.state.Accounts l r.2.state)
  | k, r => k.before.Accounts l (k.after r)

/-- What is lost where a run stops is bounded by how deeply its calls are nested. A function may
lose as much and let the run go on, but it is entered in a call that is counted. -/
def Task.Accounted (k : Task) (r : k.Result) : Prop :=
  ∀ l, k.Nests l → ShallowBodies k.before.functions → k.Accounts l r

namespace Task.Accounted

section Calls

variable {svc : Services} {s : State} {name : Statement} {args : List Statement} {span : Span}
  {a : String × State} (ha : Accounted (.parts name.parts (svc.tick s).2) a)

include ha

theorem unnamed (hstopped : a.2.isRunning = false) :
    Accounted (.part (.call name args span) s) ("", a.2) := by
  rintro l ⟨hl, hpart, hrunning⟩ hs
  obtain ⟨l, rfl, hname, -⟩ := Part.nesting_call hpart
  have haccounts : (svc.tick s).2.Accounts l a.2 :=
    ha l ⟨Nat.le_of_succ_le hl, hname⟩ ((tick_counts svc s).1 ▸ hs)
  exact .stop (haccounts.whole.uncounted "" span (.ok none)) hrunning hstopped

theorem named {b : Outcome × State} (hgoing : a.2.isRunning = true)
    (hb : Accounted (.invocation (normalize a.1) args span a.2) b) :
    Accounted (.part (.call name args span) s) (conclude svc (normalize a.1) span b.1 b.2) := by
  rintro l ⟨hl, hpart, hrunning⟩ hs
  obtain ⟨l, rfl, hname, hargs⟩ := Part.nesting_call hpart
  have hticked : ShallowBodies (svc.tick s).2.functions := (tick_counts svc s).1 ▸ hs
  have haccounts : (svc.tick s).2.Accounts l a.2 := ha l ⟨Nat.le_of_succ_le hl, hname⟩ hticked
  have hcosts := haccounts.going hgoing
  -- Either nothing has been counted and the error ends the run, or the call pays for itself.
  rcases hb l ⟨Nat.le_of_succ_le_succ hl, hargs⟩ (hcosts.functions hticked) with
    ⟨hfree, e, hfailed, hterminal⟩ | hpaid
  · rw [hfailed]
    refine .stop ?_ hrunning (conclude_stops _ _ span hterminal b.2)
    exact ((hcosts.trans hfree).mono (Nat.zero_le l)).uncounted _ span _
  · refine .of_costs (hcosts.counted hpaid _ span b.1) fun hstopped ↦ ?_
    rw [hrunning] at hstopped
    cases hstopped

end Calls

section Bound

variable {name : String} {d : Definition Handler} {args : List Statement} {span : Span} {s : State}
  {signature : Signature Handler} {bound : Arguments} {a : List (List Argument) × State}
  (hbind : Binding.bind d.signatures args = .ok (signature, bound))
  (ha : Accounted (.slots bound.slots (s.called ⟨name, span⟩)) a)

include hbind ha

theorem resolved {l : Nat} (hnests : Nests l (.invocation name args span s))
    (hs : ShallowBodies s.functions) : (s.called ⟨name, span⟩).Accounts l a.2 :=
  ha l ⟨hnests.1, Binding.nesting_of_bind hbind hnests.2⟩ hs

theorem unstarted : Accounted (.invocation name args span s) (.ok none, a.2.popCall) := by
  intro l hnests hs
  have hcosts := (ha.resolved hbind hnests hs).whole.mono hnests.1
  exact Or.inr ⟨hcosts.functions, hcosts.calls, hcosts.errors, hcosts.steps⟩

/-- The arguments have not stopped the run, so that nothing is lost before the script. -/
theorem started {env : Env} (husual : env.registry.Usual)
    (hd : env.registry.lookup name = some d)
    (hends : Ends env (.slots bound.slots (s.called ⟨name, span⟩)) a)
    (hrunning : a.2.isRunning = true) {body : Invocation → Action (Option String)}
    (hbody : signature.handler = .script body) {b : Outcome × Activation}
    (hb : Accounted (.script
      (ExceptT.run (body ⟨name, env.services.plugins, env.services.origin⟩))
      ⟨{ bound with slots := a.1 }, a.2.started ⟨name, span⟩⟩) b) :
    Accounted (.invocation name args span s) (b.1, b.2.state.popCall) := by
  intro l hnests hs
  have hgoing := (ha.resolved hbind hnests hs).going hrunning
  have hcosts : (s.charged .calls).Costs 0 (a.2.started ⟨name, span⟩) :=
    ⟨hgoing.functions, hgoing.calls, hgoing.errors, hgoing.steps⟩
  have hsupplied (statement : Statement)
      (h : Arguments.Supplies { bound with slots := a.1 } statement) : statement.nesting ≤ l :=
    hnests.2 statement (hends.supplied hbind h)
  have hhandles := husual name d hd signature (Binding.mem_of_bind hbind)
  rw [hbody] at hhandles
  have hcareful := (hhandles.callsLast ⟨name, env.services.plugins, env.services.origin⟩).imp_right
    fun h ↦ And.intro h.1 (hends.settled hbind hrunning h.2)
  have hall := hcosts.trans (hb l ⟨hnests.1, hsupplied, hcareful⟩ (hcosts.functions hs)).1
  exact Or.inr ⟨hall.functions, hall.calls, hall.errors, hall.steps⟩

end Bound

section Scripts

variable {svc : Services} {q : Query} {next : q.Answer → Script Outcome} {t : Activation}
  {b : Outcome × Activation}

theorem answered {u : Activation} {a : q.Answer} (hneed : q.need svc t = .answered a u)
    (hb : Accounted (.script (next a) u) b) : Accounted (.script (.ask q next) t) b := by
  rintro l ⟨hl, hargs, hbody⟩ hs
  have hsettles := Query.settles_of_need hneed
  have hfirst {n : Nat} : t.state.Accounts n u.state :=
    hsettles.accounts fun statement h ↦ Nat.le_trans (hargs statement h) hl
  have hnext : Nests l (.script (next a) u) := by
    refine ⟨hl, fun statement h ↦ hargs statement ?_, hbody.answered hneed⟩
    rwa [Arguments.Supplies, hsettles.sources] at h
  obtain ⟨hcosts, haccounts⟩ := hb l hnext ((hfirst (n := 0)).whole.functions hs)
  exact ⟨hfirst.whole.trans hcosts, fun hasks ↦ hfirst.trans (haccounts (hasks.2 a))⟩

section Evaluated

variable {statement : Statement} {s : State} {resume : String → State → q.Answer × Activation}
  {a : String × State} (hneed : q.need svc t = .evaluates statement s resume)
  (houter : a.2.outer = s.outer) (ha : Accounted (.parts statement.parts s) a)

include hneed houter ha

theorem evaluated_argument (hasks : (Script.ask q next).Asks (!·.isActivation))
    (hb : Accounted (.script (next (resume a.1 a.2).1) (resume a.1 a.2).2) b) :
    Accounted (.script (.ask q next) t) b := by
  rintro l ⟨hl, hargs, -⟩ hs
  obtain ⟨leave, hdetour, hresume⟩ := Query.detour_of_need hneed
  have hq : q.isActivation = false := by simpa using hasks.1
  have hparts := Statement.nesting_le.mp (hargs statement (hdetour.supplies hq))
  have hthere : s.Accounts l a.2 :=
    ha l ⟨Nat.le_succ_of_le hl, hparts⟩ (hdetour.functions ▸ hs)
  have hback := hdetour.accounts hq houter hthere
  rw [← (hresume a.1 a.2).1] at hback
  have hnext : Nests l (.script (next (resume a.1 a.2).1) (resume a.1 a.2).2) := by
    refine ⟨hl, fun statement h ↦ hargs statement ?_, Or.inl (hasks.2 _)⟩
    rwa [Arguments.Supplies, (hresume a.1 a.2).2] at h
  have hrest := (hb l hnext (hback.whole.functions hs)).2 (hasks.2 _)
  exact ⟨(hback.trans hrest).whole.mono hl, fun _ ↦ hback.trans hrest⟩

theorem evaluated_function (hq : q.isActivation = true) {outcome : Outcome} :
    Accounted (.script (.ask q next) t) (outcome, (resume a.1 a.2).2) := by
  rintro l ⟨hl, hargs, -⟩ hs
  obtain ⟨leave, hdetour, hresume⟩ := Query.detour_of_need hneed
  have hparts := Statement.nesting_le.mp
    (hdetour.nesting_le (fun statement h ↦ Nat.le_trans (hargs statement h) hl) hs)
  have hthere : s.Accounts 255 a.2 :=
    ha 255 ⟨Nat.le_succ 255, hparts⟩ (hdetour.functions ▸ hs)
  have hback := hdetour.costs houter hthere.whole
  rw [← (hresume a.1 a.2).1] at hback
  exact ⟨hback, fun hasks ↦ absurd hasks.1 (by simp [hq])⟩

end Evaluated

end Scripts

end Task.Accounted

theorem Ends.accounts {env : Env} (husual : env.registry.Usual) {k : Task} {r : k.Result}
    (h : Ends env k r) : k.Accounted r := by
  induction h with
  | nil | stopped | literal | slotNil | slotsNil => exact fun l _ _ ↦ .refl _
  | done => exact fun l _ _ ↦ ⟨.refl _, fun _ ↦ .refl _⟩
  | @cons s part parts a b hrunning _ _ iha ihb =>
    rintro l ⟨hl, hparts⟩ hs
    obtain ⟨hpart, hparts⟩ := List.forall_mem_cons.mp hparts
    have hfirst : s.Accounts l a.2 := iha l ⟨hl, hpart, hrunning⟩ hs
    exact hfirst.trans (ihb l ⟨hl, hparts⟩ (hfirst.whole.functions hs))
  | @cancelled s name args span htick =>
    rintro l ⟨_, hpart, hrunning⟩ _
    obtain ⟨l, rfl, -, -⟩ := Part.nesting_call hpart
    have hcosts : (env.services.tick s).2.Costs l (env.services.tick s).2 := .refl _
    exact .stop (hcosts.uncounted "" span (.ok none)) hrunning (tick_isRunning_of_not htick)
  | unnamed _ _ _ _ hstopped iha => exact iha.unnamed hstopped
  | named _ _ hgoing _ iha ihb => exact iha.named hgoing ihb
  | unknown => exact fun l _ _ ↦ Or.inl ⟨.refl _, _, rfl, rfl⟩
  | uncounted => exact fun l _ _ ↦ Or.inl ⟨.of_eq rfl rfl rfl rfl, _, rfl, rfl⟩
  | deep => exact fun l _ _ ↦ Or.inr (.of_eq rfl rfl rfl rfl)
  | unbound => exact fun l _ _ ↦ Or.inr (.refl _)
  | unstarted _ _ hbind _ _ iha => exact iha.unstarted hbind
  | started hd _ hbind ha hrunning hbody _ iha ihb =>
    exact iha.started hbind husual hd ha hrunning hbody ihb
  | @eager a args s statement b c _ _ hsource _ _ ihb ihc =>
    rintro l ⟨hl, hargs⟩ hs
    obtain ⟨ha, hargs⟩ := List.forall_mem_cons.mp hargs
    have hparts := Statement.nesting_le.mp (ha statement hsource)
    have hfirst : s.Accounts l b.2 := ihb l ⟨Nat.le_succ_of_le hl, hparts⟩ hs
    exact hfirst.trans (ihc l ⟨hl, hargs⟩ (hfirst.whole.functions hs))
  | deferred _ _ ihc =>
    rintro l ⟨hl, hargs⟩ hs
    exact ihc l ⟨hl, (List.forall_mem_cons.mp hargs).2⟩ hs
  | @slotsCons slot slots s b c _ _ ihb ihc =>
    rintro l ⟨hl, hlist⟩ hs
    obtain ⟨hslot, hlist⟩ := List.forall_mem_cons.mp hlist
    have hfirst : s.Accounts l b.2 := ihb l ⟨hl, hslot⟩ hs
    exact hfirst.trans (ihc l ⟨hl, hlist⟩ (hfirst.whole.functions hs))
  | answered hneed _ ihb => exact ihb.answered hneed
  | evaluated hneed ha hb iha ihb =>
    intro l hnests
    rcases hnests.2.2.evaluated hneed with hasks | ⟨hq, hdone⟩
    · exact iha.evaluated_argument hneed ha.stacks_eq.2 hasks ihb l hnests
    · obtain ⟨outcome, hdone⟩ := hdone _
      rw [hdone] at hb
      cases hb
      exact iha.evaluated_function hneed ha.stacks_eq.2 hq l hnests

theorem Env.eval_uncounted {env : Env} (hscripted : env.registry.Scripted) {s : State}
    (hrunning : s.isRunning = true) (htick : (env.services.tick s).1 = true) (name : Statement)
    (args : List Statement) (span : Span) :
    let named := env.eval name (env.services.tick s).2
    let u := (env.eval (.mk [.call name args span] span) s).2
    named.2.isRunning = false ∨ env.registry.lookup (normalize named.1) = none →
      u.steps = named.2.steps ∧ u.usage = named.2.usage := by
  intro named u huncounted
  have hname : Ends env (.parts name.parts (env.services.tick s).2) named :=
    env.ends_eval hscripted name _
  obtain ⟨b, hb, hsteps, husage⟩ : ∃ b : String × State,
      Ends env (.part (.call name args span) s) b ∧ b.2.steps = named.2.steps ∧
        b.2.usage = named.2.usage := by
    cases hgoing : named.2.isRunning with
    | false => exact ⟨_, .unnamed args span htick hname hgoing, rfl, rfl⟩
    | true =>
      have hunknown : env.registry.lookup (normalize named.1) = none := by
        simpa [hgoing] using huncounted
      obtain ⟨-, husage, hsteps, -⟩ := conclude_counts env.services (normalize named.1) span
        (.error (.unknownSubtag (normalize named.1))) named.2
      exact ⟨_, .named htick hname hgoing (.unknown args span named.2 hunknown), hsteps, husage⟩
  have hall : Ends env (.parts (Statement.mk [.call name args span] span).parts s)
      (b.1 ++ "", b.2) := .cons hrunning hb (.nil b.2)
  have hu := congrArg Prod.snd hall.eq_eval
  change b.2 = u at hu
  rw [← hu]
  exact ⟨hsteps, husage⟩

namespace Engine

variable {e : Engine}

/-- Every counted call has a step, and all steps but as many as calls may be nested are paid for by
counted calls. The step of a call whose name stops the run, or is not known, is not counted. -/
theorem step_accounting (he : e.Standard) (source : String) (r : Request) (store : Store) :
    let env := e.env r
    let t := (e.run (parse source) r store).2
    let x := (e.execute source r store).1
    t.usage.used .calls ≤ x.steps ∧ x.steps ≤ 256 * (t.usage.used .calls + 1) ∧
    x.steps ≤ 256 * (env.services.limits.maxCalls + 1) ∧ x.errors.length ≤ x.steps ∧
    ∀ name args span s, s.isRunning = true → (env.services.tick s).1 = true →
      let s₁ := (env.services.tick s).2
      let named := env.eval name s₁
      let u := (env.eval (.mk [.call name args span] span) s).2
      named.2.isRunning = false ∨ e.registry.lookup (normalize named.1) = none →
        s₁.steps = s.steps + 1 ∧ s₁.usage = s.usage ∧
        u.steps = named.2.steps ∧ u.usage = named.2.usage := by
  intro env t x
  have hends := env.ends_eval he.scripted (parse source) (initial r store)
  have hnests : Task.Nests 256 (.parts (parse source).parts (initial r store)) :=
    ⟨Nat.le_refl 256, Statement.nesting_le.mp (nesting_parse source)⟩
  have haccounts : (initial r store).Accounts 256 t :=
    hends.accounts he.usual 256 hnests (by simp [ShallowBodies, initial])
  obtain ⟨-, hcalls, herrors, hsteps⟩ := haccounts.whole
  have hused : t.usage.calls ≤ env.services.limits.maxCalls :=
    run_used_le he (parse source) r store .calls
  have hreported : x.errors.length = t.errors.length := List.length_reverse
  change t.usage.calls + 0 ≤ 0 + t.steps at hcalls
  change t.errors.length + 0 ≤ 0 + t.steps at herrors
  change t.steps + 256 * 0 ≤ 0 + 256 * t.usage.calls + 256 at hsteps
  change t.usage.calls ≤ t.steps ∧ t.steps ≤ 256 * (t.usage.calls + 1) ∧
    t.steps ≤ _ ∧ x.errors.length ≤ t.steps ∧ _
  refine ⟨by omega, by omega, by omega, by omega, ?_⟩
  intro name args span s hrunning htick s₁ named u huncounted
  obtain ⟨-, husage, -, hticked⟩ := tick_counts env.services s
  exact ⟨hticked, husage, env.eval_uncounted he.scripted hrunning htick name args span huncounted⟩

/-- A function that returns in the name of a name, called three times, and then an unknown call:
seven steps of fifteen are not counted. -/
theorem step_accounting_returning :
    let source := "\x7bfunction;f;\x7b\x7b\x7breturn\x7d\x7d\x7d\x7d\x7brepeat;\x7bfunc.f\x7d;3\x7d\x7bnone\x7d"
    ∃ e : Engine, e.Standard ∧
      let t := (e.run (parse source) {} []).2
      let x := (e.execute source {} []).1
      t.usage.used .calls = 8 ∧ x.steps = 15 ∧ x.errors.length = 1 ∧
      t.usage.used .calls ≤ x.steps ∧ x.steps ≤ 256 * (t.usage.used .calls + 1) ∧
      x.errors.length ≤ x.steps := by
  intro source
  obtain ⟨e, -, he, hrun⟩ := exists_standard_of_any (b := { providers := [⟨"", .tag⟩] }) rfl rfl
    (p := fun e ↦ decide ((e.run (parse source) {} []).2.usage.used .calls = 8 ∧
      (e.execute source {} []).1.steps = 15 ∧ (e.execute source {} []).1.errors.length = 1))
    (by decide +kernel)
  obtain ⟨hcalls, hsteps, herrors⟩ := of_decide_eq_true hrun
  obtain ⟨hle, hsteps_le, -, herrors_le, -⟩ := step_accounting he source {} []
  exact ⟨e, he, hcalls, hsteps, herrors, hle, hsteps_le, herrors_le⟩

end Engine

end BraceScript
