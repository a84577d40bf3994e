import BraceScript.Proofs.Run.Derivation
import BraceScript.Proofs.Run.Repertoire
import Mathlib.Data.List.Forall2

namespace BraceScript

/-- A call with two arguments, and another one for the second of them. -/
structure Swap where
  name : Statement
  head : Statement
  body : Statement
  other : Statement
  span : Span

mutual

/-- The second statement is the first one with the swap made in it. The calls among whose arguments
it is made stand at the places `around`. -/
inductive Swap.Makes (c : Swap) (around : List Span) : Statement → Statement → Prop
  | mk {ps qs : List Part} (span : Span) (h : List.Forall₂ (Swap.MakesPart c around) ps qs) :
    Swap.Makes c around (.mk ps span) (.mk qs span)

inductive Swap.MakesPart (c : Swap) (around : List Span) : Part → Part → Prop
  | same (p : Part) : Swap.MakesPart c around p p
  | here : Swap.MakesPart c around (.call c.name [c.head, c.body] c.span)
      (.call c.name [c.head, c.other] c.span)
  | call {name name' : Statement} {args args' : List Statement} {span : Span}
    (hname : Swap.Makes c around name name')
    (hargs : List.Forall₂ (Swap.Makes c around) args args')
    (hspan : span ∈ around ∨ args' = args) :
    Swap.MakesPart c around (.call name args span) (.call name' args' span)

end

namespace Swap

inductive Role where
  | apart
  | around
  | definition

def Role.slot : Role → Nat → Role
  | definition, 0 => apart
  | role, _ => role

def Role.allows : Role → Query → Bool
  | apart, _ => true
  | around, q => !q.isQuotation
  | definition, .value 0 _ | definition, .define _ _ => true
  | definition, _ => false

variable (c : Swap) (around : List Span)

inductive Calls : Role → List Statement → List Statement → Span → Prop
  | apart (args : List Statement) (span : Span) : Calls .apart args args span
  | around {args args' : List Statement} {span : Span}
    (hargs : List.Forall₂ (c.Makes around) args args') (hspan : span ∈ around) :
    Calls .around args args' span
  | definition : Calls .definition [c.head, c.body] [c.head, c.other] c.span

inductive Bodies : Statement → Statement → Prop
  | made {x y : Statement} (h : c.Makes around x y) : Bodies x y
  | swapped : Bodies c.body c.other

/-- What a run must do for the swap to make no difference to it. The call defines a function
whenever it is reached, no call around it is a quotation, and no function that has the body is
called. -/
structure Idle (journal : List Event) : Prop where
  defines : ∀ frame, .called frame ∈ journal → frame.span = c.span →
    normalize frame.name ∈ ["function", "func"]
  unquoted : ∀ frame, .called frame ∈ journal → frame.span ∈ around →
    normalize frame.name ∉ ["escapebbtag", "escape"]
  uncalled : ∀ later name earlier, journal = later ++ .entered name :: earlier →
    (Tally.ofJournal earlier).functions.get? (Text.lower name) ≠ some c.body

variable {c around}

theorem Makes.refl (x : Statement) : c.Makes around x x := by
  cases x with
  | mk parts span => exact .mk span (List.forall₂_same.mpr fun p _ ↦ .same p)

theorem Makes.parts {x y : Statement} (h : c.Makes around x y) :
    List.Forall₂ (c.MakesPart around) x.parts y.parts := by
  cases h with
  | mk span h => exact h

theorem MakesPart.of_call {name : Statement} {args : List Statement} {span : Span} {p : Part}
    (h : c.MakesPart around (.call name args span) p) :
    ∃ name' args' role, p = .call name' args' span ∧ c.Makes around name name' ∧
      c.Calls around role args args' span := by
  cases h with
  | same => exact ⟨name, args, .apart, rfl, .refl name, .apart args span⟩
  | here => exact ⟨c.name, _, .definition, rfl, .refl c.name, .definition⟩
  | @call _ name' _ args' _ hname hargs hspan =>
    rcases hspan with hspan | rfl
    · exact ⟨name', args', .around, rfl, hname, .around hargs hspan⟩
    · exact ⟨name', args', .apart, rfl, hname, .apart args' span⟩

theorem Calls.length_eq {role : Role} {args args' : List Statement} {span : Span}
    (h : c.Calls around role args args' span) : args'.length = args.length := by
  cases h with
  | apart => rfl
  | around hargs => exact hargs.length_eq.symm
  | definition => rfl

theorem Idle.of_suffix {journal earlier : List Event} (h : c.Idle around journal)
    (hsuffix : earlier <:+ journal) : c.Idle around earlier where
  defines frame hframe := h.defines frame (hsuffix.mem hframe)
  unquoted frame hframe := h.unquoted frame (hsuffix.mem hframe)
  uncalled later name first hjournal := by
    obtain ⟨new, rfl⟩ := hsuffix
    refine h.uncalled (new ++ later) name first ?_
    rw [hjournal, List.append_assoc]

end Swap

def Event.isDefinition : Event → Bool
  | defined _ _ => true
  | _ => false

theorem Tally.functions_append {new : List Event} (hnew : ∀ ev ∈ new, ev.isDefinition = false)
    (journal : List Event) :
    (ofJournal (new ++ journal)).functions = (ofJournal journal).functions := by
  induction new with
  | nil => rfl
  | cons ev new ih =>
    obtain ⟨hev, hnew⟩ := List.forall_mem_cons.mp hnew
    rw [List.cons_append, ofJournal, ← ih hnew]
    cases ev with
    | defined => cases hev
    | _ => rfl

def State.amend (s : State) (functions : Table String Statement) (journal : List Event) : State :=
  { s with functions, journal }

/-- The computation depends neither on the functions nor on the journal, and it defines nothing. -/
def IsBlind {α : Type} (f : State → α × State) : Prop :=
  ∀ s, (f s).2.functions = s.functions ∧ ∃ new, (f s).2.journal = new ++ s.journal ∧
    (∀ ev ∈ new, ev.isDefinition = false) ∧ ∀ functions journal,
      f (s.amend functions journal) = ((f s).1, (f s).2.amend functions (new ++ journal))

/-- The second state is the one of a run with the swap made, where the first is the one without. -/
inductive Swap.States (c : Swap) (around : List Span) (s : State) : State → Prop
  | amend {functions : Table String Statement} {journal : List Event}
    (hfunctions : ∀ key, Option.Rel (c.Bodies around) (s.functions.get? key) (functions.get? key))
    (hcurrent : (Tally.ofJournal s.journal).functions = s.functions) :
    Swap.States c around s (s.amend functions journal)

section Blind

variable {α β : Type}

theorem IsBlind.states {f : State → α × State} (hf : IsBlind f) {c : Swap} {around : List Span}
    {s t : State} (h : c.States around s t) :
    (f t).1 = (f s).1 ∧ c.States around (f s).2 (f t).2 := by
  cases h with
  | amend hfunctions hcurrent =>
    obtain ⟨hkept, new, hjournal, hnew, hamend⟩ := hf s
    rw [hamend]
    refine ⟨rfl, .amend (hkept ▸ hfunctions) ?_⟩
    rw [hjournal, Tally.functions_append hnew, hcurrent, hkept]

theorem IsBlind.congr {f g : State → α × State} (hf : IsBlind f) (h : ∀ s, g s = f s) :
    IsBlind g := by
  rw [funext h]
  exact hf

theorem isBlind_pure (a : α) : IsBlind fun s ↦ (a, s) :=
  fun _ ↦ ⟨rfl, [], rfl, by simp, fun _ _ ↦ rfl⟩

theorem isBlind_note (a : α) (ev : Event) (h : ev.isDefinition = false) :
    IsBlind fun s ↦ (a, s.note ev) :=
  fun _ ↦ ⟨rfl, [ev], rfl, by simpa using h, fun _ _ ↦ rfl⟩

theorem isBlind_read {p : State → α}
    (hp : ∀ s functions journal, p (s.amend functions journal) = p s) :
    IsBlind fun s ↦ (p s, s) :=
  fun s ↦ ⟨rfl, [], rfl, by simp, fun functions journal ↦ congrArg (·, _) (hp s functions journal)⟩

theorem IsBlind.ite {p : State → Bool}
    (hp : ∀ s functions journal, p (s.amend functions journal) = p s)
    {f g : State → α × State} (hf : IsBlind f) (hg : IsBlind g) :
    IsBlind fun s ↦ if p s then f s else g s := by
  intro s
  simp only [hp]
  cases p s with
  | true => exact hf s
  | false => exact hg s

theorem IsBlind.bind {f : State → α × State} {g : α → State → β × State} (hf : IsBlind f)
    (hg : ∀ a, IsBlind (g a)) : IsBlind fun s ↦ g (f s).1 (f s).2 := by
  intro s
  obtain ⟨hkept, new, hjournal, hnew, hamend⟩ := hf s
  obtain ⟨hkept', new', hjournal', hnew', hamend'⟩ := hg (f s).1 (f s).2
  refine ⟨hkept'.trans hkept, new' ++ new, ?_, ?_, fun functions journal ↦ ?_⟩
  · rw [hjournal', hjournal, List.append_assoc]
  · exact fun ev hev ↦ (List.mem_append.mp hev).elim (hnew' ev) (hnew ev)
  · dsimp only
    rw [hamend, hamend', List.append_assoc]

section Changes

theorem isBlind_started (frame : CallFrame) : IsBlind fun s ↦ ((), s.started frame) :=
  fun s ↦ ⟨rfl, [.started frame.name frame.span s.calls.length], rfl, by simp [Event.isDefinition],
    fun _ _ ↦ rfl⟩

theorem isBlind_charged (r : Resource) : IsBlind fun s ↦ ((), s.charged r) :=
  fun _ ↦ ⟨rfl, [.charged r], rfl, by simp [Event.isDefinition], fun _ _ ↦ rfl⟩

theorem isBlind_called (frame : CallFrame) : IsBlind fun s ↦ ((), s.called frame) :=
  fun _ ↦ ⟨rfl, [.called frame, .charged .calls], rfl, by simp [Event.isDefinition], fun _ _ ↦ rfl⟩

theorem isBlind_popCall : IsBlind fun s ↦ ((), s.popCall) :=
  fun _ ↦ ⟨rfl, [.finished], rfl, by simp [Event.isDefinition], fun _ _ ↦ rfl⟩

theorem isBlind_pushCatch : IsBlind fun s ↦ ((), s.pushCatch) :=
  fun _ ↦ ⟨rfl, [], rfl, by simp, fun _ _ ↦ rfl⟩

theorem isBlind_popCatch : IsBlind fun s ↦ ((), s.popCatch) :=
  fun _ ↦ ⟨rfl, [], rfl, by simp, fun _ _ ↦ rfl⟩

theorem isBlind_enter (name : String) (params : List String) :
    IsBlind fun s ↦ ((), s.enter name params) :=
  fun _ ↦ ⟨rfl, [.entered name], rfl, by simp [Event.isDefinition], fun _ _ ↦ rfl⟩

theorem isBlind_exit : IsBlind fun s ↦ ((), s.exit) := by
  rintro ⟨_ | _ | _, frame, _ | ⟨f, outer⟩⟩ <;>
    exact ⟨rfl, [.exited], rfl, by simp [Event.isDefinition], fun _ _ ↦ rfl⟩

theorem isBlind_record (e : LocatedError) : IsBlind fun s ↦ ((), s.record e) := by
  rintro ⟨phase, frame, outer, calls, usage, errors, _ | ⟨caught, rest⟩⟩
  · exact ⟨rfl, [.recorded e], rfl, by simp [Event.isDefinition], fun _ _ ↦ rfl⟩
  · refine ⟨?_, [.recorded e], ?_, by simp [Event.isDefinition], fun _ _ ↦ ?_⟩ <;>
      cases h : e.error.isTerminal <;> simp [State.record, State.note, State.amend, h]

end Changes

section Services

variable (svc : Services)

theorem isBlind_refuse {α : Type} (e : Error) : IsBlind (Services.refuse (α := α) e) :=
  isBlind_note _ _ rfl

theorem isBlind_tick : IsBlind svc.tick := by
  have hstepped : IsBlind fun s ↦ ((), s.stepped) :=
    fun _ ↦ ⟨rfl, [.stepped], rfl, by simp [Event.isDefinition], fun _ _ ↦ rfl⟩
  have hyielded : IsBlind fun s ↦ ((), { s with
      yields := s.yields + 1
      tripped := s.tripped || svc.tripsAt (s.yields + 1) }.note .yielded) :=
    fun _ ↦ ⟨rfl, [.yielded], rfl, by simp [Event.isDefinition], fun _ _ ↦ rfl⟩
  have hyield : IsBlind fun s ↦ ((), svc.yieldIfDue s) :=
    (IsBlind.ite (fun _ _ _ ↦ rfl) hyielded (isBlind_pure ())).congr fun s ↦
      apply_ite (Prod.mk ()) _ _ _
  have hlook : IsBlind svc.look := IsBlind.ite (p := svc.isSignalled) (fun _ _ _ ↦ rfl)
    (fun _ ↦ ⟨rfl, [.cancelled], rfl, by simp [Event.isDefinition], fun _ _ ↦ rfl⟩)
    (isBlind_pure true)
  exact (hstepped.bind fun _ ↦ hyield).bind fun _ ↦ hlook

theorem isBlind_charge (r : Resource) : IsBlind (svc.charge r) := by
  have hcharge : svc.charge r = fun s ↦
      if decide (svc.limits.ceiling r ≤ s.usage.used r)
      then Services.refuse (.limitExceeded r.label (svc.limits.ceiling r)) s
      else (.ok (), s.charged r) := by
    funext s
    simp only [Services.charge_eq, decide_eq_true_eq]
  rw [hcharge]
  exact IsBlind.ite (fun _ _ _ ↦ rfl) (isBlind_refuse _)
    (fun _ ↦ ⟨rfl, [.charged r], rfl, by simp [Event.isDefinition], fun _ _ ↦ rfl⟩)

theorem isBlind_request {α : Type} (ask : Directory → Except Error α) :
    IsBlind (svc.request ask) := by
  unfold Services.request
  cases svc.directory? with
  | none => exact isBlind_pure _
  | some directory =>
    let next (answer : Except Error Unit) (s : State) : Except Error α × State :=
      (answer.bind fun _ ↦ ask directory, if answer.isOk then s.note .requested else s)
    have hnext (answer : Except Error Unit) : IsBlind (next answer) := by
      cases answer with
      | error e => exact isBlind_pure _
      | ok _ => exact isBlind_note _ _ rfl
    refine ((isBlind_charge svc .requests).bind hnext).congr fun s ↦ ?_
    rcases svc.charge .requests s with ⟨_ | _, u⟩ <;> rfl

theorem isBlind_conclude (name : String) (span : Span) (outcome : Outcome) :
    IsBlind (conclude svc name span outcome) := by
  cases outcome with
  | ok text => exact isBlind_pure _
  | error e =>
    have hread : IsBlind fun s ↦ ((placeholder svc e s, s.stack), s) := isBlind_read fun _ _ _ ↦ rfl
    have hphase : IsBlind fun s ↦
        ((), { s with phase := if e.isTerminal then .aborted else s.phase }) :=
      fun _ ↦ ⟨rfl, [], rfl, by simp, fun _ _ ↦ rfl⟩
    have hfail := hread.bind fun r ↦ (hphase.bind fun _ ↦ isBlind_record ⟨span, name, e, r.2⟩).bind
      fun _ ↦ isBlind_pure r.1
    exact hfail.congr fun s ↦ Prod.ext rfl (fail_eq svc name span e s)

theorem isBlind_stored (change : Store → Except Error Store) (raw : String) (restoring : Bool) :
    IsBlind fun s ↦ Services.noteWrite raw restoring s (match change s.store with
      | .error e => .error e
      | .ok store => .ok { s with store }) := by
  let next (result : Except Error Store) (s : State) : Except Error Unit × State :=
    match result with
    | .error e => (.error e, s)
    | .ok store => (.ok (), { s with store }.note (.wrote raw restoring))
  have hnext (result : Except Error Store) : IsBlind (next result) := by
    cases result with
    | error e => exact isBlind_pure _
    | ok store =>
      exact fun _ ↦ ⟨rfl, [.wrote raw restoring], rfl, by simp [Event.isDefinition], fun _ _ ↦ rfl⟩
  have hread : IsBlind fun s ↦ (change s.store, s) := isBlind_read fun _ _ _ ↦ rfl
  refine (hread.bind hnext).congr fun s ↦ ?_
  cases change s.store <;> rfl

theorem isBlind_temporaries (change : Table String Value → Table String Value) (raw : String)
    (restoring : Bool) :
    IsBlind fun s ↦ Services.noteWrite raw restoring s (.ok (Services.withTemporaries s change)) :=
  fun _ ↦ ⟨rfl, [.wrote raw restoring], rfl, by simp [Event.isDefinition], fun _ _ ↦ rfl⟩

theorem isBlind_assign (raw : String) (value : Value) (restoring : Bool) :
    IsBlind fun s ↦ Services.noteWrite raw restoring s (svc.assign raw value s) := by
  unfold Services.assign
  rcases svc.locate raw with e | ⟨_ | scope, name⟩
  · exact isBlind_pure _
  · exact isBlind_temporaries _ raw restoring
  · exact isBlind_stored (·.write svc.faults ⟨scope, name⟩ value) raw restoring

theorem isBlind_unset (raw : String) (restoring : Bool) :
    IsBlind fun s ↦ Services.noteWrite raw restoring s (svc.unset raw s) := by
  unfold Services.unset
  rcases svc.locate raw with e | ⟨_ | scope, name⟩
  · exact isBlind_pure _
  · exact isBlind_temporaries _ raw restoring
  · exact isBlind_stored (·.reset svc.faults scope [name]) raw restoring

theorem isBlind_effect {q : Query} (hq : q.isPlain = true)
    (hfunction : ∀ name, q ≠ .hasFunction name) : IsBlind (q.effect svc) := by
  cases q with
  | value | again | attempt | activate | raw | count | supplied | define => cases hq
  | hasFunction name => exact absurd rfl (hfunction name)
  | running | frame => exact isBlind_read fun _ _ _ ↦ rfl
  | getVariable name => exact isBlind_read (p := svc.getVariable name) fun _ _ _ ↦ rfl
  | leave forced =>
    exact fun s ↦ ⟨rfl, [.left forced s.outer.length], rfl, by simp [Event.isDefinition],
      fun _ _ ↦ rfl⟩
  | iterate => exact isBlind_charge svc .loops
  | setVariable name value => exact isBlind_assign svc name value false
  | resetVariable name => exact isBlind_unset svc name false
  | restoreVariable name previous =>
    cases previous with
    | none => exact isBlind_unset svc name true
    | some value => exact isBlind_assign svc name value true
  | setQuiet | setFallback | pick | shuffle =>
    exact fun _ ↦ ⟨rfl, [], rfl, by simp, fun _ _ ↦ rfl⟩
  | findEntity => exact isBlind_request svc _
  | listEntities => exact isBlind_request svc _

end Services

end Blind

section Lists

variable {α : Type} {R : α → α → Prop} {xs ys : List α}

theorem forall₂_modify (h : List.Forall₂ R xs ys) {f g : α → α} (hfg : ∀ x y, R x y → R (f x) (g y))
    (i : Nat) : List.Forall₂ R (xs.modify i f) (ys.modify i g) := by
  induction h generalizing i with
  | nil => cases i <;> exact .nil
  | cons hxy hrest ih =>
    cases i with
    | zero => exact .cons (hfg _ _ hxy) hrest
    | succ i => exact .cons hxy (ih i)

theorem rel_getElem? (h : List.Forall₂ R xs ys) (i : Nat) : Option.Rel R xs[i]? ys[i]? := by
  induction h generalizing i with
  | nil => exact .none
  | cons hxy _ ih =>
    cases i with
    | zero => exact .some hxy
    | succ i => exact ih i

end Lists

namespace Swap

variable (c : Swap) (around : List Span)

/-- Where an argument of a call in this role comes from, before and after the swap. -/
inductive Sources : Role → Parameter → ArgumentSource → ArgumentSource → Prop
  | same (role : Role) (p : Parameter) (source : ArgumentSource) : Sources role p source source
  | code (p : Parameter) {x y : Statement} (h : c.Makes around x y) :
    Sources .around p (.code x) (.code y)
  -- The body is source text to its call, which does not run it.
  | body {p : Parameter} (h : p.mode = .raw) : Sources .definition p (.code c.body) (.code c.other)

structure Kin (role : Role) (a b : Argument) : Prop where
  parameter : b.parameter = a.parameter
  value : b.value? = a.value?
  source : c.Sources around role a.parameter a.source b.source

inductive Slots : (Nat → Role) → List (List Argument) → List (List Argument) → Prop
  | nil (roles : Nat → Role) : Slots roles [] []
  | cons {roles : Nat → Role} {x y : List Argument} {xs ys : List (List Argument)}
    (h : List.Forall₂ (c.Kin around (roles 0)) x y) (hrest : Slots (fun i ↦ roles (i + 1)) xs ys) :
    Slots roles (x :: xs) (y :: ys)

structure Activations (role : Role) (t u : Activation) : Prop where
  slots : c.Slots around role.slot t.args.slots u.args.slots
  state : c.States around t.state u.state

variable {c around} {role : Role}

theorem Kin.isSupplied_eq {a b : Argument} (h : c.Kin around role a b) :
    b.isSupplied = a.isSupplied := by
  obtain ⟨p, source, value⟩ := a
  obtain ⟨p', source', value'⟩ := b
  obtain ⟨-, -, hsource⟩ := h
  cases hsource <;> rfl

theorem Kin.isEager_eq {a b : Argument} (h : c.Kin around role a b) : b.isEager = a.isEager := by
  rw [Argument.isEager, Argument.isEager, h.parameter, h.isSupplied_eq]

theorem Kin.source_cases {a b : Argument} (hrole : role ≠ .definition) (h : c.Kin around role a b) :
    (∃ text, a.source = .default text ∧ b.source = .default text) ∨
    ∃ x y, a.source = .code x ∧ b.source = .code y ∧ c.Makes around x y := by
  obtain ⟨p, source, value⟩ := a
  obtain ⟨p', source', value'⟩ := b
  obtain ⟨-, -, hsource⟩ := h
  cases hsource with
  | same =>
    cases source with
    | default text => exact Or.inl ⟨text, rfl, rfl⟩
    | code x => exact Or.inr ⟨x, x, rfl, rfl, .refl x⟩
  | code _ hmakes => exact Or.inr ⟨_, _, rfl, rfl, hmakes⟩
  | body => exact absurd rfl hrole

theorem Kin.withValue {a b : Argument} (h : c.Kin around role a b) (text : String) :
    c.Kin around role { a with value? := some text } { b with value? := some text } :=
  ⟨h.parameter, rfl, h.source⟩

theorem Kin.statement? {a b : Argument} (h : c.Kin around role a b) :
    Option.Rel (c.Bodies around) a.statement? b.statement? := by
  obtain ⟨p, source, value⟩ := a
  obtain ⟨p', source', value'⟩ := b
  obtain ⟨-, -, hsource⟩ := h
  cases hsource with
  | same =>
    cases source with
    | default text => exact .none
    | code x => exact .some (.made (.refl x))
  | code _ hmakes => exact .some (.made hmakes)
  | body => exact .some .swapped

theorem Slots.getD {roles : Nat → Role} {xs ys : List (List Argument)}
    (h : c.Slots around roles xs ys) (i : Nat) : List.Forall₂ (c.Kin around (roles i)) (xs.getD i []) (ys.getD i []) := by
  induction h generalizing i with
  | nil => exact .nil
  | cons hslot _ ih =>
    cases i with
    | zero => exact hslot
    | succ i => exact ih i

theorem Slots.keep {roles : Nat → Role} {xs ys : List (List Argument)}
    (h : c.Slots around roles xs ys) (i j : Nat) (text : String) :
    let keep (slot : List Argument) := slot.modify j fun a ↦ { a with value? := some text }
    c.Slots around roles (xs.modify i keep) (ys.modify i keep) := by
  induction h generalizing i with
  | nil roles => cases i <;> exact .nil roles
  | cons hslot hrest ih =>
    cases i with
    | zero => exact .cons (forall₂_modify hslot (fun _ _ hkin ↦ hkin.withValue text) j) hrest
    | succ i => exact .cons hslot (ih i)

namespace Activations

variable {t u : Activation}

theorem all (h : c.Activations around role t u) (i : Nat) :
    List.Forall₂ (c.Kin around (role.slot i)) (t.args.all i) (u.args.all i) :=
  h.slots.getD i

theorem at? (h : c.Activations around role t u) (i j : Nat) :
    Option.Rel (c.Kin around (role.slot i)) (t.args.at? i j) (u.args.at? i j) :=
  rel_getElem? (h.all i) j

theorem keep (h : c.Activations around role t u) (i j : Nat) (text : String) {v w : State}
    (hstate : c.States around v w) :
    c.Activations around role (t.keep i j text v) (u.keep i j text w) :=
  ⟨h.slots.keep i j text, hstate⟩

theorem withState (h : c.Activations around role t u) {v w : State} (hstate : c.States around v w) :
    c.Activations around role ⟨t.args, v⟩ ⟨u.args, w⟩ :=
  ⟨h.slots, hstate⟩

end Activations

namespace States

variable {s t : State}

theorem isRunning_eq (h : c.States around s t) : t.isRunning = s.isRunning := by
  cases h
  rfl

theorem current (h : c.States around s t) :
    (Tally.ofJournal s.journal).functions = s.functions := by
  cases h with
  | amend _ hcurrent => exact hcurrent

theorem caught_eq (h : c.States around s t) : t.caught = s.caught := by
  cases h
  rfl

theorem mayCall (h : c.States around s t) {limits : Limits} (hmay : s.MayCall limits) :
    t.MayCall limits := by
  cases h
  exact hmay

theorem function? (h : c.States around s t) (name : String) :
    Option.Rel (c.Bodies around) (Services.function? name s) (Services.function? name t) := by
  cases h with
  | amend hfunctions => exact hfunctions (Text.lower name)

theorem define (h : c.States around s t) {x y : Statement} (hxy : c.Bodies around x y)
    (name : String) : c.States around (Services.define name x s) (Services.define name y t) := by
  cases h with
  | amend hfunctions hcurrent =>
    refine .amend (fun key ↦ ?_) ?_
    · change Option.Rel _ (Table.get? (Table.set _ _ _) key) (Table.get? (Table.set _ _ _) key)
      rw [Table.get?_set, Table.get?_set]
      split
      · exact .some hxy
      · exact hfunctions key
    · exact congrArg (Table.set · (Text.lower name) x) hcurrent

end States

/-- What it takes to answer a question in the two runs. -/
inductive Needs (c : Swap) (around : List Span) (role : Role) {q : Query} : q.Need → q.Need → Prop
  | answered (a : q.Answer) {t u : Activation} (h : c.Activations around role t u) :
    Needs c around role (.answered a t) (.answered a u)
  | evaluates {x y : Statement} {s t : State}
    {resume resume' : String → State → q.Answer × Activation}
    (hmakes : c.Idle around s.journal → c.Makes around x y) (hstate : c.States around s t)
    (hresume : ∀ text v w, c.States around v w → (resume' text w).1 = (resume text v).1 ∧
      c.Activations around role (resume text v).2 (resume' text w).2) :
    Needs c around role (.evaluates x s resume) (.evaluates y t resume')

section Needs

variable {svc : Services} {t u : Activation}

theorem needs_value (h : c.Activations around role t u) {i : Nat} (hrole : role.slot i ≠ .definition)
    (j : Nat) :
    c.Needs around role ((Query.value i j).need svc t) ((Query.value i j).need svc u) := by
  have hat := h.at? i j
  simp only [Query.need]
  generalize t.args.at? i j = x at hat ⊢
  generalize u.args.at? i j = y at hat ⊢
  cases hat with
  | none => exact .answered _ h
  | @some a b hkin =>
    dsimp only
    rw [hkin.value]
    cases a.value? with
    | some text => exact .answered _ h
    | none =>
      rcases hkin.source_cases hrole with ⟨text, ha, hb⟩ | ⟨x, y, ha, hb, hmakes⟩
      · rw [ha, hb]
        exact .answered _ (h.keep i j text h.state)
      · rw [ha, hb]
        exact .evaluates (fun _ ↦ hmakes) h.state fun text _ _ hv ↦ ⟨rfl, h.keep i j text hv⟩

theorem needs_again (h : c.Activations around role t u) {i : Nat}
    (hrole : role.slot i ≠ .definition) :
    c.Needs around role ((Query.again i).need svc t) ((Query.again i).need svc u) := by
  have hat := h.at? i 0
  have hiterated := ((isBlind_note () .iterated rfl).states h.state).2
  simp only [Query.need]
  generalize t.args.at? i 0 = x at hat ⊢
  generalize u.args.at? i 0 = y at hat ⊢
  cases hat with
  | none => exact .answered _ h
  | @some a b hkin =>
    dsimp only
    rcases hkin.source_cases hrole with ⟨text, ha, hb⟩ | ⟨x, y, ha, hb, hmakes⟩
    · rw [ha, hb]
      exact .answered _ (h.withState hiterated)
    · rw [ha, hb]
      exact .evaluates (fun _ ↦ hmakes) hiterated fun text _ _ hv ↦ ⟨rfl, h.withState hv⟩

theorem needs_attempt (h : c.Activations around role t u) {i : Nat}
    (hrole : role.slot i ≠ .definition) :
    c.Needs around role ((Query.attempt i).need svc t) ((Query.attempt i).need svc u) := by
  have hat := h.at? i 0
  simp only [Query.need]
  generalize t.args.at? i 0 = x at hat ⊢
  generalize u.args.at? i 0 = y at hat ⊢
  cases hat with
  | none => exact .answered _ h
  | @some a b hkin =>
    dsimp only
    rw [hkin.value]
    cases a.value? with
    | some text => exact .answered _ h
    | none =>
      rcases hkin.source_cases hrole with ⟨text, ha, hb⟩ | ⟨x, y, ha, hb, hmakes⟩
      · rw [ha, hb]
        exact .answered _ (h.keep i 0 text h.state)
      · rw [ha, hb]
        refine .evaluates (fun _ ↦ hmakes) (isBlind_pushCatch.states h.state).2 fun text v w hv ↦ ?_
        have hleft := (isBlind_popCatch.states hv).2
        simp only [hv.caught_eq]
        cases v.caught.isEmpty with
        | true => exact ⟨rfl, h.keep i 0 text hleft⟩
        | false => exact ⟨rfl, h.withState hleft⟩

theorem needs_activate (h : c.Activations around role t u) (name : String) (params : List String) :
    c.Needs around role ((Query.activate name params).need svc t)
      ((Query.activate name params).need svc u) := by
  have hbody := h.state.function? name
  have hentered := ((isBlind_enter name params).states h.state).2
  have hresume (text : String) (v w : State) (hv : c.States around v w) :
      text = text ∧ c.Activations around role ⟨t.args, v.exit⟩ ⟨u.args, w.exit⟩ :=
    ⟨rfl, h.withState (isBlind_exit.states hv).2⟩
  simp only [Query.need]
  cases hfound : Services.function? name t.state with
  | none =>
    rw [hfound] at hbody
    generalize Services.function? name u.state = y at hbody ⊢
    cases hbody
    exact .answered _ h
  | some x =>
    rw [hfound] at hbody
    generalize Services.function? name u.state = y at hbody ⊢
    cases hbody with
    | some hbody =>
      refine .evaluates (fun hidle ↦ ?_) hentered hresume
      cases hbody with
      | made hmakes => exact hmakes
      | swapped =>
        refine absurd ?_ (hidle.uncalled [] name t.state.journal rfl)
        rw [h.state.current]
        exact hfound

theorem needs_define (h : c.Activations around role t u) (name : String) (i : Nat) :
    c.Needs around role ((Query.define name i).need svc t) ((Query.define name i).need svc u) := by
  have hbody : Option.Rel (c.Bodies around) ((t.args.at? i 0).bind Argument.statement?)
      ((u.args.at? i 0).bind Argument.statement?) := by
    have hat := h.at? i 0
    generalize t.args.at? i 0 = x at hat ⊢
    generalize u.args.at? i 0 = y at hat ⊢
    cases hat with
    | none => exact .none
    | some hkin => exact hkin.statement?
  simp only [Query.need, Query.answer, Arguments.get?]
  generalize (t.args.at? i 0).bind Argument.statement? = x at hbody ⊢
  generalize (u.args.at? i 0).bind Argument.statement? = y at hbody ⊢
  cases hbody with
  | none => exact .answered _ h
  | some hbody => exact .answered _ (h.withState (h.state.define hbody name))

/-- Questions about the arguments that leave everything as it is have the same answers. -/
theorem needs_reading {q : Query} {a : Activation → q.Answer}
    (hneed : ∀ t, q.need svc t = .answered (a t) t) (h : c.Activations around role t u)
    (ha : a u = a t) : c.Needs around role (q.need svc t) (q.need svc u) := by
  rw [hneed, hneed, ha]
  exact .answered _ h

theorem needs_raw (h : c.Activations around .apart t u) (i j : Nat) :
    c.Needs around .apart ((Query.raw i j).need svc t) ((Query.raw i j).need svc u) := by
  refine needs_reading (fun _ ↦ rfl) h ?_
  change ((u.args.at? i j).map Argument.raw).getD "" = ((t.args.at? i j).map Argument.raw).getD ""
  have hat := h.at? i j
  generalize t.args.at? i j = x at hat ⊢
  generalize u.args.at? i j = y at hat ⊢
  cases hat with
  | none => rfl
  | @some a b hkin =>
    have hraw : b.raw = a.raw := by
      obtain ⟨p, source, value⟩ := a
      obtain ⟨p', source', value'⟩ := b
      obtain ⟨-, -, hsource⟩ := hkin
      cases hsource
      rfl
    exact hraw

theorem needs_supplied (h : c.Activations around role t u) (i : Nat) :
    c.Needs around role ((Query.supplied i).need svc t) ((Query.supplied i).need svc u) := by
  refine needs_reading (fun _ ↦ rfl) h ?_
  change (u.args.at? i 0).any Argument.isSupplied = (t.args.at? i 0).any Argument.isSupplied
  have hat := h.at? i 0
  generalize t.args.at? i 0 = x at hat ⊢
  generalize u.args.at? i 0 = y at hat ⊢
  cases hat with
  | none => rfl
  | some hkin => exact hkin.isSupplied_eq

theorem needs_hasFunction (h : c.Activations around role t u) (name : String) :
    c.Needs around role ((Query.hasFunction name).need svc t)
      ((Query.hasFunction name).need svc u) := by
  refine needs_reading (fun _ ↦ rfl) h ?_
  change (Services.function? name u.state).isSome = (Services.function? name t.state).isSome
  have hbody := h.state.function? name
  generalize Services.function? name t.state = x at hbody ⊢
  generalize Services.function? name u.state = y at hbody ⊢
  cases hbody <;> rfl

theorem needs_effect {q : Query} (hplain : q.isPlain = true)
    (hfunction : ∀ name, q ≠ .hasFunction name)
    (hneed : ∀ t, q.need svc t =
      .answered (q.effect svc t.state).1 ⟨t.args, (q.effect svc t.state).2⟩)
    (h : c.Activations around role t u) : c.Needs around role (q.need svc t) (q.need svc u) := by
  obtain ⟨hanswer, hstate⟩ := (isBlind_effect svc hplain hfunction).states h.state
  rw [hneed, hneed, hanswer]
  exact .answered _ (h.withState hstate)

theorem needs_of_allows (svc : Services) {q : Query} (hq : role.allows q = true)
    (h : c.Activations around role t u) :
    c.Needs around role (q.need svc t) (q.need svc u) := by
  have hslot {i : Nat} (hi : role = .definition → i = 0) : role.slot i ≠ .definition := by
    cases role with
    | definition =>
      rw [hi rfl]
      nofun
    | _ => nofun
  cases q with
  | value i j =>
    refine needs_value h (hslot ?_) j
    rintro rfl
    cases i with
    | zero => rfl
    | succ i => cases hq
  | again i =>
    refine needs_again h (hslot ?_)
    rintro rfl
    cases hq
  | attempt i =>
    refine needs_attempt h (hslot ?_)
    rintro rfl
    cases hq
  | activate name params => exact needs_activate h name params
  | define name i => exact needs_define h name i
  | raw i j =>
    cases role with
    | apart => exact needs_raw h i j
    | around => cases hq
    | definition => cases hq
  | count i => exact needs_reading (fun _ ↦ rfl) h (h.all i).length_eq.symm
  | supplied i => exact needs_supplied h i
  | hasFunction name => exact needs_hasFunction h name
  | _ => exact needs_effect rfl (fun _ ↦ nofun) (fun _ ↦ rfl) h

end Needs

end Swap

end BraceScript
