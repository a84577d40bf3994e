import BraceScript.Proofs.Registry
import BraceScript.Proofs.Run.Selection
import BraceScript.Proofs.Run.Swapping

namespace BraceScript

theorem IsBlind.journal_suffix {α : Type} {f : State → α × State} (hf : IsBlind f) (s : State) :
    s.journal <:+ (f s).2.journal := by
  obtain ⟨-, new, hjournal, -⟩ := hf s
  exact ⟨new, hjournal.symm⟩

theorem Detour.journal_suffix {t : Activation} {q : Query} {statement : Statement} {s : State}
    {leave : State → State} (h : Detour t q statement s leave) (u : State) :
    t.state.journal <:+ s.journal ∧ u.journal <:+ (leave u).journal := by
  cases h with
  | reading => exact ⟨List.suffix_rfl, List.suffix_rfl⟩
  | iteration => exact ⟨List.suffix_cons _ _, List.suffix_rfl⟩
  | interception => exact ⟨List.suffix_rfl, List.suffix_rfl⟩
  | activation => exact ⟨List.suffix_cons _ _, isBlind_exit.journal_suffix u⟩

theorem Ends.journal_suffix {env : Env} {k : Task} {r : k.Result} (h : Ends env k r) :
    k.before.journal <:+ (k.after r).journal := by
  have htick (s : State) := (isBlind_tick env.services).journal_suffix s
  have hcalled (s : State) (frame : CallFrame) := (isBlind_called frame).journal_suffix s
  have hcharged (s : State) := (isBlind_charged .calls).journal_suffix s
  have hstarted (s : State) (frame : CallFrame) := (isBlind_started frame).journal_suffix s
  have hpopped (s : State) := isBlind_popCall.journal_suffix s
  have hconcluded (name : String) (span : Span) (outcome : Outcome) (s : State) :=
    (isBlind_conclude env.services name span outcome).journal_suffix s
  induction h with
  | nil | stopped | literal | unknown | slotNil | slotsNil | done => exact List.suffix_rfl
  | cons _ _ _ ih ih' => exact ih.trans ih'
  | cancelled => exact htick _
  | unnamed _ _ _ _ _ ih => exact (htick _).trans ih
  | named _ _ _ _ ih ih' =>
    exact (((htick _).trans ih).trans ih').trans (hconcluded _ _ _ _)
  | uncounted => exact (isBlind_refuse (α := Option String) _).journal_suffix _
  | deep => exact (hcharged _).trans ((isBlind_refuse (α := Option String) _).journal_suffix _)
  | unbound => exact hcharged _
  | unstarted _ _ _ _ _ ih => exact ((hcalled _ _).trans ih).trans (hpopped _)
  | started _ _ _ _ _ _ _ ih ih' =>
    exact ((((hcalled _ _).trans ih).trans (hstarted _ _)).trans ih').trans (hpopped _)
  | eager _ _ _ _ _ ih ih' => exact ih.trans ih'
  | deferred _ _ ih => exact ih
  | slotsCons _ _ ih ih' => exact ih.trans ih'
  | answered hneed _ ih =>
    obtain ⟨new, hjournal, -⟩ := (Query.settles_of_need hneed).level.journal
    exact List.IsSuffix.trans ⟨new, hjournal.symm⟩ ih
  | evaluated hneed _ _ ih ih' =>
    obtain ⟨leave, hdetour, hresume⟩ := Query.detour_of_need hneed
    obtain ⟨hentered, hleft⟩ := hdetour.journal_suffix _
    rw [← (hresume _ _).1] at hleft
    exact ((hentered.trans ih).trans hleft).trans ih'

namespace Subtags

/-- The form of a definition of a function: a name, and code that is kept as it is. -/
def functionSignature (description : String) : Signature Handler where
  parameters := [⟨"name", .eager, .required⟩, ⟨"code", .raw, .required⟩]
  description
  handler := .script defineFunction
  least := 2

theorem declares_function : Declares functionDeclaration functionSignature :=
  ⟨by simp [standardDeclarations, procedureDeclarations], _, _, _, rfl, rfl⟩

theorem standardDeclarations_escape : ∀ declaration ∈ standardDeclarations,
    Text.lower declaration.id = "escapebbtag" →
      declaration.family = false ∧ declaration.keys = ["escapebbtag", "escape"] := by
  decide +kernel

end Subtags

namespace Engine.Standard

variable {e : Engine} {name : String} {d : Definition Handler}

theorem function_of_lookup (he : e.Standard) (hd : e.registry.lookup name = some d)
    (hname : normalize name ∈ ["function", "func"]) :
    ∃ description, d.signatures = [Subtags.functionSignature description] := by
  have hkeys : ["function", "func"] = Subtags.functionDeclaration.keys := by decide +kernel
  rw [hkeys] at hname
  obtain ⟨d', hdeclaration, hd'⟩ := he.lookup_of_key Subtags.declares_function.mem hname
  obtain rfl : d = d' := Option.some.inj (hd.symm.trans hd')
  exact he.signatures_of_declares hd Subtags.declares_function
    (Definition.of_declaration hdeclaration).1

theorem name_of_escape (he : e.Standard) (hd : e.registry.lookup name = some d)
    (hid : d.id = "escapebbtag") : normalize name ∈ ["escapebbtag", "escape"] := by
  obtain ⟨standard, hcompiled, hregistry⟩ := he.exists_registered
  have hmeans := (Registry.holds_nil.registerAll hregistry).lookup name
  rw [List.nil_append, hd] at hmeans
  have hescape (hmem : d ∈ standard) :
      d.family = false ∧ Registry.keys d = ["escapebbtag", "escape"] := by
    obtain ⟨declaration, hdeclared, hdeclaration⟩ := exists_of_mem_mapM hcompiled hmem
    rw [Definition.keys_of_declaration hdeclaration]
    obtain ⟨signatures, -, rfl⟩ := Definition.eq_of_declaration hdeclaration
    exact Subtags.standardDeclarations_escape declaration hdeclared hid
  cases hmeans with
  | called hmem hkey => exact (hescape hmem).2 ▸ hkey
  | family _ hmem hfamily =>
    rw [(hescape hmem).1] at hfamily
    cases hfamily

end Engine.Standard

namespace Swap

variable {c : Swap} {around : List Span} {role : Role}

section Binding

theorem Kin.refl (a : Argument) : c.Kin around role a a := ⟨rfl, rfl, .same role _ _⟩

theorem Slots.refl (roles : Nat → Role) (slots : List (List Argument)) :
    c.Slots around roles slots slots := by
  induction slots generalizing roles with
  | nil => exact .nil roles
  | cons slot slots ih => exact .cons (List.forall₂_same.mpr fun a _ ↦ .refl a) (ih _)

theorem slots_assign {args args' : List Statement} (h : List.Forall₂ (c.Makes around) args args')
    (parameters : List Parameter) (surplus : Nat) :
    c.Slots around (fun _ ↦ .around) (Binding.assign parameters surplus args)
      (Binding.assign parameters surplus args') := by
  have hsupplied {xs ys : List Statement} (hxs : List.Forall₂ (c.Makes around) xs ys)
      (p : Parameter) (n : Nat) : List.Forall₂ (c.Kin around .around)
        ((xs.take n).map (.supplied p)) ((ys.take n).map (.supplied p)) := by
    rw [List.forall₂_map_left_iff, List.forall₂_map_right_iff]
    exact (List.forall₂_take n hxs).imp fun x y hmakes ↦ ⟨rfl, rfl, .code p hmakes⟩
  induction parameters generalizing surplus args args' with
  | nil => exact .nil _
  | cons p parameters ih =>
    rw [Binding.assign, Binding.assign]
    split
    · exact .cons (hsupplied h p 1) (ih (List.forall₂_drop 1 h) _)
    · split
      · exact .cons (hsupplied h p 1) (ih (List.forall₂_drop 1 h) _)
      · exact .cons (List.forall₂_same.mpr fun a _ ↦ .refl a) (ih h _)
    · exact .cons (hsupplied h p _) (ih (List.forall₂_drop _ h) _)

variable {signatures : List (Signature Handler)} {args args' : List Statement} {span : Span}

theorem Calls.bind_error (h : c.Calls around role args args' span) {e : Error}
    (hbind : Binding.bind signatures args = .error e) :
    Binding.bind signatures args' = .error e := by
  unfold Binding.bind at hbind ⊢
  rw [h.length_eq]
  split at hbind
  · exact hbind
  · cases hbind

theorem Calls.bind_ok (h : c.Calls around role args args' span) {signature : Signature Handler}
    {bound : Arguments} (hbind : Binding.bind signatures args = .ok (signature, bound))
    (hdefinition : role = .definition →
      ∃ description, signature = Subtags.functionSignature description) :
    ∃ bound', Binding.bind signatures args' = .ok (signature, bound') ∧
      c.Slots around role.slot bound.slots bound'.slots := by
  unfold Binding.bind at hbind ⊢
  rw [h.length_eq]
  cases hfind : signatures.find? (·.accepts args.length) with
  | none =>
    rw [hfind] at hbind
    cases hbind
  | some found =>
    rw [hfind] at hbind
    cases hbind
    refine ⟨_, rfl, ?_⟩
    cases h with
    | apart => exact .refl _ _
    | around hargs => exact slots_assign hargs _ _
    | definition =>
      obtain ⟨description, rfl⟩ := hdefinition rfl
      exact .cons (.cons (.refl _) .nil) (.cons (.cons ⟨rfl, rfl, .body rfl⟩ .nil) (.nil _))

end Binding

def Mirrored (env : Env) (c : Swap) (around : List Span) : (k : Task) → k.Result → Prop
  | .parts ps s, r => ∀ qs t, List.Forall₂ (c.MakesPart around) ps qs → c.States around s t →
    ∃ u, Ends env (.parts qs t) (r.1, u) ∧ c.States around r.2 u
  | .part p s, r => ∀ q t, c.MakesPart around p q → c.States around s t →
    ∃ u, Ends env (.part q t) (r.1, u) ∧ c.States around r.2 u
  | .invocation name args span s, r => ∀ role args' t, c.Calls around role args args' span →
    c.States around s t →
    ∃ u, Ends env (.invocation name args' span t) (r.1, u) ∧ c.States around r.2 u
  | .slot args s, r => ∀ role args' t, List.Forall₂ (c.Kin around role) args args' →
    c.States around s t →
    ∃ list u, Ends env (.slot args' t) (list, u) ∧ List.Forall₂ (c.Kin around role) r.1 list ∧
      c.States around r.2 u
  | .slots slots s, r => ∀ roles slots' t, c.Slots around roles slots slots' →
    c.States around s t →
    ∃ list u, Ends env (.slots slots' t) (list, u) ∧ c.Slots around roles r.1 list ∧
      c.States around r.2 u
  | .script body t, r => ∀ role u, body.Asks role.allows → c.Activations around role t u →
    ∃ v, Ends env (.script body u) (r.1, v) ∧ c.Activations around role r.2 v

theorem Kin.code_of_isEager {a b : Argument} (h : c.Kin around role a b) (ha : a.isEager = true)
    {x : Statement} (hsource : a.source = .code x) :
    ∃ y, b.source = .code y ∧ c.Makes around x y := by
  obtain ⟨p, source, value⟩ := a
  obtain ⟨p', source', value'⟩ := b
  obtain ⟨-, -, hsources⟩ := h
  cases hsources with
  | same =>
    cases hsource
    exact ⟨x, rfl, .refl x⟩
  | code _ hmakes =>
    cases hsource
    exact ⟨_, rfl, hmakes⟩
  | body hraw =>
    change p.mode = .raw at hraw
    simp [Argument.isEager, hraw] at ha

theorem defineFunction_asks (i : Invocation) :
    (Subtags.defineFunction i).Asks Role.definition.allows :=
  (Action.Asks.ask rfl).bind fun _ ↦
    .ite (.failing _) ((Action.Asks.ask rfl).bind fun _ ↦ Action.Asks.pure _)

section Standard

variable {e : Engine} (he : e.Standard) {name : String} {d : Definition Handler}
  (hd : e.registry.lookup name = some d) {args args' : List Statement} {span : Span}
  {signature : Signature Handler} {journal : List Event} (hidle : c.Idle around journal)
  (hcalled : .called ⟨name, span⟩ ∈ journal)

include he hd hidle hcalled

theorem Calls.signature_eq (hcalls : c.Calls around .definition args args' span)
    (hsignature : signature ∈ d.signatures) :
    ∃ description, signature = Subtags.functionSignature description := by
  cases hcalls
  have hname := hidle.defines ⟨name, c.span⟩ hcalled rfl
  obtain ⟨description, hone⟩ := he.function_of_lookup hd hname
  rw [hone, List.mem_singleton] at hsignature
  exact ⟨description, hsignature⟩

/-- What a call asks is allowed to it: it defines a function if it is in the place of the swap, and
it is no quotation if it is around it. -/
theorem Calls.asks_allows (hcalls : c.Calls around role args args' span)
    (hsignature : signature ∈ d.signatures) {body : Invocation → Action (Option String)}
    (hbody : signature.handler = .script body) (i : Invocation) : (body i).Asks role.allows := by
  cases role with
  | apart => exact ⟨Script.asks_of_forall (fun _ ↦ rfl) _⟩
  | around =>
    have hspan : span ∈ around := by
      cases hcalls
      assumption
    have hlisted := he.listed hd hsignature
    rw [hbody] at hlisted
    refine hlisted.unquoting (fun hid ↦ ?_) i
    exact hidle.unquoted _ hcalled hspan (he.name_of_escape hd hid)
  | definition =>
    obtain ⟨description, rfl⟩ := hcalls.signature_eq he hd hidle hcalled hsignature
    cases hbody
    exact defineFunction_asks i

theorem Calls.bind_standard (hcalls : c.Calls around role args args' span) {bound : Arguments}
    (hbind : Binding.bind d.signatures args = .ok (signature, bound)) :
    ∃ bound', Binding.bind d.signatures args' = .ok (signature, bound') ∧
      c.Slots around role.slot bound.slots bound'.slots := by
  refine hcalls.bind_ok hbind ?_
  rintro rfl
  exact hcalls.signature_eq he hd hidle hcalled (Binding.mem_of_bind hbind)

end Standard

section Rules

variable {env : Env} {s : State}

theorem Mirrored.cons {part : Part} {parts : List Part} {a b : String × State}
    (hrunning : s.isRunning = true) (ha : c.Mirrored env around (.part part s) a)
    (hb : c.Mirrored env around (.parts parts a.2) b) :
    c.Mirrored env around (.parts (part :: parts) s) (a.1 ++ b.1, b.2) := by
  intro qs t hparts hstate
  cases hparts with
  | cons hpart hrest =>
    obtain ⟨u, hu, hmid⟩ := ha _ t hpart hstate
    obtain ⟨v, hv, hend⟩ := hb _ u hrest hmid
    exact ⟨v, .cons (hstate.isRunning_eq.trans hrunning) hu hv, hend⟩

theorem Mirrored.cancelled (name : Statement) (args : List Statement) (span : Span)
    (htick : (env.services.tick s).1 = false) :
    c.Mirrored env around (.part (.call name args span) s) ("", (env.services.tick s).2) := by
  intro q t hpart hstate
  obtain ⟨name', args', role, rfl, -, -⟩ := hpart.of_call
  obtain ⟨hticks, hticked⟩ := (isBlind_tick _).states hstate
  exact ⟨_, .cancelled name' args' span (hticks.trans htick), hticked⟩

section Named

variable {name : Statement} {args : List Statement} {span : Span} {a : String × State}
  (htick : (env.services.tick s).1 = true)
  (ha : c.Mirrored env around (.parts name.parts (env.services.tick s).2) a)

include htick ha

theorem Mirrored.unnamed (hstopped : a.2.isRunning = false) :
    c.Mirrored env around (.part (.call name args span) s) ("", a.2) := by
  intro q t hpart hstate
  obtain ⟨name', args', role, rfl, hname, -⟩ := hpart.of_call
  obtain ⟨hticks, hticked⟩ := (isBlind_tick _).states hstate
  obtain ⟨u, hu, hmid⟩ := ha _ _ hname.parts hticked
  exact ⟨u, .unnamed args' span (hticks.trans htick) hu (hmid.isRunning_eq.trans hstopped), hmid⟩

theorem Mirrored.named {b : Outcome × State} (hrunning : a.2.isRunning = true)
    (hb : c.Mirrored env around (.invocation (normalize a.1) args span a.2) b) :
    c.Mirrored env around (.part (.call name args span) s)
      (conclude env.services (normalize a.1) span b.1 b.2) := by
  intro q t hpart hstate
  obtain ⟨name', args', role, rfl, hname, hcalls⟩ := hpart.of_call
  obtain ⟨hticks, hticked⟩ := (isBlind_tick _).states hstate
  obtain ⟨u, hu, hmid⟩ := ha _ _ hname.parts hticked
  obtain ⟨v, hv, hend⟩ := hb role args' u hcalls hmid
  obtain ⟨htext, hconcluded⟩ := (isBlind_conclude env.services _ span b.1).states hend
  refine ⟨_, ?_, hconcluded⟩
  rw [← htext]
  exact .named (hticks.trans htick) hu (hmid.isRunning_eq.trans hrunning) hv

end Named

section Refused

variable {name : String} {d : Definition Handler} (hd : env.registry.lookup name = some d)

include hd

theorem Mirrored.uncounted (args : List Statement) (span : Span)
    (hfull : env.services.limits.ceiling .calls ≤ s.usage.used .calls) :
    c.Mirrored env around (.invocation name args span s) (Services.refuse
      (.limitExceeded Resource.calls.label (env.services.limits.ceiling .calls)) s) := by
  intro role args' t hcalls hstate
  refine ⟨_, .uncounted args' span hd ?_, ((isBlind_refuse _).states hstate).2⟩
  cases hstate
  exact hfull

theorem Mirrored.deep (args : List Statement) (span : Span)
    (hbelow : s.usage.used .calls < env.services.limits.ceiling .calls)
    (hdeep : env.services.limits.maxDepth ≤ s.calls.length) :
    c.Mirrored env around (.invocation name args span s)
      (Services.refuse env.services.limits.depthExceeded (s.charged .calls)) := by
  intro role args' t hcalls hstate
  have hcharged := ((isBlind_charged .calls).states hstate).2
  refine ⟨_, .deep args' span hd ?_ ?_, ((isBlind_refuse _).states hcharged).2⟩
  · cases hstate
    exact hbelow
  · cases hstate
    exact hdeep

theorem Mirrored.unbound {args : List Statement} (span : Span) {e : Error}
    (hmay : s.MayCall env.services.limits) (hbind : Binding.bind d.signatures args = .error e) :
    c.Mirrored env around (.invocation name args span s) (.error e, s.charged .calls) := by
  intro role args' t hcalls hstate
  exact ⟨_, .unbound span hd (hstate.mayCall hmay) (hcalls.bind_error hbind),
    ((isBlind_charged .calls).states hstate).2⟩

end Refused

section Bound

variable {e : Engine} (he : e.Standard) {r : Request} {name : String} {d : Definition Handler}
  (hd : (e.env r).registry.lookup name = some d) {args : List Statement} {span : Span}
  (hmay : s.MayCall (e.env r).services.limits) {signature : Signature Handler} {bound : Arguments}
  (hbind : Binding.bind d.signatures args = .ok (signature, bound))
  {a : List (List Argument) × State} (hidle : c.Idle around a.2.journal)
  (hcalled : .called ⟨name, span⟩ ∈ a.2.journal)
  (ha : c.Mirrored (e.env r) around (.slots bound.slots (s.called ⟨name, span⟩)) a)

include he hd hmay hbind hidle hcalled ha

theorem Mirrored.unstarted (hstopped : a.2.isRunning = false) :
    c.Mirrored (e.env r) around (.invocation name args span s) (.ok none, a.2.popCall) := by
  intro role args' t hcalls hstate
  obtain ⟨bound', hbind', hslots⟩ := hcalls.bind_standard he hd hidle hcalled hbind
  have hpushed := ((isBlind_called ⟨name, span⟩).states hstate).2
  obtain ⟨list, u, hu, -, hmid⟩ := ha _ _ _ hslots hpushed
  exact ⟨_, .unstarted hd (hstate.mayCall hmay) hbind' hu (hmid.isRunning_eq.trans hstopped),
    (isBlind_popCall.states hmid).2⟩

theorem Mirrored.started {body : Invocation → Action (Option String)} {b : Outcome × Activation}
    (hrunning : a.2.isRunning = true) (hbody : signature.handler = .script body)
    (hb : c.Mirrored (e.env r) around
      (.script (ExceptT.run (body ⟨name, (e.env r).services.plugins, (e.env r).services.origin⟩))
        ⟨{ bound with slots := a.1 }, a.2.started ⟨name, span⟩⟩) b) :
    c.Mirrored (e.env r) around (.invocation name args span s) (b.1, b.2.state.popCall) := by
  intro role args' t hcalls hstate
  obtain ⟨bound', hbind', hslots⟩ := hcalls.bind_standard he hd hidle hcalled hbind
  have hasks := hcalls.asks_allows he hd hidle hcalled (Binding.mem_of_bind hbind) hbody
  have hpushed := ((isBlind_called ⟨name, span⟩).states hstate).2
  obtain ⟨list, u, hu, hlist, hmid⟩ := ha _ _ _ hslots hpushed
  have hstarted := ((isBlind_started ⟨name, span⟩).states hmid).2
  obtain ⟨v, hv, hend⟩ := hb role ⟨{ bound' with slots := list }, u.started ⟨name, span⟩⟩
    (hasks _).script ⟨hlist, hstarted⟩
  exact ⟨_, .started (b := (b.1, v)) hd (hstate.mayCall hmay) hbind' hu
    (hmid.isRunning_eq.trans hrunning) hbody hv, (isBlind_popCall.states hend.state).2⟩

end Bound

section Arguments

variable {a : Argument} {args : List Argument} {z : List Argument × State}

/-- The body in the place of the swap is not eager, so that the swap is made within eager code. -/
theorem Mirrored.eager {statement : Statement} {b : String × State} (heager : a.isEager = true)
    (hrunning : s.isRunning = true) (hsource : a.source = .code statement)
    (hb : c.Mirrored env around (.parts statement.parts s) b)
    (hz : c.Mirrored env around (.slot args b.2) z) :
    c.Mirrored env around (.slot (a :: args) s) ({ a with value? := some b.1 } :: z.1, z.2) := by
  intro role args' t hargs hstate
  cases hargs with
  | cons hkin hrest =>
    obtain ⟨y, hy, hmakes⟩ := hkin.code_of_isEager heager hsource
    obtain ⟨u, hu, hmid⟩ := hb _ t hmakes.parts hstate
    obtain ⟨list, v, hv, hlist, hend⟩ := hz role _ u hrest hmid
    have heager' := hkin.isEager_eq.trans heager
    exact ⟨_, v, .eager heager' (hstate.isRunning_eq.trans hrunning) hy hu hv,
      .cons (hkin.withValue _) hlist, hend⟩

theorem Mirrored.deferred (hdeferred : (a.isEager && s.isRunning) = false)
    (hz : c.Mirrored env around (.slot args s) z) :
    c.Mirrored env around (.slot (a :: args) s) (a :: z.1, z.2) := by
  intro role args' t hargs hstate
  cases hargs with
  | cons hkin hrest =>
    obtain ⟨list, v, hv, hlist, hend⟩ := hz role _ t hrest hstate
    refine ⟨_, v, .deferred ?_ hv, .cons hkin hlist, hend⟩
    rw [hkin.isEager_eq, hstate.isRunning_eq]
    exact hdeferred

theorem Mirrored.slotsCons {slot : List Argument} {slots : List (List Argument)}
    {b : List Argument × State} {z : List (List Argument) × State}
    (hb : c.Mirrored env around (.slot slot s) b) (hz : c.Mirrored env around (.slots slots b.2) z) :
    c.Mirrored env around (.slots (slot :: slots) s) (b.1 :: z.1, z.2) := by
  intro roles slots' t hslots hstate
  cases hslots with
  | cons hslot hrest =>
    obtain ⟨first, u, hu, hfirst, hmid⟩ := hb _ _ t hslot hstate
    obtain ⟨list, v, hv, hlist, hend⟩ := hz _ _ u hrest hmid
    exact ⟨_, v, .slotsCons hu hv, .cons hfirst hlist, hend⟩

end Arguments

section Scripts

variable {q : Query} {next : q.Answer → Script Outcome} {t : Activation} {b : Outcome × Activation}

theorem Mirrored.answered {u : Activation} {a : q.Answer}
    (hneed : q.need env.services t = .answered a u)
    (hb : c.Mirrored env around (.script (next a) u) b) :
    c.Mirrored env around (.script (.ask q next) t) b := by
  intro role t' hasks hactivations
  have hneeds := needs_of_allows env.services hasks.1 hactivations
  rw [hneed] at hneeds
  generalize hneed' : q.need env.services t' = need at hneeds
  cases hneeds with
  | answered _ hactivations' =>
    obtain ⟨v, hv, hend⟩ := hb role _ (hasks.2 a) hactivations'
    exact ⟨v, .answered hneed' hv, hend⟩

/-- A function that is called has not got the other body, so that the swap is made within its
code. -/
theorem Mirrored.evaluated {statement : Statement} {resume : String → State → q.Answer × Activation}
    {a : String × State} (hneed : q.need env.services t = .evaluates statement s resume)
    (hidle : c.Idle around s.journal) (ha : c.Mirrored env around (.parts statement.parts s) a)
    (hb : c.Mirrored env around (.script (next (resume a.1 a.2).1) (resume a.1 a.2).2) b) :
    c.Mirrored env around (.script (.ask q next) t) b := by
  intro role t' hasks hactivations
  have hneeds := needs_of_allows env.services hasks.1 hactivations
  rw [hneed] at hneeds
  generalize hneed' : q.need env.services t' = need at hneeds
  cases hneeds with
  | evaluates hmakes hstate hresume =>
    obtain ⟨u, hu, hmid⟩ := ha _ _ (hmakes hidle).parts hstate
    obtain ⟨hanswer, hactivations'⟩ := hresume a.1 a.2 u hmid
    obtain ⟨v, hv, hend⟩ := hb role _ (hasks.2 _) hactivations'
    rw [← hanswer] at hv
    exact ⟨v, .evaluated hneed' hu hv, hend⟩

end Scripts

end Rules

theorem mirrored_of_ends {e : Engine} (he : e.Standard) {r : Request} {k : Task} {x : k.Result}
    (h : Ends (e.env r) k x) (hidle : c.Idle around (k.after x).journal) :
    c.Mirrored (e.env r) around k x := by
  -- By induction on the derivation. What a part of the task has noted is an end of the journal of
  -- the whole, so that the swap is idle in the parts as well.
  induction h with
  | nil s =>
    intro qs t hparts hstate
    cases hparts
    exact ⟨t, .nil t, hstate⟩
  | stopped part parts hstopped =>
    intro qs t hparts hstate
    cases hparts
    exact ⟨t, .stopped _ _ (hstate.isRunning_eq.trans hstopped), hstate⟩
  | cons hrunning _ hb iha ihb =>
    exact .cons hrunning (iha (hidle.of_suffix hb.journal_suffix)) (ihb hidle)
  | literal text span s =>
    intro q t hpart hstate
    cases hpart
    exact ⟨t, .literal text span t, hstate⟩
  | cancelled name args span htick => exact .cancelled name args span htick
  | unnamed args span htick _ hstopped iha => exact .unnamed htick (iha hidle) hstopped
  | @named s name a args span b htick _ hrunning hb iha ihb =>
    have hblind := isBlind_conclude (e.env r).services (normalize a.1) span b.1
    have hidle' := hidle.of_suffix (hblind.journal_suffix b.2)
    exact .named htick (iha (hidle'.of_suffix hb.journal_suffix)) hrunning (ihb hidle')
  | unknown args span s hd =>
    intro role args' t hcalls hstate
    exact ⟨t, .unknown args' span t hd, hstate⟩
  | uncounted args span hd hfull => exact .uncounted hd args span hfull
  | deep args span hd hbelow hdeep => exact .deep hd args span hbelow hdeep
  | unbound span hd hmay hbind => exact .unbound hd span hmay hbind
  | @unstarted _ _ _ _ _ _ _ a hd hmay hbind ha hstopped iha =>
    have hidle' := hidle.of_suffix (isBlind_popCall.journal_suffix a.2)
    have hcalled := ha.journal_suffix.mem List.mem_cons_self
    exact .unstarted he hd hmay hbind hidle' hcalled (iha hidle') hstopped
  | @started name _ _ span _ _ _ a _ b hd hmay hbind ha hrunning hbody hb iha ihb =>
    have hidle' := hidle.of_suffix (isBlind_popCall.journal_suffix b.2.state)
    have hidle'' := (hidle'.of_suffix hb.journal_suffix).of_suffix
      ((isBlind_started ⟨name, span⟩).journal_suffix a.2)
    have hcalled := ha.journal_suffix.mem List.mem_cons_self
    exact .started he hd hmay hbind hidle'' hcalled (iha hidle'') hrunning hbody (ihb hidle')
  | slotNil s =>
    intro role args' t hargs hstate
    cases hargs
    exact ⟨[], t, .slotNil t, .nil, hstate⟩
  | eager heager hrunning hsource _ hz ihb ihz =>
    exact .eager heager hrunning hsource (ihb (hidle.of_suffix hz.journal_suffix)) (ihz hidle)
  | deferred hdeferred _ ihz => exact .deferred hdeferred (ihz hidle)
  | slotsNil s =>
    intro roles slots' t hslots hstate
    cases hslots
    exact ⟨[], t, .slotsNil t, .nil roles, hstate⟩
  | slotsCons _ hz ihb ihz =>
    exact .slotsCons (ihb (hidle.of_suffix hz.journal_suffix)) (ihz hidle)
  | done outcome t =>
    intro role u hasks hactivations
    exact ⟨u, .done outcome u, hactivations⟩
  | answered hneed _ ihb => exact .answered hneed (ihb hidle)
  | @evaluated _ _ _ _ _ _ a _ hneed ha hb iha ihb =>
    obtain ⟨leave, hdetour, hleave⟩ := Query.detour_of_need hneed
    have hleft := (hdetour.journal_suffix a.2).2
    rw [← (hleave a.1 a.2).1] at hleft
    have hidle' := (hidle.of_suffix hb.journal_suffix).of_suffix hleft
    exact .evaluated hneed (hidle'.of_suffix ha.journal_suffix) (iha hidle') (ihb hidle)

theorem execution_eq {e : Engine} (he : e.Standard) (r : Request) (store : Store) {x y : Statement}
    (hmakes : c.Makes around x y) (hidle : c.Idle around (e.run x r store).2.journal) :
    (e.run y r store).2.execution (e.run y r store).1 =
        (e.run x r store).2.execution (e.run x r store).1 ∧
      (e.run y r store).2.store = (e.run x r store).2.store := by
  have hends := (e.env r).ends_eval he.scripted x (Engine.initial r store)
  have hinitial : c.States around (Engine.initial r store) (Engine.initial r store) :=
    .amend (fun _ ↦ .none) rfl
  obtain ⟨u, hu, hstate⟩ := mirrored_of_ends he hends hidle _ _ hmakes.parts hinitial
  have hrun : e.run y r store = ((e.run x r store).1, u) := hu.eq_eval.symm
  rw [hrun]
  cases hstate
  exact ⟨rfl, rfl⟩

section Check

variable (c around)

/-- Whether the event may follow in the journal of a run that leaves the swap idle, where bodies are
told apart by their places. -/
def admits (earlier : List Event) : Event → Bool
  | .called frame =>
    (frame.span ≠ c.span || normalize frame.name ∈ ["function", "func"]) &&
      (frame.span ∉ around || normalize frame.name ∉ ["escapebbtag", "escape"])
  | .entered name =>
    ((Tally.ofJournal earlier).functions.get? (Text.lower name)).all (·.span ≠ c.body.span)
  | _ => true

def isIdle : List Event → Bool
  | [] => true
  | ev :: earlier => c.admits around earlier ev && isIdle earlier

theorem admits_of_isIdle {journal later earlier : List Event} {ev : Event}
    (h : c.isIdle around journal = true) (hsplit : journal = later ++ ev :: earlier) :
    c.admits around earlier ev = true := by
  induction later generalizing journal with
  | nil =>
    subst hsplit
    exact (Bool.and_eq_true_iff.mp h).1
  | cons first later ih =>
    subst hsplit
    exact ih (Bool.and_eq_true_iff.mp h).2 rfl

theorem idle_of_isIdle {journal : List Event} (h : c.isIdle around journal = true) :
    c.Idle around journal := by
  have hcalled (frame : CallFrame) (hframe : .called frame ∈ journal) :
      (frame.span = c.span → normalize frame.name ∈ ["function", "func"]) ∧
        (frame.span ∈ around → normalize frame.name ∉ ["escapebbtag", "escape"]) := by
    obtain ⟨later, earlier, hsplit⟩ := List.append_of_mem hframe
    obtain ⟨hdefines, hunquoted⟩ := Bool.and_eq_true_iff.mp (c.admits_of_isIdle around h hsplit)
    constructor
    · intro hspan
      simpa [hspan] using hdefines
    · intro hspan
      simpa [hspan] using hunquoted
  refine ⟨fun frame h ↦ (hcalled frame h).1, fun frame h ↦ (hcalled frame h).2, ?_⟩
  intro later name earlier hsplit hbody
  have hadmits := c.admits_of_isIdle around h hsplit
  rw [admits, hbody] at hadmits
  simp at hadmits

end Check

end Swap

namespace Engine

/-- Code that is not run makes no difference. A call that selects among its arguments does the same
whichever code stands in place of those that it does not need, and so does a document whichever body
a function has that is never called, unless a call around the definition is a quotation. -/
theorem unrun_code_inert {e : Engine} (he : e.Standard) (r : Request) :
    (∀ (fork : Fork) (s : State) (name : Statement) (args args' : List Statement)
      (span span' : Span), fork.Takes args.length → args'.length = args.length →
      (((e.env r).eval name ((e.env r).services.tick s).2).2.isRunning = true →
        normalize ((e.env r).eval name ((e.env r).services.tick s).2).1 = fork.id) →
      (∀ i, fork.Needs (e.env r) name args span s i → args'[i]? = args[i]?) →
      (e.env r).eval (.mk [.call name args' span] span') s =
        (e.env r).eval (.mk [.call name args span] span') s) ∧
    ∀ (c : Swap) (around : List Span) (x y : Statement) (store : Store), c.Makes around x y →
      c.Idle around (e.run x r store).2.journal →
      (e.run y r store).2.execution (e.run y r store).1 =
          (e.run x r store).2.execution (e.run x r store).1 ∧
        (e.run y r store).2.store = (e.run x r store).2.store := by
  constructor
  · intro fork s name args args' span span' htakes hlength hname hsame
    exact Fork.eval_eq_of_needs he r s htakes hlength hname hsame span'
  · intro c around x y store hmakes hidle
    exact Swap.execution_eq he r store hmakes hidle

def word (text : String) (i : Nat) : Statement :=
  let span : Span := ⟨⟨i, 1, i⟩, ⟨i + 1, 1, i + 1⟩⟩
  .mk [.literal text span] span

/-- A document that calls one function and defines another one, with this body, in a branch. -/
def rehearsal (body : Statement) : Statement :=
  let call (name : String) (args : List Statement) (i : Nat) : Part :=
    .call (word name i) args (word name i).span
  .mk [call "function" [word "g" 1, word "x" 2] 3,
    call "if" [word "true" 4, .mk [call "function" [word "f" 5, body] 6] (word "" 6).span] 7,
    call "func.g" [] 8] (word "" 0).span

theorem unrun_code_inert_rehearsal :
    let fails := parse "\x7bthrow;no\x7d"
    let span := (word "" 9).span
    let args := [word "1" 1, word "a" 2, word "b" 3, word "c" 4]
    let args' := [word "1" 1, fails, word "b" 3, fails]
    let c : Swap := ⟨word "function" 6, word "f" 5, word "a" 9, fails, (word "" 6).span⟩
    ∃ e : Engine, e.Standard ∧
      (e.env {}).eval (.mk [.call (word "choose" 0) args' span] span) {} =
        (e.env {}).eval (.mk [.call (word "choose" 0) args span] span) {} ∧
      c.Makes [(word "" 7).span] (rehearsal c.body) (rehearsal fails) ∧
      c.Idle [(word "" 7).span] (e.run (rehearsal c.body) {} []).2.journal ∧
      (e.run (rehearsal fails) {} []).1 = "x" := by
  intro fails span args args' c
  obtain ⟨e, -, he, hrun⟩ := exists_standard_of_any (b := { providers := [⟨"", .tag⟩] }) rfl rfl
    (p := fun e ↦
      let ready := Fork.choose.ready (e.env {}) (word "choose" 0) args span {}
      decide (normalize ((e.env {}).eval (word "choose" 0) ((e.env {}).services.tick {}).2).1 =
          "choose" ∧
        (Fork.choose.select ⟨Fork.choose.id, (e.env {}).services.plugins,
          (e.env {}).services.origin⟩ ready.1 ready.2.draws 3).toOption = some 1 ∧
        c.isIdle [(word "" 7).span] (e.run (rehearsal c.body) {} []).2.journal = true ∧
        (e.run (rehearsal c.body) {} []).1 = "x"))
    (by decide +kernel)
  obtain ⟨hname, hselect, hidle, houtput⟩ := of_decide_eq_true hrun
  obtain ⟨hfork, hswap⟩ := unrun_code_inert he {}
  have hmakes : c.Makes [(word "" 7).span] (rehearsal c.body) (rehearsal fails) :=
    .mk _ (.cons (.same _) (.cons (.call (.refl _) (.cons (.refl _)
      (.cons (.mk _ (.cons .here .nil)) .nil)) (.inl List.mem_cons_self)) (.cons (.same _) .nil)))
  have hidle := c.idle_of_isIdle _ hidle
  have hsame := (hswap c _ _ _ [] hmakes hidle).1
  have htakes : Fork.choose.Takes args.length := by
    change 2 ≤ 4
    decide
  refine ⟨e, he, hfork .choose {} _ args args' span span htakes rfl (fun _ ↦ hname) ?_,
    hmakes, hidle, (congrArg Execution.output hsame).trans houtput⟩
  rintro i (hi | ⟨j, rfl, -, hruns⟩)
  · obtain rfl : i = 0 := Nat.lt_one_iff.mp hi
    rfl
  · cases hruns with
    | selected h =>
      change Fork.choose.select _ _ _ 3 = .ok j at h
      rw [h] at hselect
      cases hselect
      rfl

/-- A quotation shows the source text of a definition that is run later and never called. -/
theorem quoted_body_shows :
    let document (body : String) := "\x7bset;n;escapebbtag\x7d\x7brepeat;" ++
      "\x7b\x7bget;n\x7d;\x7bfunction;f;" ++ body ++ "\x7d\x7d\x7bset;n;void\x7d;2\x7d"
    ∃ e : Engine, e.Standard ∧
      (e.execute (document "a") {} []).1.output = "\x7bfunction;f;a\x7d" ∧
      (e.execute (document "b") {} []).1.output = "\x7bfunction;f;b\x7d" ∧
      (e.run (parse (document "a")) {} []).2.functions.length = 1 ∧
      ∀ name, .entered name ∉ (e.run (parse (document "a")) {} []).2.journal := by
  intro document
  obtain ⟨e, -, he, hrun⟩ := exists_standard_of_any (b := { providers := [⟨"", .tag⟩] }) rfl rfl
    (p := fun e ↦ decide ((e.execute (document "a") {} []).1.output = "\x7bfunction;f;a\x7d" ∧
      (e.execute (document "b") {} []).1.output = "\x7bfunction;f;b\x7d" ∧
      (e.run (parse (document "a")) {} []).2.functions.length = 1 ∧
      (e.run (parse (document "a")) {} []).2.journal.all (fun ev ↦ match ev with
        | .entered _ => false
        | _ => true) = true))
    (by decide +kernel)
  obtain ⟨ha, hb, hfunctions, hjournal⟩ := of_decide_eq_true hrun
  refine ⟨e, he, ha, hb, hfunctions, fun name hname ↦ ?_⟩
  cases List.all_eq_true.mp hjournal _ hname

end Engine

end BraceScript
