import BraceScript.Proofs.Run.Strictness

namespace BraceScript

/-- The arguments of parameter `i` have been given these texts. -/
def Arguments.Holds (a : Arguments) (i : Nat) (texts : List String) : Prop :=
  (a.all i).map Argument.value? = texts.map some

theorem Action.exec_collect_from {svc : Services} {eval : Eval} {t : Activation}
    {ask : Nat → Action String} {texts : List String}
    (h : ∀ i text, texts[i]? = some text → (ask i).exec svc eval t = (.ok text, t))
    {start count : Nat} (hcount : start + count ≤ texts.length) :
    (collect ask start count).exec svc eval t = (.ok ((texts.drop start).take count), t) := by
  induction count generalizing start with
  | zero => rfl
  | succ count ih =>
    have hstart : start < texts.length := by omega
    rw [collect, exec_bind, h start _ (List.getElem?_eq_getElem hstart)]
    dsimp only
    rw [exec_bind, ih (by omega : start + 1 + count ≤ texts.length),
      List.drop_eq_getElem_cons hstart, List.take_succ_cons]
    rfl

theorem Action.exec_collect {svc : Services} {eval : Eval} {t : Activation}
    {ask : Nat → Action String} {texts : List String}
    (h : ∀ i text, texts[i]? = some text → (ask i).exec svc eval t = (.ok text, t)) :
    (collect ask 0 texts.length).exec svc eval t = (.ok texts, t) := by
  rw [exec_collect_from h (Nat.le_of_eq (Nat.zero_add _)), List.drop_zero, List.take_length]

namespace Arguments.Holds

variable {svc : Services} {eval : Eval} {t : Activation} {i : Nat} {texts : List String}

theorem length_eq (h : t.args.Holds i texts) : (t.args.all i).length = texts.length := by
  simpa using congrArg List.length h

theorem exec_valueAt (h : t.args.Holds i texts) {j : Nat} {text : String}
    (hj : texts[j]? = some text) : (Action.valueAt i j).exec svc eval t = (.ok text, t) := by
  have hat : (t.args.at? i j).map Argument.value? = some (some text) := by
    rw [Arguments.at?, ← List.getElem?_map, h, List.getElem?_map, hj]
    rfl
  obtain ⟨a, ha, hvalue⟩ := Option.map_eq_some_iff.mp hat
  change (Except.ok (t.value eval i j).1, (t.value eval i j).2) = _
  rw [Activation.value, ha]
  dsimp only
  rw [hvalue]

theorem exec_value {text : String} (h : t.args.Holds i (text :: texts)) :
    (Action.value i).exec svc eval t = (.ok text, t) :=
  h.exec_valueAt rfl

theorem exec_values (h : t.args.Holds i texts) :
    (Action.values i).exec svc eval t = (.ok texts, t) := by
  have hcount : (Action.count i).exec svc eval t = (.ok (t.args.all i).length, t) := rfl
  rw [Action.values, Action.exec_bind, hcount, h.length_eq]
  dsimp only
  exact Action.exec_collect fun i text hi ↦ h.exec_valueAt hi

end Arguments.Holds

/-- Where all arguments are eager, each parameter has been given its part of the texts. -/
theorem Arguments.Filled.exists_texts {bound filled : Arguments} {texts : List String}
    (h : bound.Filled texts filled) (heager : ∀ a ∈ bound.slots.flatten, a.isEager = true) :
    ∃ lists : List (List String), lists.flatten = texts ∧
      lists.map List.length = bound.slots.map List.length ∧ ∀ i, filled.Holds i (lists.getD i []) := by
  have hsome : ∀ a ∈ filled.slots.flatten, a.value?.isSome = true := by
    intro a ha
    have hfresh : a.fresh ∈ bound.slots.flatten := by
      rw [← h.fresh, ← List.map_flatten]
      exact List.mem_map_of_mem ha
    exact (h.eager a ha).trans (heager a.fresh hfresh :)
  have hslot : ∀ slot ∈ filled.slots,
      slot.map Argument.value? = (slot.filterMap Argument.value?).map some := by
    intro slot hslot
    have hall : ∀ a ∈ slot, a.value?.isSome = true :=
      fun a ha ↦ hsome a (List.mem_flatten_of_mem hslot ha)
    clear hslot
    induction slot with
    | nil => rfl
    | cons a slot ih =>
      obtain ⟨ha, hall⟩ := List.forall_mem_cons.mp hall
      obtain ⟨text, htext⟩ := Option.isSome_iff_exists.mp ha
      simp [htext, ih hall]
  refine ⟨filled.slots.map (·.filterMap Argument.value?), ?_, ?_, ?_⟩
  · rw [← List.filterMap_flatten]
    exact h.texts
  · rw [← h.fresh, List.map_map, List.map_map]
    refine List.map_congr_left fun slot hmem ↦ ?_
    simpa using (congrArg List.length (hslot slot hmem)).symm
  · intro i
    unfold Arguments.Holds Arguments.all
    rw [List.getD_eq_getElem?_getD, List.getD_eq_getElem?_getD, List.getElem?_map]
    cases hi : filled.slots[i]? with
    | none => rfl
    | some slot => exact hslot slot (List.mem_of_getElem? hi)

namespace BoundCall

variable {e : Engine} {r : Request} {s : State} {name : Statement} {args : List Statement}
  {span : Span} (c : BoundCall (e.env r) s name args span)

def invocation : Invocation :=
  ⟨c.frame.name, (e.env r).services.plugins, (e.env r).services.origin⟩

theorem handled_of_script {body : Invocation → Action (Option String)}
    (h : c.signature.handler = .script body) :
    c.handled = (body c.invocation).exec (e.env r).services (e.env r).eval c.opening := by
  unfold handled
  rw [h]
  rfl

theorem exists_texts (heager : ∀ a ∈ c.bound.slots.flatten, a.isEager = true)
    (hall : c.bound.slots.flatten.filterMap Argument.statement? = args)
    (hstarts : c.resolved.2.isRunning = true) :
    ∃ lists : List (List String),
      evalEach (e.env r).eval args c.entered = (lists.flatten, c.resolved.2) ∧
      lists.map List.length = c.bound.slots.map List.length ∧
      ∀ i, c.opening.args.Holds i (lists.getD i []) := by
  have hcode : Argument.codeOf .eager c.bound.slots.flatten = args := by
    refine Eq.trans ?_ hall
    refine List.filterMap_congr fun a ha ↦ ?_
    rw [if_pos (a.isEager_iff.mp (heager a ha)).1]
  obtain ⟨lists, htexts, hlengths, hholds⟩ :=
    (resolveSlots_filled c.value?_bound hstarts).exists_texts heager
  have hstate := c.resolved_eq
  rw [hcode] at htexts hstate
  exact ⟨lists, Prod.ext htexts.symm hstate.symm, hlengths, hholds⟩

end BoundCall

def Signature.Fixed {η : Type} (s : Signature η) : Prop :=
  ∀ p ∈ s.parameters, p.arity = .required

namespace Signature.Fixed

variable {η : Type} {s : Signature η}

theorem least_eq (h : s.Fixed) : s.least = s.parameters.length := by
  have hunrepeated : ∀ p ∈ s.parameters, p.repeat?.isSome = false := by
    intro p hp
    simp [Parameter.repeat?, h p hp]
  have hoptional : s.parameters.countP Parameter.isOptional = 0 := by
    rw [List.countP_eq_zero]
    intro p hp
    simp [Parameter.isOptional, h p hp]
  have hdemand := Binding.demand_of_unrepeated hunrepeated
  rwa [hoptional, Nat.add_zero, ← Binding.least_eq_demand] at hdemand

theorem greatest?_eq (h : s.Fixed) : s.greatest? = some s.parameters.length := by
  unfold greatest?
  rw [if_neg]
  simp only [List.any_eq_true, not_exists, not_and]
  intro p hp
  simp [Parameter.repeat?, h p hp]

end Signature.Fixed

def Signature.AllRequired {η : Type} (s : Signature η) : Prop :=
  ∀ p ∈ s.parameters, p.mode = .eager ∧ p.arity = .required

theorem Signature.AllRequired.fixed {η : Type} {s : Signature η} (h : s.AllRequired) : s.Fixed :=
  fun p hp ↦ (h p hp).2

theorem length_evaluated {parameters : List Parameter} {xs : List Statement} {texts : List String}
    (hlength : xs.length = parameters.length) (hlength' : texts.length = xs.length) :
    (evaluated parameters xs texts).length = parameters.length := by
  induction parameters generalizing xs texts with
  | nil => rfl
  | cons p parameters ih =>
    cases xs with
    | nil => cases hlength
    | cons x xs =>
      cases texts with
      | nil => cases hlength'
      | cons text texts => exact congrArg (· + 1) (ih (Nat.succ.inj hlength) (Nat.succ.inj hlength'))

theorem getElem?_evaluated {parameters : List Parameter} {xs : List Statement} {texts : List String}
    (hlength : xs.length = parameters.length) (hlength' : texts.length = xs.length) {i : Nat}
    {text : String} (hi : texts[i]? = some text) :
    ((evaluated parameters xs texts)[i]?.getD []).map Argument.value? = [some text] := by
  induction parameters generalizing xs texts i with
  | nil =>
    obtain rfl := List.eq_nil_of_length_eq_zero hlength
    obtain rfl := List.eq_nil_of_length_eq_zero hlength'
    cases hi
  | cons p parameters ih =>
    cases xs with
    | nil => cases hlength
    | cons x xs =>
      cases texts with
      | nil => cases hlength'
      | cons first texts =>
        cases i with
        | zero =>
          cases hi
          rfl
        | succ i => exact ih (Nat.succ.inj hlength) (Nat.succ.inj hlength') hi

namespace BoundCall

variable {e : Engine} {r : Request} {s : State} {name : Statement} {args : List Statement}
  {span : Span} (c : BoundCall (e.env r) s name args span)

theorem length_of_fixed (h : c.signature.Fixed) : args.length = c.signature.parameters.length := by
  have haccepts := (Binding.eq_of_bind c.binds).1
  simp only [Signature.accepts, h.least_eq, h.greatest?_eq, Option.all_some, Bool.and_eq_true,
    decide_eq_true_eq] at haccepts
  omega

theorem length_take_of_fixed (h : c.signature.Fixed) {ps qs : List Parameter}
    (hparameters : c.signature.parameters = ps ++ qs) : (args.take ps.length).length = ps.length := by
  have hlength := c.length_of_fixed h
  rw [hparameters, List.length_append] at hlength
  rw [List.length_take]
  omega

theorem slots_of_fixed (h : c.signature.Fixed) :
    c.bound.slots = pending c.signature.parameters args := by
  have hlength := c.length_of_fixed h
  have hassign := Fork.assign_append h (Nat.le_of_eq hlength.symm) []
    (args.length - c.signature.least)
  rw [List.append_nil, ← hlength, List.take_length, Binding.assign, List.append_nil] at hassign
  rw [(Binding.eq_of_bind c.binds).2]
  exact hassign

/-- Where the first parameters are eager and the others are not, the arguments of the first ones are
evaluated before the handler starts. -/
theorem resolved_of_fixed (h : c.signature.Fixed) {ps qs : List Parameter}
    (hparameters : c.signature.parameters = ps ++ qs) (heager : ∀ p ∈ ps, p.mode = .eager)
    (hdeferred : ∀ q ∈ qs, q.mode ≠ .eager) :
    let b := evalEach (e.env r).eval (args.take ps.length) c.entered
    c.resolved.2 = b.2 ∧ (b.2.isRunning = true →
      c.resolved.1 = evaluated ps (args.take ps.length) b.1 ++ pending qs (args.drop ps.length)) := by
  intro b
  have htake := c.length_take_of_fixed h hparameters
  have hslots : c.bound.slots =
      pending ps (args.take ps.length) ++ pending qs (args.drop ps.length) := by
    unfold pending
    rw [← List.zipWith_append htake.symm, List.take_append_drop, ← hparameters]
    exact c.slots_of_fixed h
  have hrest : ∀ slot ∈ pending qs (args.drop ps.length), ∀ a ∈ slot, a.isEager = false := by
    intro slot hslot a ha
    unfold pending at hslot
    rw [← List.map_uncurry_zip_eq_zipWith] at hslot
    obtain ⟨⟨q, x⟩, hmem, rfl⟩ := List.mem_map.mp hslot
    obtain rfl := List.mem_singleton.mp ha
    simp [Argument.isEager, Argument.supplied, hdeferred q (List.of_mem_zip hmem).1]
  obtain ⟨hstate, hfilled⟩ := resolveSlots_pending (e.env r).eval heager htake hrest c.entered
  rw [← hslots] at hstate hfilled
  exact ⟨hstate, fun hrunning ↦ congrArg Prod.fst (hfilled hrunning)⟩

theorem texts_of_fixed (h : c.signature.Fixed) {ps qs : List Parameter}
    (hparameters : c.signature.parameters = ps ++ qs) (heager : ∀ p ∈ ps, p.mode = .eager)
    (hdeferred : ∀ q ∈ qs, q.mode ≠ .eager) (hstarts : c.resolved.2.isRunning = true) :
    ∃ texts, evalEach (e.env r).eval (args.take ps.length) c.entered = (texts, c.resolved.2) ∧
      texts.length = ps.length ∧
      c.opening.args.slots =
        evaluated ps (args.take ps.length) texts ++ pending qs (args.drop ps.length) ∧
      ∀ i text, texts[i]? = some text → c.opening.args.Holds i [text] := by
  obtain ⟨hstate, hfilled⟩ := c.resolved_of_fixed h hparameters heager hdeferred
  have htake := c.length_take_of_fixed h hparameters
  rw [hstate] at hstarts
  have htexts := length_evalEach hstarts
  have hopening : c.opening.args.slots = _ := hfilled hstarts
  refine ⟨_, Prod.ext rfl hstate.symm, htexts.trans htake, hopening, ?_⟩
  intro i text hi
  obtain ⟨hi', -⟩ := List.getElem?_eq_some_iff.mp hi
  rw [htexts, htake, ← length_evaluated htake htexts] at hi'
  unfold Arguments.Holds Arguments.all
  rw [hopening, List.getD_eq_getElem?_getD, List.getElem?_append_left hi',
    getElem?_evaluated htake htexts hi]
  rfl

theorem resolved_of_required (h : c.signature.AllRequired) :
    c.resolved.2 = (evalEach (e.env r).eval args c.entered).2 := by
  have hnone : ∀ q ∈ ([] : List Parameter), q.mode ≠ .eager := by simp
  have hstate := (c.resolved_of_fixed h.fixed (List.append_nil _).symm
    (fun p hp ↦ (h p hp).1) hnone).1
  rwa [← c.length_of_fixed h.fixed, List.take_length] at hstate

theorem texts_of_required (h : c.signature.AllRequired) (hstarts : c.resolved.2.isRunning = true) :
    ∃ texts, evalEach (e.env r).eval args c.entered = (texts, c.resolved.2) ∧
      texts.length = c.signature.parameters.length ∧
      ∀ i text, texts[i]? = some text → c.opening.args.Holds i [text] := by
  have hnone : ∀ q ∈ ([] : List Parameter), q.mode ≠ .eager := by simp
  obtain ⟨texts, heach, hlength, -, hholds⟩ := c.texts_of_fixed h.fixed (List.append_nil _).symm
    (fun p hp ↦ (h p hp).1) hnone hstarts
  rw [← c.length_of_fixed h.fixed, List.take_length] at heach
  exact ⟨texts, heach, hlength, hholds⟩

end BoundCall

def Statement.plain (span : Span) (text : String) : Statement := .mk [.literal text span] span

section Plain

variable {e : Engine} {r : Request} {s : State}

theorem Env.eval_plain (env : Env) (h : s.isRunning = true) (span : Span) (text : String) :
    env.eval (.plain span text) s = (text, s) :=
  env.eval_literal h text span span

theorem Env.evalEach_plain (env : Env) (h : s.isRunning = true) (span : Span)
    (texts : List String) : evalEach env.eval (texts.map (.plain span)) s = (texts, s) := by
  induction texts with
  | nil => rfl
  | cons text texts ih =>
    rw [List.map_cons, evalEach_cons h, env.eval_plain h, ih]

variable {name : Statement} {args : List Statement} {span : Span}
  (c : BoundCall (e.env r) s name args span)

theorem BoundCall.resolved_of_plain {span' : Span} {texts : List String}
    (hcode : Argument.codeOf .eager c.bound.slots.flatten = texts.map (.plain span')) :
    c.resolved.2 = c.entered := by
  rw [c.resolved_eq, hcode, Env.evalEach_plain _ c.isRunning_entered]

end Plain

end BraceScript
