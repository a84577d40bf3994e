import BraceScript.Proofs.Run.BoundCall
import BraceScript.Proofs.Run.Inertness

namespace BraceScript

/-- The supplied code of the arguments whose parameters have this mode, in order. -/
def Argument.codeOf (mode : Mode) (args : List Argument) : List Statement :=
  args.filterMap fun a ↦ if a.parameter.mode = mode then a.statement? else none

def Argument.fresh (a : Argument) : Argument := { a with value? := none }

theorem Argument.isEager_iff (a : Argument) :
    a.isEager = true ↔ a.parameter.mode = .eager ∧ ∃ statement, a.source = .code statement := by
  obtain ⟨p, source, value?⟩ := a
  cases source <;> simp [isEager, isSupplied, statement?]

theorem Argument.codeOf_cons_eager {a : Argument} (hmode : a.parameter.mode = .eager)
    {statement : Statement} (hsource : a.source = .code statement) (args : List Argument) :
    codeOf .eager (a :: args) = statement :: codeOf .eager args := by
  simp [codeOf, hmode, statement?, hsource]

theorem Argument.codeOf_cons_other {a : Argument} (h : a.isEager = false) (args : List Argument) :
    codeOf .eager (a :: args) = codeOf .eager args := by
  by_cases hmode : a.parameter.mode = .eager
  · have hnone : a.statement? = none := by simpa [isEager, hmode, isSupplied] using h
    simp [codeOf, hnone]
  · simp [codeOf, hmode]

/-- The arguments of a call in which the eager ones, and no others, have been given a text each, in
order. -/
structure Arguments.Filled (bound : Arguments) (texts : List String) (filled : Arguments) :
    Prop where
  fresh : filled.slots.map (·.map Argument.fresh) = bound.slots
  eager : ∀ a ∈ filled.slots.flatten, a.value?.isSome = a.isEager
  texts : filled.slots.flatten.filterMap Argument.value? = texts

section Resolving

variable {eval : Eval} {s : State}

theorem resolveSlot_cons_other {a : Argument} (h : a.isEager = false) (args : List Argument)
    (s : State) : resolveSlot eval (a :: args) s =
      (a :: (resolveSlot eval args s).1, (resolveSlot eval args s).2) := by
  simp [resolveSlot, h]

theorem resolveSlot_append (args args' : List Argument) (s : State) :
    resolveSlot eval (args ++ args') s =
      ((resolveSlot eval args s).1 ++ (resolveSlot eval args' (resolveSlot eval args s).2).1,
        (resolveSlot eval args' (resolveSlot eval args s).2).2) := by
  induction args generalizing s with
  | nil => rfl
  | cons a args ih =>
    simp only [List.cons_append, resolveSlot]
    split <;> simp [ih]

theorem resolveSlots_flatten (eval : Eval) (slots : List (List Argument)) (s : State) :
    (resolveSlots eval slots s).1.flatten = (resolveSlot eval slots.flatten s).1 ∧
      (resolveSlots eval slots s).2 = (resolveSlot eval slots.flatten s).2 := by
  induction slots generalizing s with
  | nil => exact ⟨rfl, rfl⟩
  | cons slot slots ih =>
    obtain ⟨hargs, hstate⟩ := ih (resolveSlot eval slot s).2
    simp only [resolveSlots, List.flatten_cons, resolveSlot_append, hargs, hstate, and_self]

theorem resolveSlot_fresh (args : List Argument) (s : State) :
    (resolveSlot eval args s).1.map Argument.fresh = args.map Argument.fresh := by
  induction args generalizing s with
  | nil => rfl
  | cons a args ih =>
    unfold resolveSlot
    split <;> simp [ih, Argument.fresh]

theorem resolveSlots_fresh (slots : List (List Argument)) (s : State) :
    (resolveSlots eval slots s).1.map (·.map Argument.fresh) =
      slots.map (·.map Argument.fresh) := by
  induction slots generalizing s with
  | nil => rfl
  | cons slot slots ih => simp [resolveSlots, resolveSlot_fresh, ih]

/-- Evaluating arguments is evaluating the code of the eager ones in order, and each gets the text
of its code. -/
theorem resolveSlot_eq {args : List Argument} (hfresh : ∀ a ∈ args, a.value? = none) (s : State) :
    (resolveSlot eval args s).2 = (evalEach eval (Argument.codeOf .eager args) s).2 ∧
      (resolveSlot eval args s).1.filterMap Argument.value? =
        (evalEach eval (Argument.codeOf .eager args) s).1 := by
  induction args generalizing s with
  | nil => exact ⟨rfl, rfl⟩
  | cons a args ih =>
    obtain ⟨hnone, hfresh⟩ := List.forall_mem_cons.mp hfresh
    cases ha : a.isEager with
    | false =>
      rw [resolveSlot_cons_other ha, Argument.codeOf_cons_other ha]
      simpa [hnone] using ih hfresh s
    | true =>
      obtain ⟨hmode, statement, hsource⟩ := a.isEager_iff.mp ha
      cases hs : s.isRunning with
      | false =>
        rw [resolveSlot_stopped _ hs, evalEach_stopped hs, List.filterMap_eq_nil_iff.mpr]
        · exact ⟨rfl, rfl⟩
        · exact List.forall_mem_cons.mpr ⟨hnone, hfresh⟩
      | true =>
        rw [resolveSlot_eager ha hs hsource, Argument.codeOf_cons_eager hmode hsource,
          evalEach_cons hs]
        simpa using ih hfresh (eval statement s).2

/-- If the run is still running afterwards, the eager arguments have been given their texts. -/
theorem resolveSlot_eager_iff {args : List Argument} (hfresh : ∀ a ∈ args, a.value? = none)
    (hrunning : (resolveSlot eval args s).2.isRunning = true) :
    ∀ a ∈ (resolveSlot eval args s).1, a.value?.isSome = a.isEager := by
  induction args generalizing s with
  | nil => simp [resolveSlot]
  | cons a args ih =>
    obtain ⟨hnone, hfresh⟩ := List.forall_mem_cons.mp hfresh
    cases ha : a.isEager with
    | false =>
      rw [resolveSlot_cons_other ha] at hrunning ⊢
      exact List.forall_mem_cons.mpr ⟨by simp [hnone, ha], ih hfresh hrunning⟩
    | true =>
      obtain ⟨hmode, statement, hsource⟩ := a.isEager_iff.mp ha
      cases hs : s.isRunning with
      | false =>
        rw [resolveSlot_stopped _ hs, hs] at hrunning
        cases hrunning
      | true =>
        rw [resolveSlot_eager ha hs hsource] at hrunning ⊢
        exact List.forall_mem_cons.mpr ⟨ha.symm, ih hfresh hrunning⟩

theorem resolveSlots_filled {bound : Arguments}
    (hfresh : ∀ a ∈ bound.slots.flatten, a.value? = none)
    (hrunning : (resolveSlots eval bound.slots s).2.isRunning = true) :
    bound.Filled (evalEach eval (Argument.codeOf .eager bound.slots.flatten) s).1
      { bound with slots := (resolveSlots eval bound.slots s).1 } := by
  obtain ⟨hargs, hstate⟩ := resolveSlots_flatten eval bound.slots s
  refine ⟨?_, ?_, ?_⟩
  · have hsame : ∀ slot ∈ bound.slots, slot.map Argument.fresh = slot := by
      intro slot hslot
      refine (List.map_congr_left fun a ha ↦ ?_).trans (List.map_id slot)
      have hnone := hfresh a (List.mem_flatten_of_mem hslot ha)
      simp [Argument.fresh, ← hnone]
    rw [resolveSlots_fresh]
    exact (List.map_congr_left hsame).trans (List.map_id _)
  · rw [hargs]
    rw [hstate] at hrunning
    exact resolveSlot_eager_iff hfresh hrunning
  · rw [hargs]
    exact (resolveSlot_eq hfresh s).2

end Resolving

section Questions

variable {α : Type} (svc : Services) (eval : Eval)

/-- The questions that a script asks, each with the call as it stands when it is asked. -/
def Script.questions : Script α → Activation → List (Query × Activation)
  | done _, _ => []
  | ask q next, t =>
    (q, t) :: (next (q.answer svc eval t).1).questions (q.answer svc eval t).2

/-- The questions of a handler; what a host asks is not known. -/
def Handler.questions (name : String) (t : Activation) : Handler → List (Query × Activation)
  | script body => (ExceptT.run (body ⟨name, svc.plugins, svc.origin⟩)).questions svc eval t
  | host _ => []

end Questions

namespace Arguments

theorem at?_keep (args : Arguments) (i j k l : Nat) (text : String) :
    (args.keep i j text).at? k l =
      if i = k ∧ j = l then (args.at? k l).map fun a ↦ { a with value? := some text }
      else args.at? k l := by
  unfold at? all keep
  rw [List.getD_eq_getElem?_getD, List.getD_eq_getElem?_getD, List.getElem?_modify]
  cases args.slots[k]? with
  | none => simp
  | some slot =>
    by_cases hi : i = k
    · by_cases hj : j = l <;> simp [hi, hj]
    · simp [hi]

structure Extends (a b : Arguments) : Prop where
  fresh : ∀ i j, (b.at? i j).map Argument.fresh = (a.at? i j).map Argument.fresh
  kept : ∀ i j x text, a.at? i j = some x → x.value? = some text → b.at? i j = some x

theorem Extends.refl (a : Arguments) : a.Extends a := ⟨fun _ _ ↦ rfl, fun _ _ _ _ h _ ↦ h⟩

theorem Extends.trans {a b c : Arguments} (h : a.Extends b) (h' : b.Extends c) : a.Extends c :=
  ⟨fun i j ↦ (h'.fresh i j).trans (h.fresh i j),
    fun i j x text hx hvalue ↦ h'.kept i j x text (h.kept i j x text hx hvalue) hvalue⟩

theorem extends_keep {a : Arguments} {i j : Nat} {x : Argument} (hx : a.at? i j = some x)
    (hnone : x.value? = none) (text : String) : a.Extends (a.keep i j text) := by
  refine ⟨fun k l ↦ ?_, fun k l y text' hy hvalue ↦ ?_⟩
  · rw [at?_keep]
    split
    · cases a.at? k l <;> rfl
    · rfl
  · rw [at?_keep, if_neg, hy]
    rintro ⟨rfl, rfl⟩
    simp_all

end Arguments

theorem Query.extends_answer (svc : Services) (eval : Eval) (q : Query) (t : Activation) :
    t.args.Extends (q.answer svc eval t).2.args := by
  have hvalue (i j : Nat) : t.args.Extends (t.value eval i j).2.args := by
    unfold Activation.value
    cases hat : t.args.at? i j with
    | none => exact .refl _
    | some a =>
      dsimp only
      split
      · exact .refl _
      · rename_i hnone
        exact Arguments.extends_keep hat hnone _
  cases q with
  | value i j => exact hvalue i j
  | again i =>
    simp only [answer, Activation.again]
    split <;> exact .refl _
  | attempt i =>
    cases hat : t.args.at? i 0 with
    | none =>
      simp only [answer, Activation.attempt, hat]
      exact .refl _
    | some a =>
      cases ha : a.value? with
      | some text =>
        simp only [answer, Activation.attempt, hat, ha]
        exact .refl _
      | none =>
        rw [answer_attempt svc eval i hat ha]
        split
        · exact Arguments.extends_keep hat ha _
        · exact .refl _
  | define name i =>
    simp only [answer]
    split <;> exact .refl _
  | activate name params =>
    simp only [answer]
    split <;> exact .refl _
  | _ => exact .refl _

section Questions

variable {α : Type} (svc : Services) (eval : Eval)

theorem Script.extends_questions (body : Script α) (t : Activation) :
    ∀ x ∈ body.questions svc eval t, t.args.Extends x.2.args := by
  induction body generalizing t with
  | done a => simp [questions]
  | ask q next ih =>
    refine List.forall_mem_cons.mpr ⟨.refl _, fun x hx ↦ ?_⟩
    exact (q.extends_answer svc eval t).trans (ih _ _ x hx)

theorem Script.Asks.questions {p : Query → Bool} {body : Script α} (h : body.Asks p)
    (t : Activation) : ∀ x ∈ body.questions svc eval t, p x.1 = true := by
  induction body generalizing t with
  | done a => simp [Script.questions]
  | ask q next ih => exact List.forall_mem_cons.mpr ⟨h.1, ih _ (h.2 _) _⟩

theorem Query.answer_of_value {t : Activation} {i j : Nat} {a : Argument} {text : String}
    (hat : t.args.at? i j = some a) (hvalue : a.value? = some text) :
    (value i j).answer svc eval t = (text, t) ∧
      (j = 0 → (attempt i).answer svc eval t = (some text, t)) := by
  refine ⟨?_, fun hj ↦ ?_⟩
  · simp only [answer, Activation.value, hat, hvalue]
    rfl
  · subst hj
    simp only [answer, Activation.attempt, hat, hvalue]
    rfl

end Questions

namespace Query

/-- Whether the question keeps to the modes of the parameters: a raw argument is not read as a
value, and only a deferred one is evaluated again. -/
def heeds (modes : List Mode) : Query → Bool
  | value i _ | attempt i => modes[i]? != some .raw
  | again i => modes[i]? == some .deferred
  | _ => true

section

variable {modes : List Mode} (hraw : .raw ∉ modes) {q : Query}

include hraw

theorem ne_raw_of_notMem (i : Nat) : (modes[i]? != some .raw) = true := by
  rw [bne_iff_ne]
  intro hi
  exact hraw (List.mem_of_getElem? hi)

theorem heeds_of_isCalling (h : q.isCalling = true) : q.heeds modes = true := by
  cases q with
  | value i j => exact ne_raw_of_notMem hraw i
  | attempt i => exact ne_raw_of_notMem hraw i
  | again i => cases h
  | _ => rfl

theorem heeds_of_isSober (h : q.isSober = true) : q.heeds modes = true :=
  heeds_of_isCalling hraw (by simp [isCalling, h])

end

/-- What is evaluated for a question that keeps to the modes: an argument that is not raw, and which
has no value yet or is deferred, or the body of a function. -/
theorem source_of_need {svc : Services} {modes : List Mode} {q : Query} (hheeds : q.heeds modes = true)
    {t : Activation} {statement : Statement} {u : State} {resume : String → State → q.Answer × Activation}
    (hneed : q.need svc t = .evaluates statement u resume) :
    (∃ i j a, t.args.at? i j = some a ∧ a.source = .code statement ∧ modes[i]? ≠ some .raw ∧
      (a.value? = none ∨ modes[i]? = some .deferred)) ∨
    ∃ name params, q = .activate name params ∧ Services.function? name t.state = some statement := by
  cases q with
  | value i j =>
    simp only [need] at hneed
    split at hneed
    · cases hneed
    · rename_i a hat
      split at hneed <;> cases hneed
      rename_i hvalue hsource
      exact Or.inl ⟨i, j, a, hat, hsource, bne_iff_ne.mp hheeds, Or.inl hvalue⟩
  | attempt i =>
    simp only [need] at hneed
    split at hneed
    · cases hneed
    · rename_i a hat
      split at hneed <;> cases hneed
      rename_i hvalue hsource
      exact Or.inl ⟨i, 0, a, hat, hsource, bne_iff_ne.mp hheeds, Or.inl hvalue⟩
  | again i =>
    simp only [need] at hneed
    split at hneed
    · cases hneed
    · rename_i a hat
      split at hneed <;> cases hneed
      rename_i hsource
      have hmode : modes[i]? = some .deferred := beq_iff_eq.mp hheeds
      exact Or.inl ⟨i, 0, a, hat, hsource, by simp [hmode], Or.inr hmode⟩
  | activate name params =>
    simp only [need] at hneed
    split at hneed <;> cases hneed
    rename_i hbody
    exact Or.inr ⟨name, params, rfl, hbody⟩
  | _ => cases hneed

end Query

section Standard

open Subtags Action.Asks

theorem standardDeclarations_raw : ∀ declaration ∈ standardDeclarations,
    Text.lower declaration.id ≠ "function" → Text.lower declaration.id ≠ "escapebbtag" →
    ∀ x ∈ declaration.signatures, ∀ pattern ∈ x.1,
      (Parameter.readMode pattern.toList).1 ≠ .raw := by
  decide +kernel

theorem Signature.parameters_of_compile {η : Type} {patterns : List String} {description : String}
    {handler : η} {s : Signature η} (h : Signature.compile patterns description handler = .ok s) :
    patterns.mapM Parameter.ofPattern = .ok s.parameters :=
  (Signature.compile_eq_ok_iff.mp h).1

theorem defineFunction_heeds (c : Invocation) :
    (defineFunction c).Asks (Query.heeds [.eager, .raw]) :=
  (ask rfl).bind fun _ ↦ .ite (failing _) ((ask rfl).bind fun _ ↦ pure _)

theorem escape_heeds (modes : List Mode) (c : Invocation) : (escape c).Asks (Query.heeds modes) :=
  .bind ((ask rfl).bind fun count ↦ collect (fun _ ↦ ask rfl) 0 count) fun _ ↦ pure _

theorem repeatCode_heeds (c : Invocation) :
    (repeatCode c).Asks (Query.heeds [.deferred, .eager]) := by
  refine (ask rfl).bind fun _ ↦ (ofOption _ _).bind fun amount ↦ .ite (failing _) ?_
  exact (asks_times rfl rfl (fun _ ↦ ask rfl) amount.toNat 0 "").bind fun _ ↦ pure _

theorem forEach_heeds (c : Invocation) :
    (forEach c).Asks (Query.heeds [.eager, .eager, .deferred]) := by
  have hsober (q : Query) (hq : q.isSober = true) : q.heeds [.eager, .eager, .deferred] = true :=
    Query.heeds_of_isSober (by decide) hq
  refine (ask rfl).bind fun name ↦ (ask rfl).bind fun text ↦
    ((asks_resolveArray text).mono hsober).bind fun array ↦
    ((asks_getVariable name).mono hsober).bind fun previous ↦ ?_
  have hbody (item : Value) : Action.Asks (Query.heeds [.eager, .eager, .deferred])
      (do Action.setVariable name item; Action.again 2) :=
    ((asks_setVariable name item).mono hsober).bind fun _ ↦ ask rfl
  exact (outcome (asks_each rfl rfl hbody array.items "")).bind fun result ↦ (ask rfl).bind
    fun restored ↦ (settle result).bind fun _ ↦ (settle restored).bind fun _ ↦ pure _

namespace Engine.Standard

variable {e : Engine} (he : e.Standard) {name : String} {d : Definition Handler}
  (hd : e.registry.lookup name = some d)

include he hd

theorem handler_of_escape (hid : d.id = "escapebbtag") :
    ∀ s ∈ d.signatures, s.handler = .script escape := by
  have hmem : escapebbtagDeclaration ∈ standardDeclarations := by
    simp [standardDeclarations, presentationDeclarations]
  have hdeclaration := he.declaration_of_mem hd hmem hid
  intro s hs
  obtain ⟨x, hx, hhandler⟩ := Definition.handler_of_declaration hdeclaration hs
  rw [← hhandler, List.mem_singleton.mp hx]

variable {s : Signature Handler} (hs : s ∈ d.signatures)

include hs

theorem raw_notMem (hfunction : d.id ≠ "function") (hescape : d.id ≠ "escapebbtag") :
    .raw ∉ s.parameters.map Parameter.mode := by
  obtain ⟨declaration, hmem, hdeclaration⟩ := he.declared hd
  obtain ⟨x, hx, hcompile⟩ := Definition.compiled_of_declaration hdeclaration hs
  have hid : d.id = Text.lower declaration.id := (Definition.of_declaration hdeclaration).1
  rw [hid] at hfunction hescape
  have hmodes := standardDeclarations_raw declaration hmem hfunction hescape x hx
  intro hraw
  obtain ⟨p, hp, hmode⟩ := List.mem_map.mp hraw
  obtain ⟨pattern, hpattern, hof⟩ := exists_of_mem_mapM (Signature.parameters_of_compile hcompile) hp
  exact hmodes pattern hpattern ((Parameter.mode_of_ofPattern hof).symm.trans hmode)

theorem asks_heeds {body : Invocation → Action (Option String)} (hbody : s.handler = .script body)
    (c : Invocation) : (body c).Asks (Query.heeds (s.parameters.map Parameter.mode)) := by
  by_cases hfunction : d.id = "function"
  · obtain ⟨description, hone⟩ := he.signatures_of_declares hd declares_function hfunction
    rw [hone, List.mem_singleton] at hs
    subst hs
    cases hbody
    exact defineFunction_heeds c
  by_cases hescape : d.id = "escapebbtag"
  · rw [he.handler_of_escape hd hescape s hs] at hbody
    cases hbody
    exact escape_heeds _ c
  have hraw := he.raw_notMem hd hs hfunction hescape
  have hlisted := he.listed hd hs
  rw [hbody] at hlisted
  cases hlisted with
  | sober h => exact (h c).mono fun _ ↦ Query.heeds_of_isSober hraw
  | escape h => exact absurd h hescape
  | callFunction h => exact (callFunction_asks c).mono fun _ ↦ Query.heeds_of_isCalling hraw
  | repeatCode h =>
    obtain ⟨description, hone⟩ := he.signatures_of_declares hd declares_repeat h
    rw [hone, List.mem_singleton] at hs
    subst hs
    exact repeatCode_heeds c
  | forEach h =>
    obtain ⟨description, hone⟩ := he.signatures_of_declares hd declares_foreach h
    rw [hone, List.mem_singleton] at hs
    subst hs
    exact forEach_heeds c

end Engine.Standard

end Standard

namespace Binding

theorem value?_of_assign (parameters : List Parameter) (surplus : Nat) (supplied : List Statement) :
    ∀ a ∈ (assign parameters surplus supplied).flatten, a.value? = none := by
  have hsupplied (p : Parameter) (list : List Statement) :
      ∀ a ∈ list.map (Argument.supplied p), a.value? = none := by simp [Argument.supplied]
  induction parameters generalizing surplus supplied with
  | nil => simp [assign]
  | cons p parameters ih =>
    unfold assign
    cases p.arity with
    | required => exact List.forall_mem_append.mpr ⟨hsupplied p _, ih _ _⟩
    | optional text =>
      dsimp only
      split
      · exact List.forall_mem_append.mpr ⟨hsupplied p _, ih _ _⟩
      · exact List.forall_mem_append.mpr ⟨by simp [Argument.omitted], ih _ _⟩
    | repeated least => exact List.forall_mem_append.mpr ⟨hsupplied p _, ih _ _⟩

end Binding

theorem Arguments.Filled.at? {bound filled : Arguments} {texts : List String}
    (h : bound.Filled texts filled) (i j : Nat) :
    (filled.at? i j).map Argument.fresh = bound.at? i j := by
  unfold Arguments.at? all
  rw [← h.fresh, List.getD_eq_getElem?_getD, List.getD_eq_getElem?_getD, List.getElem?_map]
  cases filled.slots[i]? <;> simp

namespace BoundCall

variable {e : Engine} {r : Request} {s : State} {name : Statement} {args : List Statement}
  {span : Span} (c : BoundCall (e.env r) s name args span)

/-- What the handler of the call asks, each question with the call as it stands then. -/
def questions : List (Query × Activation) :=
  c.signature.handler.questions (e.env r).services (e.env r).eval c.frame.name c.opening

theorem value?_bound : ∀ a ∈ c.bound.slots.flatten, a.value? = none := by
  rw [(Binding.eq_of_bind c.binds).2]
  exact Binding.value?_of_assign _ _ _

theorem parameter_bound {i j : Nat} {a : Argument} (h : c.bound.at? i j = some a) :
    c.signature.parameters[i]? = some a.parameter := by
  have hmem := Arguments.mem_all_of_at? h
  rw [(Binding.eq_of_bind c.binds).2] at hmem
  exact Binding.parameter_of_assign hmem

theorem resolved_eq : c.resolved.2 =
    (evalEach (e.env r).eval (Argument.codeOf .eager c.bound.slots.flatten) c.entered).2 :=
  (resolveSlots_flatten _ _ _).2.trans (resolveSlot_eq c.value?_bound _).1

theorem statements_bound : c.bound.slots.flatten.filterMap Argument.statement? = args := by
  obtain ⟨haccepts, hbound⟩ := Binding.eq_of_bind c.binds
  rw [hbound]
  exact (Binding.fits_of_accepts haccepts).flatten_assign (Binding.remaining_of_accepts haccepts)

variable {c} {x : Query × Activation} (hx : x ∈ c.questions)

include hx

theorem extends_questions : c.opening.args.Extends x.2.args := by
  unfold questions at hx
  cases hhandler : c.signature.handler with
  | host body => simp [hhandler, Handler.questions] at hx
  | script body =>
    rw [hhandler] at hx
    exact Script.extends_questions _ _ _ _ x hx

theorem heeds_questions (he : e.Standard) :
    x.1.heeds (c.signature.parameters.map Parameter.mode) = true := by
  obtain ⟨body, hbody⟩ := he.scripted _ _ c.found _ c.mem_signatures
  have hasks := he.asks_heeds c.found c.mem_signatures hbody
  unfold questions at hx
  rw [hbody] at hx
  exact (hasks _).script.questions _ _ _ x hx

theorem exists_opening {i j : Nat} {a : Argument} (hat : x.2.args.at? i j = some a) :
    ∃ b, c.opening.args.at? i j = some b ∧ b.parameter = a.parameter ∧ b.source = a.source ∧
      (b.value?.isSome = true → a = b) := by
  have hextends := extends_questions hx
  have hfresh := hextends.fresh i j
  rw [hat, Option.map_some, eq_comm] at hfresh
  obtain ⟨b, hb, hsame⟩ := Option.map_eq_some_iff.mp hfresh
  refine ⟨b, hb, (congrArg Argument.parameter hsame :), (congrArg Argument.source hsame :), ?_⟩
  intro hvalue
  obtain ⟨text, htext⟩ := Option.isSome_iff_exists.mp hvalue
  exact Option.some.inj (hat.symm.trans (hextends.kept i j b text hb htext))

theorem deferred_of_need (he : e.Standard) (hrunning : c.resolved.2.isRunning = true)
    {statement : Statement} {u : State} {resume : String → State → x.1.Answer × Activation}
    (hneed : x.1.need (e.env r).services x.2 = .evaluates statement u resume) :
    (∃ i j a, c.bound.at? i j = some a ∧ a.parameter.mode = .deferred ∧
      a.source = .code statement) ∨
    ∃ f params, x.1 = .activate f params ∧ Services.function? f x.2.state = some statement := by
  have hfilled := resolveSlots_filled c.value?_bound hrunning
  obtain ⟨i, j, a, hat, hsource, hraw, hunread⟩ | hactivate :=
    Query.source_of_need (heeds_questions hx he) hneed
  · obtain ⟨b, hb, hparameter, hsame, hvalue⟩ := exists_opening hx hat
    have hbound : c.bound.at? i j = some b.fresh := by
      rw [← hfilled.at? i j]
      exact congrArg (Option.map Argument.fresh) hb
    have hmode : (c.signature.parameters.map Parameter.mode)[i]? = some b.parameter.mode := by
      rw [List.getElem?_map, c.parameter_bound hbound]
      rfl
    rw [hmode] at hraw hunread
    refine Or.inl ⟨i, j, b.fresh, hbound, ?_, hsame.trans hsource⟩
    change b.parameter.mode = .deferred
    cases hb' : b.parameter.mode with
    | deferred => rfl
    | raw => simp [hb'] at hraw
    | eager =>
      -- An eager argument has had its value from the start, so nothing would be evaluated.
      have heager := b.isEager_iff.mpr ⟨hb', statement, hsame.trans hsource⟩
      have hflat : b ∈ c.opening.args.slots.flatten := List.mem_flatten.mpr (Arguments.exists_slot_of_at? hb)
      have hsome : b.value?.isSome = true := (hfilled.eager b hflat).trans heager
      obtain rfl := hvalue hsome
      simp [hb', Option.isSome_iff_ne_none.mp hsome] at hunread
  · exact Or.inr hactivate

end BoundCall

/-- Calls take eager arguments by value. All arguments are handed out in the order of the source,
and those that are neither deferred nor raw are evaluated once each in that order. If one of them
leaves the run, the later ones and the handler are not reached and the call is empty. Otherwise the
handler starts with their texts, which are all that it reads of them, and what it evaluates is a
deferred argument or the body of a function. -/
theorem Engine.call_by_value {e : Engine} (he : e.Standard) {r : Request} {s : State}
    {name : Statement} {args : List Statement} {span : Span}
    (c : BoundCall (e.env r) s name args span) (span' : Span) :
    c.bound.slots.flatten.filterMap Argument.statement? = args ∧
    let env := e.env r
    let called := env.eval (.mk [.call name args span] span') s
    let eager := evalEach env.eval (Argument.codeOf .eager c.bound.slots.flatten) c.entered
    (eager.2.isRunning = false → called = ("", eager.2.popCall)) ∧
    (eager.2.isRunning = true →
      called = conclude env.services c.frame.name span c.handled.1 c.handled.2.state.popCall ∧
      c.opening.state = eager.2.started c.frame ∧ c.bound.Filled eager.1 c.opening.args ∧
      ∀ x ∈ c.questions,
        (∀ i j a text, c.opening.args.at? i j = some a → a.value? = some text →
          (Query.value i j).answer env.services env.eval x.2 = (text, x.2) ∧
          (j = 0 → (Query.attempt i).answer env.services env.eval x.2 = (some text, x.2))) ∧
        ∀ statement u resume, x.1.need env.services x.2 = .evaluates statement u resume →
          (∃ i j a, c.bound.at? i j = some a ∧ a.parameter.mode = .deferred ∧
            a.source = .code statement) ∨
          ∃ f params, x.1 = .activate f params ∧
            Services.function? f x.2.state = some statement) := by
  refine ⟨c.statements_bound, ?_⟩
  intro env called eager
  have hcalled := c.eval_eq he.scripted span'
  have hstate : c.resolved.2 = eager.2 := c.resolved_eq
  refine ⟨fun hstopped ↦ ?_, fun hrunning ↦ ?_⟩
  · rw [hstate, hstopped] at hcalled
    exact hcalled
  · rw [← hstate] at hrunning ⊢
    rw [if_pos hrunning] at hcalled
    refine ⟨hcalled, rfl, resolveSlots_filled c.value?_bound hrunning, fun x hx ↦ ⟨?_, ?_⟩⟩
    · intro i j a text hat hvalue
      have hkept := (BoundCall.extends_questions hx).kept i j a text hat hvalue
      exact Query.answer_of_value _ _ hkept hvalue
    · intro statement u resume hneed
      exact BoundCall.deferred_of_need hx he hrunning hneed

/-- Of the arguments of a loop only the amount is evaluated before the loop starts. -/
theorem Engine.call_by_value_loop :
    let place : Span := ⟨⟨0, 1, 1⟩, ⟨0, 1, 1⟩⟩
    let plain (text : String) : Statement := .mk [.literal text place] place
    let code := parse "\x7bset;x;\x7bget;y\x7d\x7d"
    ∃ e : Engine, e.Standard ∧
      ∃ c : BoundCall (e.env (.patient {})) {} (plain "Loop") [code, plain "2"] place,
        Argument.codeOf .eager c.bound.slots.flatten = [plain "2"] ∧
        c.resolved.2.isRunning = true ∧ c.bound.Filled ["2"] c.opening.args ∧
        c.opening.state = c.entered.started c.frame := by
  intro place plain code
  obtain ⟨e, -, he⟩ := exists_standard (b := {}) rfl rfl Scopes.exists_ofProviders_standard
  have hcalls : 0 < ({} : Limits).maxCalls := by decide
  have hdepth : 0 < ({} : Limits).maxDepth := by decide
  obtain ⟨c, -, -, hbound⟩ := he.exists_boundCall [code, plain "2"] Subtags.declares_repeat.mem rfl rfl rfl
    (by decide +kernel : normalize (normalize "Loop") ∈ _) hcalls hdepth [] place place
  have hcode : Argument.codeOf .eager c.bound.slots.flatten = [plain "2"] := by
    rw [hbound]
    rfl
  have hentered : c.entered.isRunning = true := c.named
  obtain ⟨-, -, hstarts⟩ := call_by_value he c place
  have heach : evalEach (e.env (.patient {})).eval [plain "2"] c.entered = (["2"], c.entered) := by
    rw [evalEach_cons hentered, Env.eval_literal _ hentered]
    rfl
  rw [hcode, heach] at hstarts
  obtain ⟨-, hopening, hfilled, -⟩ := hstarts hentered
  refine ⟨e, he, c, hcode, ?_, hfilled, hopening⟩
  rw [c.resolved_eq, hcode, heach]
  exact hentered

end BraceScript
