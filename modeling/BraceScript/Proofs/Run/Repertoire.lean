import BraceScript.Proofs.Run.Evaluation

namespace BraceScript

namespace Query

def isLoopBody : Query → Bool
  | again _ => true
  | _ => false

def isActivation : Query → Bool
  | activate _ _ => true
  | _ => false

def isModest (q : Query) : Bool := !q.isLoopBody && !q.isActivation

def isQuotation : Query → Bool
  | raw _ _ => true
  | _ => false

def isSober (q : Query) : Bool := q.isModest && !q.isQuotation

def isLooping (q : Query) : Bool := q.isSober || q.isLoopBody

def isCalling (q : Query) : Bool := q.isSober || q.isActivation

theorem inactive_of_isLooping {q : Query} (h : q.isLooping = true) : (!q.isActivation) = true := by
  cases q with
  | activate => cases h
  | _ => rfl

theorem unlooped_of_isCalling {q : Query} (h : q.isCalling = true) : (!q.isLoopBody) = true := by
  cases q with
  | again => cases h
  | _ => rfl

theorem unquoting_of_isLooping {q : Query} (h : q.isLooping = true) : (!q.isQuotation) = true := by
  cases q with
  | raw => cases h
  | _ => rfl

theorem unquoting_of_isCalling {q : Query} (h : q.isCalling = true) : (!q.isQuotation) = true := by
  cases q with
  | raw => cases h
  | _ => rfl

end Query

def Script.Asks {α : Type} (p : Query → Bool) : Script α → Prop
  | done _ => True
  | ask q next => p q = true ∧ ∀ r, (next r).Asks p

theorem Script.Asks.bind {α β : Type} {p : Query → Bool} {x : Script α} {f : α → Script β}
    (hx : x.Asks p) (hf : ∀ a, (f a).Asks p) : Script.Asks p (x >>= f) := by
  induction x with
  | done a => exact hf a
  | ask q next ih => exact ⟨hx.1, fun r ↦ ih r (hx.2 r)⟩

theorem Script.Asks.mono {α : Type} {p p' : Query → Bool} {x : Script α} (hx : x.Asks p)
    (h : ∀ q, p q = true → p' q = true) : x.Asks p' := by
  induction x with
  | done a => trivial
  | ask q next ih => exact ⟨h q hx.1, fun r ↦ ih r (hx.2 r)⟩

theorem Script.asks_of_forall {α : Type} {p : Query → Bool} (h : ∀ q, p q = true) (x : Script α) :
    x.Asks p := by
  induction x with
  | done a => trivial
  | ask q next ih => exact ⟨h q, ih⟩

theorem Script.asks_query {p : Query → Bool} {q : Query} (hq : p q = true) :
    (Script.query q).Asks p := ⟨hq, fun _ ↦ trivial⟩

structure Action.Asks {α : Type} (p : Query → Bool) (a : Action α) : Prop where
  script : Script.Asks p (ExceptT.run a)

namespace Action.Asks

variable {α β : Type} {p : Query → Bool} {a : Action α} {f : α → Action β}

theorem bind (ha : a.Asks p) (hf : ∀ v, (f v).Asks p) : Action.Asks p (a >>= f) := by
  refine ⟨Script.Asks.bind (f := ExceptT.bindCont f) ha.script fun r ↦ ?_⟩
  cases r with
  | ok v => exact (hf v).script
  | error e => trivial

theorem mono {p' : Query → Bool} (ha : a.Asks p) (h : ∀ q, p q = true → p' q = true) :
    a.Asks p' := ⟨ha.script.mono h⟩

theorem modest (ha : a.Asks Query.isSober) : a.Asks Query.isModest :=
  ha.mono fun _ hq ↦ (Bool.and_eq_true_iff.mp hq).1

theorem unquoting (ha : a.Asks Query.isSober) : a.Asks (!·.isQuotation) :=
  ha.mono fun _ hq ↦ (Bool.and_eq_true_iff.mp hq).2

theorem unlooped (ha : a.Asks Query.isModest) : a.Asks (!·.isLoopBody) :=
  ha.mono fun _ hq ↦ (Bool.and_eq_true_iff.mp hq).1

theorem inactive (ha : a.Asks Query.isModest) : a.Asks (!·.isActivation) :=
  ha.mono fun _ hq ↦ (Bool.and_eq_true_iff.mp hq).2

theorem pure (v : α) : Action.Asks p (Pure.pure v) := ⟨trivial⟩

theorem throw (e : Error) : Action.Asks (α := α) p (throw e) := ⟨trivial⟩

theorem failing (e : Error) : Action.Asks p (throwThe Error e >>= f) := ⟨trivial⟩

theorem ite {c : Prop} [Decidable c] {b : Action α} (ha : a.Asks p) (hb : b.Asks p) :
    (if c then a else b).Asks p := by
  split
  · exact ha
  · exact hb

theorem ask {q : Query} (hq : p q = true) : (Action.ask q).Asks p := ⟨hq, fun _ ↦ trivial⟩

theorem demand {s : Script (Except Error α)} (hs : s.Asks p) : (Action.demand s).Asks p := ⟨hs⟩

theorem settle (r : Except Error α) : (Action.settle r).Asks p := ⟨trivial⟩

theorem ofOption (e : Error) (o : Option α) : (Action.ofOption e o).Asks p := by
  cases o with
  | none => exact throw e
  | some v => exact pure v

theorem outcome (ha : a.Asks p) : (Action.outcome a).Asks p :=
  ⟨Script.Asks.bind ha.script fun _ ↦ trivial⟩

theorem collect {read : Nat → Action String} (h : ∀ i, (read i).Asks p) (start count : Nat) :
    (Action.collect read start count).Asks p := by
  induction count generalizing start with
  | zero => exact pure []
  | succ count ih => exact (h start).bind fun _ ↦ (ih (start + 1)).bind fun _ ↦ pure _

end Action.Asks

def Modest (body : Invocation → Action (Option String)) : Prop :=
  ∀ c, (body c).Asks Query.isModest

def Sober (body : Invocation → Action (Option String)) : Prop :=
  ∀ c, (body c).Asks Query.isSober

namespace Subtags

open Action.Asks

theorem asks_value (slot : Nat) : (Action.value slot).Asks Query.isSober := ask rfl

theorem asks_valueAt (slot index : Nat) : (Action.valueAt slot index).Asks Query.isSober := ask rfl

theorem asks_values (slot : Nat) : (Action.values slot).Asks Query.isSober :=
  (ask rfl).bind fun count ↦ collect (asks_valueAt slot) 0 count

theorem asks_getVariable (name : String) : (Action.getVariable name).Asks Query.isSober :=
  demand (Script.asks_query rfl)

theorem asks_setVariable (name : String) (value : Value) :
    (Action.setVariable name value).Asks Query.isSober :=
  demand (Script.asks_query rfl)

theorem asks_resolveArray (text : String) : (resolveArray text).Asks Query.isSober := by
  unfold resolveArray
  split
  · exact pure _
  · refine (asks_getVariable _).bind fun v ↦ ?_
    split
    · exact pure _
    · exact throw _

theorem asks_element {α : Type} (items : List α) (index : Int) (what : String) :
    (element items index what).Asks Query.isSober := ofOption _ _

theorem sober_get : Sober get := fun _ ↦
  (asks_value 0).bind fun name ↦ (asks_getVariable name).bind fun _ ↦ pure _

theorem sober_set : Sober set := by
  refine fun _ ↦ (asks_value 0).bind fun name ↦ (asks_values 1).bind fun texts ↦ ?_
  split
  · exact .bind (demand (Script.asks_query rfl)) fun _ ↦ pure _
  · exact (asks_setVariable name _).bind fun _ ↦ pure _
  · exact (asks_setVariable name _).bind fun _ ↦ pure _

theorem sober_nothing : Sober nothing := fun _ ↦ pure _

theorem sober_shuffle : Sober shuffle := by
  refine fun _ ↦ (asks_value 0).bind fun text ↦ (asks_resolveArray text).bind fun array ↦
    (ask rfl).bind fun items ↦ ?_
  split
  · exact (asks_setVariable _ _).bind fun _ ↦ pure _
  · exact pure _

theorem sober_length : Sober length := fun _ ↦ (asks_value 0).bind fun _ ↦ pure _

theorem sober_index : Sober index := fun _ ↦
  (asks_value 0).bind fun text ↦ (asks_resolveArray text).bind fun _ ↦ (asks_value 1).bind fun _ ↦
    (ofOption _ _).bind fun _ ↦ (asks_element _ _ _).bind fun _ ↦ pure _

theorem sober_join : Sober join := fun _ ↦
  (asks_value 0).bind fun text ↦ (asks_resolveArray text).bind fun _ ↦ (asks_value 1).bind fun _ ↦
    pure _

theorem sober_discard : Sober discard := by
  have hfrom (start count : Nat) : (evaluateFrom start count).Asks Query.isSober := by
    induction count generalizing start with
    | zero => exact pure _
    | succ count ih =>
      refine (ask rfl).bind fun running ↦ ?_
      split
      · exact (asks_valueAt 0 start).bind fun _ ↦ ih (start + 1)
      · exact pure _
  exact fun _ ↦ (ask rfl).bind fun count ↦ (hfrom 0 count).bind fun _ ↦ pure _

theorem sober_leave : Sober leave := fun _ ↦
  (asks_value 0).bind fun _ ↦ (ofOption _ _).bind fun _ ↦ (ask rfl).bind fun _ ↦ pure _

theorem sober_tryCatch : Sober tryCatch := by
  refine fun _ ↦ (ask rfl).bind fun text? ↦ ?_
  split
  · exact pure _
  · exact (asks_value 1).bind fun _ ↦ pure _

theorem sober_raise : Sober raise := fun _ ↦ (asks_value 0).bind fun _ ↦ throw _

theorem asks_branch (condition : Bool) (slot : Nat) :
    (branch condition slot).Asks Query.isSober := by
  refine (ask rfl).bind fun supplied ↦ ?_
  split
  · exact (asks_value _).bind fun _ ↦ pure _
  · exact pure _

theorem sober_ifTrue : Sober ifTrue := fun _ ↦
  (asks_value 0).bind fun _ ↦ (ofOption _ _).bind fun condition ↦ asks_branch condition 1

theorem sober_ifCompare : Sober ifCompare := fun _ ↦
  (asks_value 0).bind fun _ ↦ (asks_value 1).bind fun _ ↦ (asks_value 2).bind fun _ ↦
    (settle _).bind fun condition ↦ asks_branch condition 3

theorem sober_choose : Sober choose := by
  refine fun _ ↦ (asks_value 0).bind fun _ ↦ (ofOption _ _).bind fun index ↦
    (ask rfl).bind fun count ↦ ?_
  split
  · exact (asks_valueAt 1 _).bind fun _ ↦ pure _
  · exact throw _

theorem sober_chooseAtRandom : Sober chooseAtRandom := by
  refine fun _ ↦ (ask rfl).bind fun count ↦ (ask rfl).bind fun index ↦ ?_
  split
  · exact (asks_valueAt 0 _).bind fun _ ↦ pure _
  · exact pure _

theorem sober_defineFunction : Sober defineFunction := fun _ ↦
  (asks_value 0).bind fun _ ↦ .ite (failing _) ((ask rfl).bind fun _ ↦ pure _)

theorem sober_allParams : Sober allParams := fun _ ↦ (ask rfl).bind fun _ ↦ pure _

theorem sober_param : Sober param := fun _ ↦
  (asks_value 0).bind fun _ ↦ (ofOption _ _).bind fun _ ↦ (ask rfl).bind fun _ ↦
    (asks_element _ _ _).bind fun _ ↦ pure _

theorem sober_setQuiet : Sober setQuiet := fun _ ↦
  (asks_value 0).bind fun _ ↦ (ofOption _ _).bind fun _ ↦ (ask rfl).bind fun _ ↦ pure _

theorem sober_clearFallback : Sober clearFallback := fun _ ↦ (ask rfl).bind fun _ ↦ pure _

theorem sober_setFallback : Sober setFallback := fun _ ↦
  (asks_value 0).bind fun _ ↦ (ask rfl).bind fun _ ↦ pure _

theorem sober_constant (text : String) : Sober (constant text) := fun _ ↦ pure _

theorem modest_escape : Modest escape := by
  have hsources : (Action.sources 0).Asks Query.isModest :=
    (ask rfl).bind fun count ↦ collect (fun _ ↦ ask rfl) 0 count
  exact fun _ ↦ hsources.bind fun _ ↦ pure _

theorem sober_math : Sober math := by
  refine fun _ ↦ (asks_value 0).bind fun _ ↦ (ofOption _ _).bind fun _ ↦
    (asks_values 1).bind fun _ ↦ (settle _).bind fun numbers ↦ ?_
  split
  · exact pure _
  · dsimp only
    split
    · exact pure _
    · exact throw _

theorem sober_regexTest : Sober regexTest := fun _ ↦
  (asks_value 0).bind fun _ ↦ (asks_value 1).bind fun _ ↦ (settle _).bind fun _ ↦ pure _

theorem sober_regexReplace : Sober regexReplace := fun _ ↦
  (asks_value 0).bind fun _ ↦ (asks_value 1).bind fun _ ↦ (asks_value 2).bind fun _ ↦
    (settle _).bind fun _ ↦ pure _

theorem sober_lower : Sober lower := fun _ ↦ (asks_value 0).bind fun _ ↦ pure _

theorem asks_findEntity (c : Invocation) (kind : EntityKind) :
    (findEntity c kind).Asks Query.isSober := by
  refine (asks_value 0).bind fun _ ↦ (asks_value 1).bind fun _ ↦ (ask rfl).bind fun _ ↦ ?_
  extract_lets quiet own query missing
  split
  · exact failing _
  · exact .bind (demand (Script.asks_query rfl)) fun _ ↦ ofOption _ _

theorem sober_lookupId (kind : EntityKind) : Sober (lookupId kind) := fun c ↦
  (asks_findEntity c kind).bind fun _ ↦ pure _

theorem sober_lookupName (kind : EntityKind) : Sober (lookupName kind) := fun c ↦
  (asks_findEntity c kind).bind fun _ ↦ pure _

theorem sober_countUsers : Sober countUsers := fun _ ↦
  .bind (demand (Script.asks_query rfl)) fun _ ↦ pure _

section Loops

variable {p : Query → Bool}

theorem asks_iteration (hrunning : p .running = true) (hiterate : p .iterate = true)
    {body : Action String} (hbody : body.Asks p) (output : String) {next : String → Action String}
    (hnext : ∀ output, (next output).Asks p) : (iteration body output next).Asks p := by
  refine (ask hrunning).bind fun running ↦ ?_
  split
  · exact .bind (demand (Script.asks_query hiterate)) fun _ ↦ hbody.bind fun _ ↦ hnext _
  · exact pure output

theorem asks_times (hrunning : p .running = true) (hiterate : p .iterate = true)
    {body : Nat → Action String} (hbody : ∀ i, (body i).Asks p) (count start : Nat)
    (output : String) : (times body count start output).Asks p := by
  induction count generalizing start output with
  | zero => exact pure output
  | succ count ih => exact asks_iteration hrunning hiterate (hbody start) output (ih (start + 1))

theorem asks_each {α : Type} (hrunning : p .running = true) (hiterate : p .iterate = true)
    {body : α → Action String} (hbody : ∀ item, (body item).Asks p) (items : List α)
    (output : String) : (each body items output).Asks p := by
  induction items generalizing output with
  | nil => exact pure output
  | cons item items ih => exact asks_iteration hrunning hiterate (hbody item) output ih

end Loops

theorem repeatCode_asks (c : Invocation) : (repeatCode c).Asks Query.isLooping := by
  refine (ask rfl).bind fun _ ↦ (ofOption _ _).bind fun amount ↦ .ite (failing _) ?_
  exact (asks_times rfl rfl (fun _ ↦ ask rfl) amount.toNat 0 "").bind fun _ ↦ pure _

theorem forEach_asks (c : Invocation) : (forEach c).Asks Query.isLooping := by
  have hlooping (q : Query) (hq : q.isSober = true) : q.isLooping = true := by
    rw [Query.isLooping, hq, Bool.true_or]
  refine (ask rfl).bind fun name ↦ (ask rfl).bind fun text ↦
    ((asks_resolveArray text).mono hlooping).bind fun array ↦
    ((asks_getVariable name).mono hlooping).bind fun previous ↦ ?_
  have hbody (item : Value) : Action.Asks Query.isLooping
      (do Action.setVariable name item; Action.again 2) :=
    ((asks_setVariable name item).mono hlooping).bind fun _ ↦ ask rfl
  exact (outcome (asks_each rfl rfl hbody array.items "")).bind fun result ↦ (ask rfl).bind
    fun restored ↦ (settle result).bind fun _ ↦ (settle restored).bind fun _ ↦ pure _

theorem callFunction_asks (c : Invocation) : (callFunction c).Asks Query.isCalling := by
  refine (ask rfl).bind fun found ↦ ?_
  split
  · exact .bind ((ask rfl).bind fun count ↦ collect (fun _ ↦ ask rfl) 0 count) fun _ ↦
      (ask rfl).bind fun _ ↦ pure _
  · exact throw _

end Subtags

/-- The scripts of the standard: those that are modest, the two loops, and the call of a function,
whose arguments are eager. -/
inductive Handler.Usual (id : String) (eager : Nat → Bool) : Handler → Prop
  | modest {body : Invocation → Action (Option String)} (h : Modest body) :
    Usual id eager (.script body)
  | repeatCode (h : id = "repeat") : Usual id eager (.script Subtags.repeatCode)
  | forEach (h : id = "foreach") : Usual id eager (.script Subtags.forEach)
  | callFunction (h : eager 0 = true) : Usual id eager (.script Subtags.callFunction)

inductive Handler.Listed (id : String) (eager : Nat → Bool) : Handler → Prop
  | sober {body : Invocation → Action (Option String)} (h : Sober body) :
    Listed id eager (.script body)
  | escape (h : id = "escapebbtag") : Listed id eager (.script Subtags.escape)
  | repeatCode (h : id = "repeat") : Listed id eager (.script Subtags.repeatCode)
  | forEach (h : id = "foreach") : Listed id eager (.script Subtags.forEach)
  | callFunction (h : eager 0 = true) : Listed id eager (.script Subtags.callFunction)

namespace Handler.Listed

variable {id : String} {eager : Nat → Bool}

theorem usual {handler : Handler} (h : handler.Listed id eager) : handler.Usual id eager := by
  cases h with
  | sober h => exact .modest fun c ↦ (h c).modest
  | escape => exact .modest Subtags.modest_escape
  | repeatCode h => exact .repeatCode h
  | forEach h => exact .forEach h
  | callFunction h => exact .callFunction h

theorem unquoting {body : Invocation → Action (Option String)}
    (h : (Handler.script body).Listed id eager) (hid : id ≠ "escapebbtag") (c : Invocation) :
    (body c).Asks (!·.isQuotation) := by
  cases h with
  | sober h => exact (h c).unquoting
  | escape h => exact absurd h hid
  | repeatCode => exact (Subtags.repeatCode_asks c).mono fun _ ↦ Query.unquoting_of_isLooping
  | forEach => exact (Subtags.forEach_asks c).mono fun _ ↦ Query.unquoting_of_isLooping
  | callFunction => exact (Subtags.callFunction_asks c).mono fun _ ↦ Query.unquoting_of_isCalling

end Handler.Listed

def Declaration.Listed (d : Declaration Handler) : Prop :=
  ∀ x ∈ d.signatures, x.2.2.Listed d.id (eagerSlots x.1)

namespace Subtags

theorem standardDeclarations_listed : ∀ d ∈ standardDeclarations, d.Listed := by
  simp only [standardDeclarations, dataDeclarations, getDeclaration, setDeclaration,
    shuffleDeclaration, lengthDeclaration, indexDeclaration, joinDeclaration, choiceDeclarations,
    ifDeclaration, chooseDeclaration, randchooseDeclaration, flowDeclarations, voidDeclaration,
    returnDeclaration, tryDeclaration, throwDeclaration, iterationDeclarations, repeatDeclaration,
    foreachDeclaration, procedureDeclarations, functionDeclaration, callDeclaration,
    paramsDeclaration, presentationDeclarations, quietDeclaration, fallbackDeclaration,
    lbDeclaration, rbDeclaration, semiDeclaration, escapebbtagDeclaration, constantDeclaration,
    computationDeclarations, mathDeclaration, regextestDeclaration, regexreplaceDeclaration,
    lowerDeclaration, lookupDeclarations, useridDeclaration, usernameDeclaration,
    channelidDeclaration, usercountDeclaration, lookupDeclaration, Declaration.Listed,
    List.forall_mem_append, List.forall_mem_cons, List.not_mem_nil, false_imp_iff, implies_true,
    and_true]
  exact ⟨⟨⟨⟨⟨⟨⟨
    ⟨.sober sober_get, .sober sober_set, ⟨.sober sober_nothing, .sober sober_shuffle⟩,
      .sober sober_length, .sober sober_index, .sober sober_join⟩,
    ⟨.sober sober_ifTrue, .sober sober_ifCompare⟩, .sober sober_choose,
      .sober sober_chooseAtRandom⟩,
    .sober sober_discard, .sober sober_leave, .sober sober_tryCatch, .sober sober_raise⟩,
    .repeatCode rfl, .forEach rfl⟩,
    .sober sober_defineFunction, .callFunction rfl, .sober sober_allParams,
      .sober sober_param⟩,
    .sober sober_setQuiet, ⟨.sober sober_clearFallback, .sober sober_setFallback⟩,
      .sober (sober_constant _), .sober (sober_constant _), .sober (sober_constant _),
      .escape rfl⟩,
    .sober sober_math, .sober sober_regexTest, .sober sober_regexReplace,
      .sober sober_lower⟩,
    .sober (sober_lookupId _), .sober (sober_lookupName _), .sober (sober_lookupId _),
      .sober sober_countUsers⟩

end Subtags

def Registry.Usual (registry : Registry Handler) : Prop :=
  ∀ name d, registry.lookup name = some d → ∀ s ∈ d.signatures, s.handler.Usual d.id s.eager

theorem Engine.Standard.listed {e : Engine} (he : e.Standard) {name : String}
    {d : Definition Handler} (hd : e.registry.lookup name = some d) {s : Signature Handler}
    (hs : s ∈ d.signatures) : s.handler.Listed d.id s.eager := by
  obtain ⟨declaration, hmem, hdeclaration⟩ := he.declared hd
  obtain ⟨declared, hdeclared, hcompile⟩ := Definition.compiled_of_declaration hdeclaration hs
  have hlisted := Subtags.standardDeclarations_listed declaration hmem declared hdeclared
  have hid : d.id = Text.lower declaration.id := (Definition.of_declaration hdeclaration).1
  rw [Signature.handler_of_compile hcompile, hid]
  generalize declared.2.2 = handler at hlisted
  cases hlisted with
  | sober h => exact .sober h
  | escape h => exact .escape (by rw [h]; decide)
  | repeatCode h => exact .repeatCode (by rw [h]; decide)
  | forEach h => exact .forEach (by rw [h]; decide)
  | callFunction h => exact .callFunction (Signature.eager_of_compile hcompile h)

theorem Engine.Standard.usual {e : Engine} (he : e.Standard) : e.registry.Usual :=
  fun _ _ hd _ hs ↦ (he.listed hd hs).usual

end BraceScript
