import BraceScript.Proofs.Json.RoundTrip
import BraceScript.Proofs.Run.Arrays
import BraceScript.Proofs.Run.Recounting
import BraceScript.Proofs.Run.Room

namespace BraceScript

open Subtags

structure State.SameVariables (s t : State) : Prop where
  store : t.store = s.store
  frame : t.frame = s.frame

namespace State.SameVariables

variable {s t u : State}

theorem refl (s : State) : s.SameVariables s := ⟨rfl, rfl⟩

theorem trans (h : s.SameVariables t) (h' : t.SameVariables u) : s.SameVariables u :=
  ⟨h'.store.trans h.store, h'.frame.trans h.frame⟩

theorem symm (h : s.SameVariables t) : t.SameVariables s := ⟨h.store.symm, h.frame.symm⟩

theorem getVariable_eq (h : s.SameVariables t) (svc : Services) (raw : String) :
    svc.getVariable raw t = svc.getVariable raw s :=
  Services.getVariable_congr raw h.store (congrArg Frame.temporaries h.frame)

theorem poke (h : s.SameVariables t) (value? : Option Value) (c : Cell) :
    (s.poke value? c).SameVariables (t.poke value? c) := by
  obtain ⟨hstore, hframe⟩ := h
  obtain ⟨_ | scope, name⟩ := c
  · exact ⟨hstore, by simp only [State.poke, Services.withTemporaries, hframe]⟩
  · exact ⟨by simp only [State.poke, hstore], hframe⟩

theorem of_peek {c : Cell} {value : Value} (h : s.peek c = some value) :
    s.SameVariables (s.poke (some value) c) := by
  obtain ⟨_ | scope, name⟩ := c
  · refine ⟨rfl, ?_⟩
    simp only [State.poke, Services.withTemporaries, Table.put, Table.set_of_get? h]
  · exact ⟨Table.set_of_get? h, rfl⟩

theorem tick (svc : Services) (s : State) : s.SameVariables (svc.tick s).2 :=
  ⟨(tick_variables svc s).1, (tick_variables svc s).2⟩

theorem popCall (s : State) : s.SameVariables s.popCall := ⟨rfl, rfl⟩

theorem conclude (svc : Services) (name : String) (span : Span) (outcome : Outcome) (s : State) :
    s.SameVariables (conclude svc name span outcome s).2 := by
  cases outcome with
  | ok text => exact refl s
  | error e =>
    change s.SameVariables (fail svc name span e s).2
    rw [fail_eq]
    obtain hrecord | ⟨caught, rest, -, -, hrecord⟩ := State.record_cases
      { s with phase := if e.isTerminal then .aborted else s.phase } ⟨span, name, e, s.stack⟩
    · rw [hrecord]
      exact ⟨rfl, rfl⟩
    · rw [hrecord]
      exact ⟨rfl, rfl⟩

end State.SameVariables

section Refusal

variable {env : Env} {s : State} {name : String} {nameSpan : Span} {args : List Statement}
  {span : Span}

theorem isRunning_conclude_of_isTerminal (svc : Services) (name : String) (span : Span) {e : Error}
    (he : e.isTerminal = true) (s : State) :
    (conclude svc name span (.error e) s).2.isRunning = false := by
  change (fail svc name span e s).2.isRunning = false
  rw [fail_eq, he, if_pos rfl]
  obtain hrecord | ⟨caught, rest, -, -, hrecord⟩ := State.record_cases
    { s with phase := .aborted } ⟨span, name, e, s.stack⟩ <;>
  · rw [hrecord]
    rfl

/-- The run is no longer running, and no variable has changed; if it was running before, it has been
stopped. -/
structure State.Refused (l : Limits) (s t : State) : Prop where
  ended : t.isRunning = false
  same : s.SameVariables t
  stopped : s.isRunning = true → s.StoppedSince l t

theorem State.Refused.conclude {l : Limits} {s t : State} (svc : Services) (name : String)
    (span : Span) {e : Error} (he : e.isTerminal = true) (hsame : s.SameVariables t)
    (hstopped : s.StoppedSince l t) :
    s.Refused l (conclude svc name span (.error e) t).2 where
  ended := isRunning_conclude_of_isTerminal svc name span he t
  same := hsame.trans (.conclude ..)
  stopped _ := hstopped.later (.fail svc name span e t)

theorem respond_of_refused {d : Definition Handler} (hd : env.registry.lookup name = some d)
    (args : List Statement) (span : Span) (hrefused : ¬s.MayCall env.services.limits) :
    s.Refused env.services.limits (respond env
      (env.inner (env.services.limits.maxDepth - s.calls.length)) name args span s).2 := by
  rw [respond_eq]
  by_cases hfull : env.services.limits.ceiling .calls ≤ s.usage.used .calls
  · rw [invoke_eq env hd, Services.charge_eq, if_pos hfull]
    exact .conclude _ name span rfl ⟨rfl, rfl⟩ ⟨_, .calls, (State.Precedes.refl s).notedSince rfl⟩
  · have hbelow := Nat.lt_of_not_le hfull
    have hdeep : env.services.limits.maxDepth - s.calls.length = 0 := by
      by_contra hroom
      exact hrefused ⟨hbelow, by omega⟩
    have hcharged : s.Precedes (s.charged .calls) := .of_journal [.charged .calls] rfl rfl
    rw [hdeep, Env.inner, invoke_counted hd hbelow]
    exact .conclude _ name span rfl ⟨rfl, rfl⟩ ⟨_, .depth, hcharged.notedSince rfl⟩

theorem Env.eval_of_refused (env : Env) {d : Definition Handler}
    (hd : env.registry.lookup (normalize name) = some d) (span' : Span)
    (hrefused : s.isRunning = true → (env.services.tick s).1 = true →
      ¬s.MayCall env.services.limits) :
    s.Refused env.services.limits
      (env.eval (.mk [.call (.mk [.literal name nameSpan] nameSpan) args span] span') s).2 := by
  cases hrunning : s.isRunning with
  | false =>
    rw [Env.eval_stopped hrunning]
    exact ⟨hrunning, .refl s, fun hgoing ↦ absurd (hrunning.symm.trans hgoing) Bool.false_ne_true⟩
  | true =>
    let answer := respond env (env.inner (env.services.limits.maxDepth - s.calls.length))
    have hstatement : (env.eval (.mk [.call (.mk [.literal name nameSpan] nameSpan) args span] span')
        s).2 = (evalPart env.services answer
          (.call (.mk [.literal name nameSpan] nameSpan) args span) s).2 := by
      unfold Env.eval
      rw [evalAt_eq, Statement.parts, evalParts_cons hrunning]
      simp only [evalParts]
      rfl
    rw [hstatement]
    cases hgoing : (env.services.tick s).1 with
    | false =>
      rw [evalPart_call, hgoing]
      exact ⟨tick_isRunning_of_not hgoing, .tick env.services s, fun _ ↦ .tick hgoing⟩
    | true =>
      have hticked := (tick_isRunning hgoing).trans hrunning
      have hmay : ¬(env.services.tick s).2.MayCall env.services.limits :=
        mt State.mayCall_tick.mp (hrefused hrunning hgoing)
      have hanswer := respond_of_refused hd args span hmay
      rw [tick_calls] at hanswer
      have hname : evalParts env.services answer [.literal name nameSpan] (env.services.tick s).2 =
          (name, (env.services.tick s).2) := by
        rw [evalParts_cons hticked]
        simp only [evalPart, evalParts, String.append_empty]
      rw [evalPart_ticked hgoing, Statement.parts, hname, if_pos hticked]
      exact ⟨hanswer.ended, (State.SameVariables.tick env.services s).trans hanswer.same,
        fun _ ↦ (hanswer.stopped hticked).earlier (.tick env.services s)⟩

theorem Engine.Standard.boundCall_or_refused {e : Engine} (he : e.Standard) (r : Request) (s : State)
    {args : List Statement} {declaration : Declaration Handler}
    (hmem : declaration ∈ standardDeclarations) {patterns : List String} {text : String}
    {handler : Handler} (hone : declaration.signatures = [(patterns, text, handler)])
    {signature : Signature Handler}
    (hcompile : Signature.compile patterns text handler = .ok signature) {bound : Arguments}
    (hbind : Binding.bind [signature] args = .ok (signature, bound)) {name : String}
    (hkey : normalize (normalize name) ∈ declaration.keys) (nameSpan span : Span) :
    (∃ c : BoundCall (e.env r) s (.mk [.literal name nameSpan] nameSpan) args span,
      c.signature = signature ∧ c.bound = bound) ∨
    ∀ span', s.Refused (e.env r).services.limits ((e.env r).eval
      (.mk [.call (.mk [.literal name nameSpan] nameSpan) args span] span') s).2 := by
  by_cases hmade : s.isRunning = true ∧ ((e.env r).services.tick s).1 = true ∧
      s.MayCall (e.env r).services.limits
  · obtain ⟨hrunning, hgoing, hmay⟩ := hmade
    obtain ⟨c, -, hsignature, hbound⟩ := he.exists_boundCall_of_tick args hmem hone hcompile hbind
      hkey hrunning hgoing hmay nameSpan span
    exact Or.inl ⟨c, hsignature, hbound⟩
  · obtain ⟨d, -, hd⟩ := he.lookup_of_key hmem hkey
    refine Or.inr fun span' ↦ (e.env r).eval_of_refused hd span' fun hrunning hgoing hmay ↦ ?_
    exact hmade ⟨hrunning, hgoing, hmay⟩

end Refusal

section Literals

theorem evalParts_of_literalText {svc : Services} {answer : Responder} {s : State}
    (h : s.isRunning = true) {parts : List Part} {text : String}
    (hparts : Statement.literalText parts = some text) :
    evalParts svc answer parts s = (text, s) := by
  induction parts generalizing text with
  | nil =>
    cases hparts
    rw [evalParts]
  | cons part parts ih =>
    cases part with
    | call => cases hparts
    | literal first span =>
      obtain ⟨rest, hrest, rfl⟩ := Option.map_eq_some_iff.mp hparts
      rw [evalParts_cons h, evalPart]
      dsimp only
      rw [ih hrest]

variable {env : Env} {s : State}

theorem Env.eval_of_literal? (env : Env) (h : s.isRunning = true) {x : Statement} {text : String}
    (hx : x.literal? = some text) : env.eval x s = (text, s) := by
  unfold eval
  rw [evalAt_eq]
  exact evalParts_of_literalText h hx

theorem Env.evalEach_of_literal? (env : Env) (h : s.isRunning = true) {xs : List Statement}
    {texts : List String} (hxs : xs.map Statement.literal? = texts.map some) :
    evalEach env.eval xs s = (texts, s) := by
  induction xs generalizing texts with
  | nil =>
    obtain rfl : texts = [] := by simpa using hxs.symm
    rfl
  | cons x xs ih =>
    cases texts with
    | nil => cases hxs
    | cons text texts =>
      obtain ⟨hx, hxs⟩ := List.cons.inj hxs
      rw [evalEach_cons h, env.eval_of_literal? h hx, ih hxs]

/-- Where the arguments hold no calls, the handler finds their texts and nothing else has
changed. -/
theorem BoundCall.holds_of_literal? {e : Engine} {r : Request} {name : Statement}
    {args : List Statement} {span : Span} (c : BoundCall (e.env r) s name args span)
    (hrequired : c.signature.AllRequired) {texts : List String}
    (hargs : args.map Statement.literal? = texts.map some) :
    c.resolved.2 = c.entered ∧
      ∀ i text, texts[i]? = some text → c.opening.args.Holds i [text] := by
  have heach := (e.env r).evalEach_of_literal? c.isRunning_entered hargs
  have hresolved : c.resolved.2 = c.entered := by rw [c.resolved_of_required hrequired, heach]
  have hstarts : c.resolved.2.isRunning = true := by
    rw [hresolved]
    exact c.isRunning_entered
  obtain ⟨found, hfound, -, hholds⟩ := c.texts_of_required hrequired hstarts
  obtain ⟨rfl, -⟩ := Prod.mk.inj (heach.symm.trans hfound)
  exact ⟨hresolved, hholds⟩

end Literals

def Subtags.stored : List String → Value
  | [text] => .ofText text
  | texts => .list (texts.map .text)

def Subtags.nameParameter : Parameter := ⟨"name", .eager, .required⟩

def Subtags.valuesParameter : Parameter := ⟨"values", .eager, .repeated 0⟩

def Subtags.getSignature (description : String) : Signature Handler where
  parameters := [nameParameter]
  description
  handler := .script get
  least := 1

theorem Subtags.declares_get : Declares getDeclaration getSignature :=
  ⟨by simp [standardDeclarations, dataDeclarations], _, _, _, rfl, rfl⟩

theorem Subtags.allRequired_get (description : String) : (getSignature description).AllRequired := by
  simp [Signature.AllRequired, getSignature, nameParameter]

section Scripts

variable {svc : Services} {eval : Eval} {t : Activation} {n : String}

theorem Subtags.exec_get (hname : t.args.Holds 0 [n]) (c : Invocation) :
    (get c).exec svc eval t =
      ((svc.getVariable n t.state).map fun value? ↦ value?.map Value.render, t) := by
  have hget : (Action.getVariable n).exec svc eval t = (svc.getVariable n t.state, t) := rfl
  unfold get
  rw [Action.exec_bind, hname.exec_value]
  dsimp only
  rw [Action.exec_bind, hget]
  cases svc.getVariable n t.state <;> rfl

theorem Subtags.exec_set (hname : t.args.Holds 0 [n]) {texts : List String}
    (hvalues : t.args.Holds 1 texts) (hne : texts ≠ []) (c : Invocation) :
    let written := svc.setVariable n (stored texts) t.state
    (set c).exec svc eval t = (written.1.map fun _ ↦ none, ⟨t.args, written.2⟩) := by
  intro written
  have hset (value : Value) : (do Action.setVariable n value; return none : Action (Option String)).exec
      svc eval t = ((svc.setVariable n value t.state).1.map fun _ ↦ none,
        ⟨t.args, (svc.setVariable n value t.state).2⟩) := by
    rw [Action.exec_bind, Action.exec_setVariable]
    rcases svc.setVariable n value t.state with ⟨e | _, u⟩ <;> rfl
  unfold set
  rw [Action.exec_bind, hname.exec_value]
  dsimp only
  rw [Action.exec_bind, hvalues.exec_values]
  dsimp only
  split
  · exact absurd rfl hne
  · exact hset _
  · rename_i hmany
    have hstored : stored texts = .list (texts.map .text) := by
      unfold stored
      split
      · exact absurd rfl (hmany _)
      · rfl
    dsimp only [written]
    rw [hstored]
    exact hset _

end Scripts

theorem Subtags.bind_set (description : String) (x : Statement) (xs : List Statement) :
    Binding.bind [setSignature description] (x :: xs) = .ok (setSignature description,
      ⟨(setSignature description).parameters,
        [[.supplied nameParameter x], xs.map (.supplied valuesParameter)]⟩) := by
  have hleast : (setSignature description).least = 1 := rfl
  have hgreatest : (setSignature description).greatest? = none := rfl
  have haccepts : (setSignature description).accepts (x :: xs).length = true := by
    simp [Signature.accepts, hleast, hgreatest]
  rw [Binding.bind_of_find? (List.find?_cons_of_pos haccepts), hleast]
  simp [Binding.assign, setSignature, nameParameter, valuesParameter]

namespace BoundCall

variable {e : Engine} {r : Request} {s : State} {span : Span}

theorem sameVariables_entered {name : String} {nameSpan : Span} {args : List Statement}
    (c : BoundCall (e.env r) s (.mk [.literal name nameSpan] nameSpan) args span) :
    s.SameVariables c.entered := by
  rw [c.entered_of_plain]
  exact (State.SameVariables.tick (e.env r).services s).trans ⟨rfl, rfl⟩

theorem sameVariables_opening {name : String} {nameSpan : Span} {args : List Statement}
    (c : BoundCall (e.env r) s (.mk [.literal name nameSpan] nameSpan) args span)
    (h : c.resolved.2 = c.entered) : s.SameVariables c.opening.state := by
  unfold opening
  rw [h]
  exact c.sameVariables_entered.trans ⟨rfl, rfl⟩

theorem eval_get (he : e.Standard) {name : String} {nameSpan : Span} {x : Statement} {n : String}
    (hx : x.literal? = some n)
    (c : BoundCall (e.env r) s (.mk [.literal name nameSpan] nameSpan) [x] span)
    {description : String} (hsignature : c.signature = getSignature description) (span' : Span) :
    (e.env r).eval (.mk [.call (.mk [.literal name nameSpan] nameSpan) [x] span] span') s =
      conclude (e.env r).services (normalize name) span
        (((e.env r).services.getVariable n s).map fun value? ↦ value?.map Value.render)
        (s.visited (e.env r).services ⟨normalize name, span⟩) := by
  have hargs : [x].map Statement.literal? = [n].map some := by rw [List.map_singleton, hx]; rfl
  obtain ⟨hresolved, hholds⟩ := c.holds_of_literal? (hsignature ▸ allRequired_get _) hargs
  refine c.eval_of_idle he.scripted hresolved ?_ span'
  rw [c.handled_of_script (congrArg Signature.handler hsignature), exec_get (hholds 0 n rfl),
    (c.sameVariables_opening hresolved).getVariable_eq]

variable {name x : Statement} {xs : List Statement}
  (c : BoundCall (e.env r) s name (x :: xs) span)
  (hslots : c.bound.slots = [[.supplied nameParameter x], xs.map (.supplied valuesParameter)])

include hslots

theorem resolved_of_set : c.resolved.2 = (evalEach (e.env r).eval (x :: xs) c.entered).2 := by
  rw [c.resolved_eq, hslots]
  congr 2
  simp [Argument.codeOf, Argument.supplied, nameParameter, valuesParameter, Argument.statement?,
    Function.comp_def]

theorem holds_of_set {text : String} {texts : List String}
    (heach : evalEach (e.env r).eval (x :: xs) c.entered = (text :: texts, c.resolved.2))
    (hstarts : c.resolved.2.isRunning = true) :
    c.opening.args.Holds 0 [text] ∧ c.opening.args.Holds 1 texts := by
  have heager : ∀ a ∈ c.bound.slots.flatten, a.isEager = true := by
    rw [hslots]
    simp [Argument.isEager, Argument.isSupplied, Argument.statement?, Argument.supplied,
      nameParameter, valuesParameter]
  have hall : c.bound.slots.flatten.filterMap Argument.statement? = x :: xs := by
    rw [hslots]
    simp [Argument.statement?, Argument.supplied, Function.comp_def]
  obtain ⟨lists, heach', hlengths, hholds⟩ := c.exists_texts heager hall hstarts
  rw [heach] at heach'
  have hlists : lists = [[text], texts] := by
    have hrunning : (evalEach (e.env r).eval (x :: xs) c.entered).2.isRunning = true := by
      rw [heach]
      exact hstarts
    have hlength := length_evalEach hrunning
    rw [heach] at hlength
    rw [List.eq_iff_flatten_eq, hlengths, hslots, ← (Prod.mk.inj heach').1]
    exact ⟨by simp, by simpa using hlength.symm⟩
  rw [hlists] at hholds
  exact ⟨hholds 0, hholds 1⟩

theorem eval_set (he : e.Standard) {description : String}
    (hsignature : c.signature = setSignature description) {n : String} {texts : List String}
    (heach : evalEach (e.env r).eval (x :: xs) c.entered = (n :: texts, c.resolved.2))
    (hstarts : c.resolved.2.isRunning = true) (hne : texts ≠ []) (span' : Span) :
    let written := (e.env r).services.setVariable n (stored texts) c.opening.state
    (e.env r).eval (.mk [.call name (x :: xs) span] span') s =
      conclude (e.env r).services c.frame.name span (written.1.map fun _ ↦ none)
        written.2.popCall := by
  obtain ⟨hname, hvalues⟩ := c.holds_of_set hslots heach hstarts
  rw [c.eval_eq he.scripted, if_pos hstarts,
    c.handled_of_script (congrArg Signature.handler hsignature), exec_set hname hvalues hne]

end BoundCall

section Calls

variable {e : Engine} (he : e.Standard) {r : Request} {s : State} {x : Statement} {n : String}
  (hx : x.literal? = some n) (nameSpan span span' : Span)

include he hx

/-- A call that sets a variable to the texts of code that writes no variable leaves all variables
alone, since the run stops with it or there is no such variable, or it writes what the texts stand
for. -/
theorem Engine.Standard.eval_set_cases (hstore : e.faults.IsReliable) {xs : List Statement}
    (hne : xs ≠ []) {p : List String → Prop}
    (hvalues : ∀ u, s.SameVariables u → u.isRunning = true →
      s.SameVariables (evalEach (e.env r).eval xs u).2 ∧
      ((evalEach (e.env r).eval xs u).2.isRunning = true → p (evalEach (e.env r).eval xs u).1)) :
    let t := ((e.env r).eval
      (.mk [.call (.mk [.literal "set" nameSpan] nameSpan) (x :: xs) span] span') s).2
    (s.SameVariables t ∧ (t.isRunning = true → ∃ err, (e.env r).services.locate n = .error err)) ∨
    ∃ cell texts, (e.env r).services.locate n = .ok cell ∧ p texts ∧
      (s.poke (some (stored texts)) cell).SameVariables t := by
  intro t
  obtain ⟨c, hsignature, hbound⟩ | hrefused := he.boundCall_or_refused r s declares_set.mem rfl rfl
    (bind_set _ x xs) (by decide +kernel : normalize (normalize "set") ∈ _) nameSpan span
  · have hslots : c.bound.slots = _ := congrArg Arguments.slots hbound
    have hresolved := c.resolved_of_set hslots
    obtain ⟨hsame, hp⟩ := hvalues c.entered c.sameVariables_entered c.isRunning_entered
    have heach : evalEach (e.env r).eval (x :: xs) c.entered =
        (n :: (evalEach (e.env r).eval xs c.entered).1, (evalEach (e.env r).eval xs c.entered).2) := by
      rw [evalEach_cons c.isRunning_entered, (e.env r).eval_of_literal? c.isRunning_entered hx]
    rw [heach] at hresolved
    rw [← hresolved] at hsame hp
    cases hrunning : c.resolved.2.isRunning with
    | false =>
      have hcalled : t = c.resolved.2.popCall := by
        change ((e.env r).eval _ s).2 = _
        rw [c.eval_eq he.scripted, hrunning]
        rfl
      rw [hcalled]
      refine Or.inl ⟨hsame.trans (.popCall _), fun hgoing ↦ ?_⟩
      exact absurd (hrunning.symm.trans hgoing) Bool.false_ne_true
    | true =>
      rw [← hresolved] at heach
      have htexts : (evalEach (e.env r).eval xs c.entered).1 ≠ [] := by
        have hlength := length_evalEach (hresolved ▸ hrunning)
        exact fun hnone ↦ hne (List.eq_nil_of_length_eq_zero (hlength ▸ congrArg List.length hnone))
      have hopening : s.SameVariables c.opening.state := hsame.trans ⟨rfl, rfl⟩
      have hcalled : t = _ :=
        congrArg Prod.snd (c.eval_set hslots he hsignature heach hrunning htexts span')
      cases hlocate : (e.env r).services.locate n with
      | error err =>
        have hwritten : (e.env r).services.setVariable n
            (stored (evalEach (e.env r).eval xs c.entered).1) c.opening.state =
              (.error err, c.opening.state) := by
          simp only [Services.setVariable, Services.assign, hlocate, Services.noteWrite]
        rw [hwritten] at hcalled
        rw [hcalled]
        exact Or.inl ⟨(hopening.trans (.popCall _)).trans (.conclude ..), fun _ ↦ ⟨err, rfl⟩⟩
      | ok cell =>
        rw [Services.setVariable_of_locate hstore _ hlocate] at hcalled
        rw [hcalled]
        exact Or.inr ⟨cell, _, rfl, hp hrunning, (hopening.poke _ cell).trans ⟨rfl, rfl⟩⟩
  · obtain ⟨hended, hsame, -⟩ := hrefused span'
    exact Or.inl ⟨hsame, fun hrunning ↦ absurd (hended.symm.trans hrunning) Bool.false_ne_true⟩

theorem Engine.Standard.eval_get_or_refused :
    let a := (e.env r).eval (.mk [.call (.mk [.literal "get" nameSpan] nameSpan) [x] span] span') s
    (((e.env r).services.tick s).1 = true ∧
      a = conclude (e.env r).services (normalize "get") span
        (((e.env r).services.getVariable n s).map fun value? ↦ value?.map Value.render)
        (s.visited (e.env r).services ⟨normalize "get", span⟩)) ∨
    s.Refused (e.env r).services.limits a.2 := by
  obtain ⟨c, hsignature, -⟩ | hrefused := he.boundCall_or_refused r s declares_get.mem rfl rfl
    (by rfl : Binding.bind [getSignature _] [x] = _)
    (by decide +kernel : normalize (normalize "get") ∈ _) nameSpan span
  · exact Or.inl ⟨c.going, c.eval_get he hx hsignature span'⟩
  · exact Or.inr (hrefused span')

/-- A call that reads a variable writes none, and gives the text of its value unless the run
stops. -/
theorem Engine.Standard.eval_get_cases :
    let a := (e.env r).eval (.mk [.call (.mk [.literal "get" nameSpan] nameSpan) [x] span] span') s
    s.SameVariables a.2 ∧ (a.2.isRunning = true →
      ∀ value, (e.env r).services.getVariable n s = .ok (some value) → a.1 = value.render) := by
  intro a
  obtain ⟨-, hcalled⟩ | hrefused := he.eval_get_or_refused (r := r) (s := s) hx nameSpan span span'
  · have hvisited := s.visited_visited (e.env r).services ⟨normalize "get", span⟩
    have ha : a = _ := hcalled
    rw [ha]
    refine ⟨State.SameVariables.trans ⟨hvisited.store, hvisited.frame⟩ (.conclude ..),
      fun _ value hvalue ↦ ?_⟩
    rw [hvalue]
    rfl
  · obtain ⟨hended, hsame, -⟩ := hrefused
    exact ⟨hsame, fun hrunning ↦ absurd (hended.symm.trans hrunning) Bool.false_ne_true⟩

theorem Engine.Standard.sameVariables_set_get (hstore : e.faults.IsReliable) {x' : Statement}
    (hx' : x'.literal? = some n) (a b : Span)
    (hvalue : ∀ cell, (e.env r).services.locate n = .ok cell → ∃ value,
      (e.env r).services.getVariable n s = .ok (some value) ∧ Value.ofText value.render = value) :
    s.SameVariables
      ((e.env r).eval (.ofCall "set" [x, .ofCall "get" [x'] a b] nameSpan span) s).2 := by
  have hreliable : (e.env r).services.faults.IsReliable := hstore
  have hcases := he.eval_set_cases (r := r) (s := s) hx nameSpan span span hstore
    (List.cons_ne_nil (.ofCall "get" [x'] a b) [])
    (p := fun texts ↦ ∀ value, (e.env r).services.getVariable n s = .ok (some value) →
      texts = [value.render]) fun u hsame hrunning ↦ by
      obtain ⟨hkept, htext⟩ := he.eval_get_cases (r := r) (s := u) hx' a b b
      rw [evalEach_cons hrunning]
      refine ⟨hsame.trans hkept, fun hgoing value hvalue ↦ ?_⟩
      rw [← hsame.getVariable_eq] at hvalue
      exact congrArg ([·]) (htext hgoing value hvalue)
  obtain ⟨hsame, -⟩ | ⟨cell, texts, hcell, htexts, hwritten⟩ := hcases
  · exact hsame
  · obtain ⟨value, hget, hstands⟩ := hvalue cell hcell
    have hpeek : s.peek cell = some value := by
      rw [Services.getVariable_eq hreliable, hcell] at hget
      exact Except.ok.inj hget
    rw [htexts value hget, stored, hstands] at hwritten
    exact (State.SameVariables.of_peek hpeek).trans hwritten

end Calls

/-- Storing what was read changes nothing: a value that was stored as a text is stored again when
its text is, and the text is the same unless it reads as an array. So a variable that has been set
is left as it is by storing what is read from it, and so are all others. -/
theorem Engine.stored_again {e : Engine} (he : e.Standard) (r : Request) (t : String)
    (hexact : ∀ items, Value.items? t = some items → (Value.list items).doubles = []) :
    Value.ofText (Value.ofText t).render = Value.ofText t ∧
    (Value.items? t = none → (Value.ofText t).render = t) ∧
    (e.faults.IsReliable → ∀ (s : State) (n : String) (x x' x'' y : Statement)
      (a b a' b' a'' b'' : Span),
      x.literal? = some n → x'.literal? = some n → x''.literal? = some n → y.literal? = some t →
      let once := ((e.env r).eval (.ofCall "set" [x, y] a b) s).2
      let again := ((e.env r).eval (.ofCall "set" [x', .ofCall "get" [x''] a'' b''] a' b') once).2
      once.SameVariables again ∧
      (once.isRunning = true → ∀ cell, (e.env r).services.locate n = .ok cell →
        (e.env r).services.getVariable n once = .ok (some (.ofText t)) ∧
        (e.env r).services.getVariable n again = .ok (some (.ofText t)))) := by
  have hstable := Value.ofText_render hexact
  refine ⟨hstable, Value.render_ofText, ?_⟩
  intro hstore s n x x' x'' y a b a' b' a'' b'' hx hx' hx'' hy once again
  have hreliable : (e.env r).services.faults.IsReliable := hstore
  have honce := he.eval_set_cases (r := r) (s := s) hx a b b hstore (List.cons_ne_nil y [])
    (p := (· = [t])) fun u hsame hrunning ↦ by
      have hargs : [y].map Statement.literal? = [t].map some := by rw [List.map_singleton, hy]; rfl
      rw [(e.env r).evalEach_of_literal? hrunning hargs]
      exact ⟨hsame, fun _ ↦ rfl⟩
  obtain ⟨-, hlocate⟩ | ⟨cell, _, hcell, rfl, hwritten⟩ := honce
  · cases hrunning : once.isRunning with
    | false =>
      have hstopped : again = once := by
        change ((e.env r).eval _ once).2 = once
        rw [Env.eval_stopped hrunning]
      rw [hstopped]
      exact ⟨.refl once, fun hgoing ↦ absurd hgoing Bool.false_ne_true⟩
    | true =>
      obtain ⟨err, herror⟩ := hlocate hrunning
      have hnone : ∀ cell, (e.env r).services.locate n ≠ .ok cell := by simp [herror]
      exact ⟨he.sameVariables_set_get hx' a' b' hstore hx'' a'' b'' fun cell hcell ↦
        absurd hcell (hnone cell), fun _ cell hcell ↦ absurd hcell (hnone cell)⟩
  · have hget : (e.env r).services.getVariable n once = .ok (some (.ofText t)) := by
      refine (hwritten.getVariable_eq _ n).trans ?_
      rw [Services.getVariable_eq hreliable, hcell]
      simp [Except.map, State.peek_poke, stored]
    have hsame := he.sameVariables_set_get hx' a' b' hstore hx'' a'' b'' fun _ _ ↦
      ⟨_, hget, hstable⟩
    exact ⟨hsame, fun _ _ _ ↦ ⟨hget, (hsame.getVariable_eq _ n).trans hget⟩⟩

/-- An array that is written with blanks, which its text does not have. -/
theorem Engine.stored_again_array :
    let place : Span := ⟨⟨0, 1, 1⟩, ⟨0, 1, 1⟩⟩
    let text := "[1, [\"a\" , null]]"
    ∃ e : Engine, e.Standard ∧ e.faults.IsReliable ∧ (Value.ofText text).render = "[1,[\"a\",null]]" ∧
      Value.ofText (Value.ofText text).render = Value.ofText text ∧
      let env := e.env (.patient {})
      let once := (env.eval (.ofCall "set" [.plain place "x", .plain place text] place place) {}).2
      let again := (env.eval (.ofCall "set" [.plain place "x",
        .ofCall "get" [.plain place "x"] place place] place place) once).2
      once.isRunning = true ∧ once.SameVariables again ∧
      env.services.getVariable "x" again = .ok (some (.ofText text)) := by
  intro place text
  have hexact : ∀ items, Value.items? text = some items → (Value.list items).doubles = [] := by
    have hall : (Value.items? text).all (fun items ↦ (Value.list items).doubles.isEmpty) = true := by
      decide +kernel
    intro items hitems
    rw [hitems] at hall
    exact List.isEmpty_iff.mp hall
  obtain ⟨e, hbuild, he, hrun⟩ := exists_standard_of_any (b := { providers := [⟨"", .tag⟩] }) rfl rfl
    (p := fun e ↦ e.scopes.providers == [⟨"", .tag⟩] && ((e.env (.patient {})).eval
      (.ofCall "set" [.plain place "x", .plain place text] place place) {}).2.isRunning)
    (by decide +kernel)
  obtain ⟨hscopes, hrunning⟩ := Bool.and_eq_true_iff.mp hrun
  have hstore : e.faults.IsReliable := isReliable_of_build rfl rfl hbuild
  have hlocate : (e.env (.patient {})).services.locate "x" = .ok (some (.tag ""), "x") :=
    Services.locate_of_tag (beq_iff_eq.mp hscopes) "x"
  have hplain (text : String) : (Statement.plain place text).literal? = some text := by
    simp [Statement.plain, Statement.literal?, Statement.parts, Statement.literalText]
  obtain ⟨hstable, -, hvariables⟩ := stored_again he (.patient {}) text hexact
  obtain ⟨hsame, hvalues⟩ := hvariables hstore {} "x" _ _ _ _ place place place place place place
    (hplain "x") (hplain "x") (hplain "x") (hplain text)
  exact ⟨e, he, hstore, by decide +kernel, hstable, hrunning, hsame, (hvalues hrunning _ hlocate).2⟩

end BraceScript
