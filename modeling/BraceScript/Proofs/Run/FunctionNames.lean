import BraceScript.Proofs.Registry
import BraceScript.Proofs.Run.EagerCalls
import BraceScript.Proofs.Run.Unrolling
import BraceScript.Proofs.Text.Lowering

namespace BraceScript

open Subtags

section Names

variable {n : String}

theorem Subtags.exists_last (hne : n ≠ "") (htrim : Text.trim n = n) :
    ∃ start c, n.toList = start ++ [c] ∧ Text.isBlank c = false := by
  have hlist : n.toList ≠ [] := by simpa using hne
  have hlast := List.dropLast_concat_getLast hlist
  refine ⟨_, _, hlast.symm, ?_⟩
  have htext : Text.trimChars n.toList = n.toList := by
    have hchars := congrArg String.toList htrim
    rwa [Text.trim, String.toList_ofList] at hchars
  rw [← hlast] at htext
  exact Text.isBlank_last htext

/-- The name of a function as a call reads it, behind its lead. -/
def Subtags.calledName (n : String) : String :=
  String.ofList (Text.lowerFrom callLead.toList.reverse n.toList)

theorem Subtags.normalize_callLead {start : List Char} {c : Char} (hn : n.toList = start ++ [c])
    (hc : Text.isBlank c = false) : normalize (callLead ++ n) = callLead ++ calledName n := by
  have htrim : Text.trim (callLead ++ n) = callLead ++ n := by
    have hlead : (callLead ++ n).toList.dropWhile Text.isBlank = (callLead ++ n).toList := by
      simp [callLead, Text.isBlank]
    apply String.toList_injective
    rw [Text.trim, String.toList_ofList, Text.trimChars, hlead, String.toList_append, hn,
      ← List.append_assoc, Text.trimEnd_of_last hc]
  rw [normalize, htrim, Text.lower]
  apply String.toList_injective
  rw [String.toList_ofList, String.toList_append, String.toList_append, calledName,
    String.toList_ofList]
  rfl

theorem Subtags.exists_last_calledName {start : List Char} {c : Char} (hn : n.toList = start ++ [c])
    (hc : Text.isBlank c = false) :
    ∃ start' c', (calledName n).toList = start' ++ [c'] ∧ Text.isBlank c' = false := by
  rw [calledName, String.toList_ofList, hn]
  exact Text.exists_last_lowerFrom _ start hc

theorem Subtags.lower_ne_empty (hne : n ≠ "") (htrim : Text.trim n = n) : Text.lower n ≠ "" := by
  obtain ⟨start, c, hn, hc⟩ := exists_last hne htrim
  obtain ⟨start', c', hlower, -⟩ := Text.exists_last_lowerFrom [] start hc
  rw [Text.lower, hn, hlower]
  simp

theorem Subtags.functionName_eq (htrim : Text.trim n = n)
    (hlead : (n.toList.take 5).map Char.toLower ≠ callLead.toList) :
    functionName n = Text.lower n := by
  have hnone : Text.after? callLead (Text.lower n) = none := by
    unfold Text.after?
    rw [if_neg]
    intro hstarts
    have hprefix := List.isPrefixOf_iff_prefix.mp hstarts
    rw [Text.lower, String.toList_ofList] at hprefix
    exact hlead (Text.map_toLower_of_prefix (by simp [callLead]) hprefix)
  unfold functionName
  dsimp only
  rw [htrim, hnone, Option.getD_none]

/-- A call and a definition of the same name mean the same entry unless the name opens with a
capital sigma. -/
theorem Subtags.lower_calledName_iff (n : String) :
    Text.lower (calledName n) = Text.lower (Text.lower n) ↔
      Text.opensWithSigma n.toList = false :=
  Text.lower_lowerFrom_eq_iff (by decide) n.toList

end Names

section Lookup

def Subtags.callSignature (description : String) : Signature Handler where
  parameters := [⟨"args", .eager, .repeated 0⟩]
  description
  handler := .script callFunction
  least := 0

theorem Subtags.declares_call : Declares callDeclaration callSignature :=
  ⟨by simp [standardDeclarations, procedureDeclarations], _, _, _, rfl, rfl⟩

theorem Subtags.standardDeclarations_callLead : ∀ declaration ∈ standardDeclarations,
    (∀ key ∈ declaration.keys, callLead.toList.isPrefixOf key.toList = true → key = callLead) ∧
      (declaration.family = true → Text.lower declaration.id = callLead) := by
  decide +kernel

namespace Engine.Standard

variable {e : Engine} (he : e.Standard) {name : String}

include he

theorem lookup_callLead {rest : String} (hrest : rest ≠ "")
    (hname : normalize name = callLead ++ rest) :
    ∃ d, e.registry.lookup name = some d ∧ d.id = callLead := by
  have hlead : IsLead callLead (normalize name) := ⟨rest, hrest, hname⟩
  obtain ⟨standard, hcompiled, hregistry⟩ := he.exists_registered
  have hmeans := (Registry.holds_nil.registerAll hregistry).lookup name
  rw [List.nil_append] at hmeans
  generalize e.registry.lookup name = found at hmeans ⊢
  cases hmeans with
  | called hd hkey =>
    exfalso
    obtain ⟨declaration, hmem, hdeclaration⟩ := exists_of_mem_mapM hcompiled hd
    rw [Definition.keys_of_declaration hdeclaration] at hkey
    have hsame := (standardDeclarations_callLead declaration hmem).1 _ hkey
      (List.isPrefixOf_iff_prefix.mpr ((isLead_iff _ _).mp hlead).1)
    have hlonger := ((isLead_iff _ _).mp hlead).2
    rw [hsame] at hlonger
    exact Nat.lt_irrefl _ hlonger
  | @family d _ hd hfamily _ _ =>
    obtain ⟨declaration, hmem, hdeclaration⟩ := exists_of_mem_mapM hcompiled hd
    obtain ⟨signatures, -, rfl⟩ := Definition.eq_of_declaration hdeclaration
    exact ⟨_, rfl, (standardDeclarations_callLead declaration hmem).2 hfamily⟩
  | unknown _ hnone =>
    exfalso
    obtain ⟨d, hd, hdeclaration⟩ := exists_mem_of_mapM hcompiled declares_call.mem
    obtain ⟨signatures, -, rfl⟩ := Definition.eq_of_declaration hdeclaration
    have hid : Text.lower callDeclaration.id = callLead := by decide +kernel
    exact hnone _ hd rfl (hid.symm ▸ hlead)

end Engine.Standard

end Lookup

section Handlers

variable {svc : Services} {eval : Eval} {t : Activation}

theorem Subtags.exec_defineFunction {n : String} {body : Statement} (hn : t.args.Holds 0 [n])
    (hbody : (t.args.get? 1).bind Argument.statement? = some body) (hname : functionName n ≠ "")
    (c : Invocation) : (defineFunction c).exec svc eval t =
      (.ok none, { t with state := Services.define (functionName n) body t.state }) := by
  have hdefine : (Action.define (functionName n) 1).exec svc eval t =
      (.ok (), { t with state := Services.define (functionName n) body t.state }) := by
    change (Except.ok ((Query.define (functionName n) 1).answer svc eval t).1,
      ((Query.define (functionName n) 1).answer svc eval t).2) = _
    rw [Query.answer, hbody]
    rfl
  unfold defineFunction
  rw [Action.exec_bind, hn.exec_value]
  dsimp only
  rw [if_neg (by simpa using hname), Action.exec_bind, hdefine]
  rfl

theorem Subtags.exec_callFunction {c : Invocation} {m : String} (hm : c.name = callLead ++ m)
    {params : List String} (hparams : t.args.Holds 0 params) :
    (callFunction c).exec svc eval t =
      match t.state.functions.get? (Text.lower m) with
      | some body => (.ok (some (eval body (t.state.enter m params)).1),
          ⟨t.args, (eval body (t.state.enter m params)).2.exit⟩)
      | none => (.error (.notFound "function" m), t) := by
  have hname : (Text.after? callLead c.name).getD "" = m := by
    rw [hm]
    simp [Text.after?, Text.startsWith]
  have hhas : (Action.hasFunction m).exec svc eval t =
      (.ok (t.state.functions.get? (Text.lower m)).isSome, t) := rfl
  unfold callFunction
  dsimp only
  rw [hname, Action.exec_bind, hhas]
  cases hget : t.state.functions.get? (Text.lower m) with
  | none => rfl
  | some body =>
    dsimp only [Option.isSome_some]
    rw [if_pos rfl, Action.exec_bind, hparams.exec_values]
    dsimp only
    have hactivate : (Action.activate m params).exec svc eval t =
        (.ok (eval body (t.state.enter m params)).1,
          ⟨t.args, (eval body (t.state.enter m params)).2.exit⟩) := by
      change (Except.ok ((Query.activate m params).answer svc eval t).1,
        ((Query.activate m params).answer svc eval t).2) = _
      rw [Query.answer, Services.function?, hget]
      rfl
    rw [Action.exec_bind, hactivate]
    rfl

end Handlers

section Journal

theorem Tally.get?_functions {key : String} {later : List Event}
    (h : ∀ body, .defined key body ∉ later) (journal : List Event) :
    (Tally.ofJournal (later ++ journal)).functions.get? key =
      (Tally.ofJournal journal).functions.get? key := by
  induction later with
  | nil => rfl
  | cons ev later ih =>
    have hlater := ih fun body hbody ↦ h body (List.mem_cons_of_mem ev hbody)
    cases ev with
    | defined other body =>
      have hother : other ≠ key := by
        rintro rfl
        exact h body List.mem_cons_self
      refine Eq.trans (Table.get?_set _ other key body) ?_
      rw [if_neg hother]
      exact hlater
    | _ => exact hlater

theorem evalEach_induct {eval : Eval} {P : State → Prop} (h : ∀ x s, P s → P (eval x s).2)
    (xs : List Statement) {s : State} (hs : P s) : P (evalEach eval xs s).2 := by
  induction xs generalizing s with
  | nil => exact hs
  | cons x xs ih =>
    cases hrunning : s.isRunning with
    | true =>
      rw [evalEach_cons hrunning]
      exact ih (h x s hs)
    | false =>
      rw [evalEach, hrunning]
      exact hs

variable {e : Engine} (he : e.Standard) {r : Request} {s : State} {name : Statement}
  {args : List Statement} {span : Span} (c : BoundCall (e.env r) s name args span)

include he

theorem BoundCall.tallied_opening (hs : s.Tallied) : c.opening.state.Tallied := by
  have hticked : ((e.env r).services.tick s).2.Tallied := Act.tick.tallied hs
  have hname := (he.course r name _).tallied hticked
  have hentered : c.entered.Tallied :=
    congrArg (fun n : Tally ↦ (n.enter (.charged .calls)).enter (.called c.frame)) hname
  have hresolved : c.resolved.2.Tallied := by
    rw [c.resolved_eq]
    exact evalEach_induct (fun x s hs ↦ (he.course r x s).tallied hs) _ hentered
  exact hresolved

theorem BoundCall.precedes_opening : s.Precedes c.opening.state := by
  have hlater := (e.env r).precedes_eval he.scripted
  have hname := (State.Precedes.tick (e.env r).services s).trans (hlater name _)
  have hentered : s.Precedes c.entered := hname.trans (.of_journal [_, _] rfl rfl)
  have hresolved : s.Precedes c.resolved.2 := by
    rw [c.resolved_eq]
    exact evalEach_induct (fun x t ht ↦ ht.trans (hlater x t)) _ hentered
  exact hresolved.trans (.of_journal [_] rfl rfl)

end Journal

namespace BoundCall

variable {e : Engine} (he : e.Standard) {r : Request} {s : State} {name : Statement} {span : Span}

include he

theorem resolved_of_function {nameCode body : Statement}
    (c : BoundCall (e.env r) s name [nameCode, body] span) (hid : c.definition.id = "function") :
    c.resolved.2 = ((e.env r).eval nameCode c.entered).2 ∧ (c.resolved.2.isRunning = true →
      c.resolved.1 = evaluated [⟨"name", .eager, .required⟩] [nameCode]
        [((e.env r).eval nameCode c.entered).1] ++ [[.supplied ⟨"code", .raw, .required⟩ body]]) := by
  obtain ⟨description, hsignature⟩ := c.signature_of_declares he declares_function hid
  have hslots : c.bound.slots = pending [⟨"name", .eager, .required⟩] [nameCode] ++
      [[.supplied ⟨"code", .raw, .required⟩ body]] := by
    rw [(Binding.eq_of_bind c.binds).2, hsignature]
    rfl
  have heager : ∀ p ∈ ([⟨"name", .eager, .required⟩] : List Parameter), p.mode = .eager := by simp
  have hraw : ∀ slot ∈ [[Argument.supplied ⟨"code", .raw, .required⟩ body]],
      ∀ a ∈ slot, a.isEager = false := by simp [Argument.isEager, Argument.supplied]
  obtain ⟨hstate, hfilled⟩ := resolveSlots_pending (e.env r).eval heager
    (rfl : [nameCode].length = _) hraw c.entered
  rw [← hslots, evalEach_cons c.isRunning_entered] at hstate hfilled
  refine ⟨hstate, fun hstarts ↦ ?_⟩
  exact congrArg Prod.fst (hfilled (hstate ▸ hstarts))

theorem opening_of_function {nameCode body : Statement}
    (c : BoundCall (e.env r) s name [nameCode, body] span) (hid : c.definition.id = "function")
    (hstarts : c.resolved.2.isRunning = true) :
    c.opening.args.Holds 0 [((e.env r).eval nameCode c.entered).1] ∧
      (c.opening.args.get? 1).bind Argument.statement? = some body := by
  have hopening : c.opening.args.slots = _ := (c.resolved_of_function he hid).2 hstarts
  constructor
  · unfold Arguments.Holds Arguments.all
    rw [hopening]
    rfl
  · unfold Arguments.get? Arguments.at? Arguments.all
    rw [hopening]
    rfl

theorem exists_call (span : Span) {n : String} (hne : n ≠ "") (htrim : Text.trim n = n)
    (args : List Statement) (running : s.isRunning = true) (going : ((e.env r).services.tick s).1 = true)
    (named : ((e.env r).eval name ((e.env r).services.tick s).2).2.isRunning = true)
    (may : ((e.env r).eval name ((e.env r).services.tick s).2).2.MayCall (e.env r).services.limits)
    (hcall : ((e.env r).eval name ((e.env r).services.tick s).2).1 = callLead ++ n) :
    ∃ c : BoundCall (e.env r) s name args span, c.definition.id = callLead ∧
      c.frame.name = callLead ++ calledName n := by
  obtain ⟨start, last, hn, hlast⟩ := exists_last hne htrim
  obtain ⟨start', last', hn', hlast'⟩ := exists_last_calledName hn hlast
  obtain ⟨start'', last'', hn'', -⟩ := exists_last_calledName hn' hlast'
  have hname := normalize_callLead hn hlast
  have hrest : calledName (calledName n) ≠ "" := by
    intro hempty
    rw [hempty] at hn''
    simp at hn''
  obtain ⟨d, hd, hid⟩ := he.lookup_callLead hrest (normalize_callLead hn' hlast')
  obtain ⟨description, hone⟩ := he.signatures_of_declares hd declares_call hid
  have hbind : Binding.bind d.signatures args = .ok (callSignature description,
      ⟨(callSignature description).parameters,
        Binding.assign (callSignature description).parameters args.length args⟩) := by
    rw [hone]
    rfl
  rw [← hname, ← hcall] at hd
  exact ⟨⟨d, _, _, running, going, named, hd, may, hbind⟩, hid, (congrArg normalize hcall).trans hname⟩

theorem handled_of_call {args : List Statement} (c : BoundCall (e.env r) s name args span)
    (hid : c.definition.id = callLead) {m : String} (hm : c.frame.name = callLead ++ m)
    (hstarts : c.resolved.2.isRunning = true) :
    ∃ params, c.opening.args.Holds 0 params ∧
      (∀ body, c.opening.state.functions.get? (Text.lower m) = some body →
        c.handled = (.ok (some ((e.env r).eval body (c.opening.state.enter m params)).1),
          ⟨c.opening.args, ((e.env r).eval body (c.opening.state.enter m params)).2.exit⟩)) ∧
      (c.opening.state.functions.get? (Text.lower m) = none →
        c.handled = (.error (.notFound "function" m), c.opening)) := by
  obtain ⟨description, hsignature⟩ := c.signature_of_declares he declares_call hid
  have heager : ∀ a ∈ c.bound.slots.flatten, a.isEager = true := by
    rw [(Binding.eq_of_bind c.binds).2, hsignature]
    intro a ha
    simp only [callSignature, Binding.assign, List.flatten_cons, List.flatten_nil, List.append_nil,
      List.mem_map] at ha
    obtain ⟨x, -, rfl⟩ := ha
    rfl
  obtain ⟨lists, -, -, hholds⟩ := (resolveSlots_filled c.value?_bound hstarts).exists_texts heager
  rw [c.handled_of_script (congrArg Signature.handler hsignature),
    exec_callFunction (c := c.invocation) hm (hholds 0)]
  refine ⟨lists.getD 0 [], hholds 0, ?_, ?_⟩
  · intro body hget
    rw [hget]
  · intro hget
    rw [hget]

/-- A definition leaves its body under the name in lower case, as the last thing that is defined. -/
theorem defined_of_function {nameCode body : Statement}
    (c : BoundCall (e.env r) s name [nameCode, body] span) (hid : c.definition.id = "function")
    (hstarts : c.resolved.2.isRunning = true) {n : String}
    (hn : ((e.env r).eval nameCode c.entered).1 = n) (hne : functionName n ≠ "") (span' : Span) :
    (e.env r).eval (.mk [.call name [nameCode, body] span] span') s =
      ("", (Services.define (functionName n) body c.opening.state).popCall) := by
  obtain ⟨description, hsignature⟩ := c.signature_of_declares he declares_function hid
  obtain ⟨hholds, hbody⟩ := c.opening_of_function he hid hstarts
  rw [hn] at hholds
  rw [c.eval_eq he.scripted, if_pos hstarts,
    c.handled_of_script (congrArg Signature.handler hsignature), exec_defineFunction hholds hbody hne]
  rfl

end BoundCall

/-- The function has been defined anew since the state was `s`. -/
def State.RedefinedSince (s : State) (key : String) (t : State) : Prop :=
  ∃ body, s.NotedSince (.defined key body) t

theorem State.get?_functions {s t : State} {name : String} {body : Statement}
    (hlater : (Services.define name body s).popCall.Precedes t) (ht : t.Tallied)
    (h : ¬(Services.define name body s).popCall.RedefinedSince (Text.lower name) t) :
    t.functions.get? (Text.lower name) = some body := by
  obtain ⟨later, -, hjournal, -⟩ := hlater
  have hnone : ∀ b, .defined (Text.lower name) b ∉ later :=
    fun b hb ↦ h ⟨b, later, hjournal, hb⟩
  have hfunctions : t.functions = (Tally.ofJournal t.journal).functions :=
    congrArg Tally.functions ht
  rw [hfunctions, hjournal, Tally.get?_functions hnone]
  refine Eq.trans (Table.get?_set _ _ (Text.lower name) body) ?_
  rw [if_pos rfl]

/-- A function is called by its name unless that opens with a capital sigma: a call reads the entry
of the name in lower case behind its lead, a definition writes that of the name on its own. Every
state of a run is tallied. -/
theorem Engine.function_called_by_name {e : Engine} (he : e.Standard) {r : Request} {s : State}
    {name nameCode body : Statement} {span : Span}
    (c : BoundCall (e.env r) s name [nameCode, body] span) (hid : c.definition.id = "function")
    (hstarts : c.resolved.2.isRunning = true) {n : String}
    (hn : ((e.env r).eval nameCode c.entered).1 = n) (hne : n ≠ "") (htrim : Text.trim n = n)
    (hlead : (n.toList.take 5).map Char.toLower ≠ callLead.toList) (around : Span)
    {s' : State} {name' : Statement} (args' : List Statement) (span' around' : Span)
    (hlater : ((e.env r).eval (.mk [.call name [nameCode, body] span] around) s).2.Precedes s')
    (htallied : s'.Tallied) (running : s'.isRunning = true)
    (going : ((e.env r).services.tick s').1 = true)
    (named : ((e.env r).eval name' ((e.env r).services.tick s').2).2.isRunning = true)
    (may : ((e.env r).eval name' ((e.env r).services.tick s').2).2.MayCall (e.env r).services.limits)
    (hcall : ((e.env r).eval name' ((e.env r).services.tick s').2).1 = callLead ++ n) :
    let after := ((e.env r).eval (.mk [.call name [nameCode, body] span] around) s).2
    let called := (e.env r).eval (.mk [.call name' args' span'] around') s'
    ∃ c' : BoundCall (e.env r) s' name' args' span', c'.definition.id = callLead ∧
      (c'.resolved.2.isRunning = true → ∃ params, c'.opening.args.Holds 0 params ∧
        let runs (b : Statement) :=
          called = (((e.env r).eval b (c'.opening.state.enter (calledName n) params)).1,
            ((e.env r).eval b (c'.opening.state.enter (calledName n) params)).2.exit.popCall)
        let entry (key : String) := c'.opening.state.functions.get? key
        (Text.opensWithSigma n.toList = false →
          ¬after.RedefinedSince (Text.lower (Text.lower n)) c'.opening.state → runs body) ∧
        (¬after.RedefinedSince (Text.lower (Text.lower n)) c'.opening.state →
          entry (Text.lower (Text.lower n)) = some body) ∧
        (∀ b, entry (Text.lower (calledName n)) = some b → runs b) ∧
        (entry (Text.lower (calledName n)) = none →
          called = conclude (e.env r).services (callLead ++ calledName n) span'
            (.error (.notFound "function" (calledName n))) c'.opening.state.popCall) ∧
        (Text.lower (calledName n) = Text.lower (Text.lower n) ↔
          Text.opensWithSigma n.toList = false)) := by
  intro after called
  obtain ⟨c', hid', hname⟩ := BoundCall.exists_call he span' hne htrim args' running going named may
    hcall
  refine ⟨c', hid', ?_⟩
  intro hstarts'
  obtain ⟨params, hparams, hsome, hnone⟩ := c'.handled_of_call he hid' hname hstarts'
  have hcalled := c'.eval_eq he.scripted around'
  rw [if_pos hstarts'] at hcalled
  have hfunction : functionName n = Text.lower n := functionName_eq htrim hlead
  have hdefined : after = (Services.define (Text.lower n) body c.opening.state).popCall := by
    have hempty : functionName n ≠ "" := by
      rw [hfunction]
      exact lower_ne_empty hne htrim
    have heval := c.defined_of_function he hid hstarts hn hempty around
    rw [hfunction] at heval
    exact congrArg Prod.snd heval
  have hentry (h : ¬after.RedefinedSince (Text.lower (Text.lower n)) c'.opening.state) :
      c'.opening.state.functions.get? (Text.lower (Text.lower n)) = some body := by
    have hprecedes : after.Precedes c'.opening.state := hlater.trans (c'.precedes_opening he)
    rw [hdefined] at h hprecedes
    exact State.get?_functions hprecedes (c'.tallied_opening he htallied) h
  have hruns (b : Statement)
      (hb : c'.opening.state.functions.get? (Text.lower (calledName n)) = some b) :
      called = (((e.env r).eval b (c'.opening.state.enter (calledName n) params)).1,
        ((e.env r).eval b (c'.opening.state.enter (calledName n) params)).2.exit.popCall) := by
    rw [hsome b hb] at hcalled
    exact hcalled
  refine ⟨params, hparams, ?_, hentry, hruns, ?_, lower_calledName_iff n⟩
  · intro hopens hkept
    refine hruns body ?_
    rw [(lower_calledName_iff n).mpr hopens]
    exact hentry hkept
  · intro hmissing
    rw [hnone hmissing, hname] at hcalled
    exact hcalled

section Witness

variable {e : Engine} {r : Request} {s : State} {span : Span}

theorem BoundCall.resolved_of_nil {name : Statement} (c : BoundCall (e.env r) s name [] span) : c.resolved.2 = c.entered := by
  have hnone := c.statements_bound
  have hcode : Argument.codeOf .eager c.bound.slots.flatten = [] := by
    rw [List.filterMap_eq_nil_iff] at hnone
    unfold Argument.codeOf
    rw [List.filterMap_eq_nil_iff]
    intro a ha
    rw [hnone a ha, ite_self]
  rw [c.resolved_eq, hcode]
  rfl

theorem BoundCall.not_redefinedSince {place : Span} {name : String}
    (c : BoundCall (e.env r) s (.plain place name) [] span) (key : String) :
    ¬s.RedefinedSince key c.opening.state := by
  rintro ⟨body, later, hjournal, hmem⟩
  have hticked := (tick_isRunning c.going).trans c.running
  have hopening : c.opening.state.journal = .started c.frame.name c.frame.span
      c.entered.calls.length :: .called c.frame :: .charged .calls ::
        ((e.env r).services.tick s).2.journal := by
    unfold opening
    rw [c.resolved_of_nil, entered, Env.eval_plain _ hticked]
    rfl
  have htick : ((e.env r).services.tick s).2.journal = .stepped :: s.journal ∨
      ((e.env r).services.tick s).2.journal = .yielded :: .stepped :: s.journal := by
    rcases tick_cases (e.env r).services s with hcase | hcase
    · rw [hcase]
      unfold Services.yieldIfDue
      split
      · exact Or.inr rfl
      · exact Or.inl rfl
    · have hgoing := c.going
      rw [hcase] at hgoing
      cases hgoing
  rw [hjournal] at hopening
  rcases htick with htick | htick
  · rw [htick] at hopening
    have hlater : later = [_, _, _, _] := List.append_cancel_right hopening
    simp [hlater] at hmem
  · rw [htick] at hopening
    have hlater : later = [_, _, _, _, _] := List.append_cancel_right hopening
    simp [hlater] at hmem

end Witness

/-- A capital sigma before a letter, in a run that goes on to call the function. -/
theorem Engine.function_called_by_name_sigma :
    let place : Span := ⟨⟨0, 1, 1⟩, ⟨0, 1, 1⟩⟩
    let plain := Statement.plain place
    let definition := Statement.mk [.call (plain "function") [plain "Σa", plain "hi"] place] place
    ∃ e : Engine, e.Standard ∧
      ∃ c : BoundCall (e.env (.patient {})) {} (plain "function") [plain "Σa", plain "hi"] place,
        c.definition.id = "function" ∧ c.resolved.2.isRunning = true ∧
        Text.opensWithSigma "Σa".toList = false ∧
        ∃ after, ((e.env (.patient {})).eval definition {}).2 = after ∧ after.Tallied ∧
          ((e.env (.patient {})).eval (.mk [.call (plain "func.Σa") [] place] place) after).1 =
            "hi" := by
  intro place plain definition
  obtain ⟨e, -, he, hrun⟩ := exists_standard_of_any (b := { providers := [⟨"", .tag⟩] }) rfl rfl
    (p := fun e ↦
      let after := ((e.env (.patient {})).eval definition {}).2
      after.isRunning && !after.tripped && decide (after.usage.used .calls < 2) &&
        decide (after.calls.length < 1))
    (by decide +kernel)
  simp only [Bool.and_eq_true, decide_eq_true_eq, Bool.not_eq_true'] at hrun
  obtain ⟨⟨⟨hrunning, htripped⟩, hused⟩, hcalls⟩ := hrun
  obtain ⟨c, hid, -, -⟩ := he.exists_boundCall [plain "Σa", plain "hi"] declares_function.mem rfl rfl rfl
    (by decide +kernel : normalize (normalize "function") ∈ _)
    (by decide : 0 < ({} : Limits).maxCalls) (by decide : 0 < ({} : Limits).maxDepth) [] place place
  have hentered := c.isRunning_entered
  have hname : (e.env (.patient {})).eval (plain "Σa") c.entered = ("Σa", c.entered) :=
    Env.eval_plain _ hentered place "Σa"
  have hstarts : c.resolved.2.isRunning = true := by
    rw [(c.resolved_of_function he hid).1, hname]
    exact hentered
  have htallied : ((e.env (.patient {})).eval definition {}).2.Tallied :=
    (he.course (.patient {}) definition {}).tallied rfl
  generalize hafter : ((e.env (.patient {})).eval definition {}).2 = after at *
  have hgoing := e.tick_patient {} htripped
  have hticked := (tick_isRunning hgoing).trans hrunning
  have hcall := Env.eval_plain (e.env (.patient {})) hticked place "func.Σa"
  have hmay : ((e.env (.patient {})).services.tick after).2.MayCall {} := by
    unfold State.MayCall
    rw [tick_calls, (tick_counts _ _).2.1]
    exact ⟨Nat.lt_of_lt_of_le hused (by decide), Nat.lt_of_lt_of_le hcalls (by decide)⟩
  have htext : ((e.env (.patient {})).eval (plain "Σa") c.entered).1 = "Σa" := by rw [hname]
  obtain ⟨c', -, hcalled⟩ := function_called_by_name he c hid hstarts htext (by decide)
    (by decide +kernel) (by decide) place [] place place
    (by rw [← hafter]; exact State.Precedes.refl _) htallied hrunning hgoing
    (by rw [hcall]; exact hticked) (by rw [hcall]; exact hmay) (by rw [hcall]; rfl)
  have hstarts' : c'.resolved.2.isRunning = true := by
    rw [c'.resolved_of_nil]
    exact c'.isRunning_entered
  obtain ⟨params, -, hruns, -⟩ := hcalled hstarts'
  have hopens : Text.opensWithSigma "Σa".toList = false := by decide +kernel
  have hkept : ¬((e.env (.patient {})).eval definition {}).2.RedefinedSince
      (Text.lower (Text.lower "Σa")) c'.opening.state := by
    rw [hafter]
    exact c'.not_redefinedSince _
  have hbody : (c'.opening.state.enter (calledName "Σa") params).isRunning = true := hstarts'
  refine ⟨e, he, c, hid, hstarts, hopens, after, hafter, htallied, ?_⟩
  rw [hruns hopens hkept, Env.eval_plain _ hbody]

/-- A capital sigma on its own ends a word behind the lead of a call. -/
theorem Engine.function_not_found_by_name :
    ∃ e : Engine, e.Standard ∧
      (e.execute "\x7bfunction;Σ;body\x7d\x7bfunc.Σ\x7d" {} []).1.output = "`No function found`" := by
  obtain ⟨e, -, he, hrun⟩ := exists_standard_of_any (b := { providers := [⟨"", .tag⟩] }) rfl rfl
    (p := fun e ↦ decide ((e.execute "\x7bfunction;Σ;body\x7d\x7bfunc.Σ\x7d" {} []).1.output =
      "`No function found`"))
    (by decide +kernel)
  exact ⟨e, he, of_decide_eq_true hrun⟩

end BraceScript
