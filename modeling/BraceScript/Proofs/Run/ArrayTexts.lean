import BraceScript.Proofs.Run.Variables

namespace BraceScript

open Subtags

def Arguments.AlikeBut (k : Nat) (a b : Arguments) : Prop := ∀ i, i ≠ k → a.all i = b.all i

/-- Whether the question is about no arguments, or about the value of another parameter than `k`. -/
def Query.spares (k : Nat) : Query → Bool
  | value i _ | again i => i != k
  | q => q.isPlain

section Sparing

variable {svc : Services} {eval : Eval} {k : Nat} {a b : Arguments}

theorem Arguments.AlikeBut.at? (h : a.AlikeBut k b) {i : Nat} (hi : i ≠ k) (j : Nat) :
    a.at? i j = b.at? i j := by
  rw [Arguments.at?, Arguments.at?, h i hi]

theorem Arguments.all_keep (a : Arguments) (i j m : Nat) (text : String) :
    (a.keep i j text).all m = if i = m
      then (a.all m).modify j (fun arg ↦ { arg with value? := some text }) else a.all m := by
  unfold keep all
  rw [List.getD_eq_getElem?_getD, List.getD_eq_getElem?_getD, List.getElem?_modify]
  cases a.slots[m]? <;> split <;> simp

theorem Arguments.AlikeBut.keep (h : a.AlikeBut k b) (i j : Nat) (text : String) :
    (a.keep i j text).AlikeBut k (b.keep i j text) := by
  intro m hm
  rw [all_keep, all_keep, h m hm]

theorem Query.answer_alikeBut (svc : Services) (eval : Eval) (h : a.AlikeBut k b) {q : Query}
    (hq : q.spares k = true) (s : State) :
    let u := q.answer svc eval ⟨a, s⟩
    let v := q.answer svc eval ⟨b, s⟩
    u.1 = v.1 ∧ u.2.state = v.2.state ∧ u.2.args.AlikeBut k v.2.args := by
  cases q with
  | value i j =>
    have hat := h.at? (bne_iff_ne.mp hq) j
    simp only [answer, Activation.value, hat]
    rcases b.at? i j with _ | ⟨parameter, source, _ | text⟩
    · exact ⟨rfl, rfl, h⟩
    · exact ⟨rfl, rfl, h.keep i j _⟩
    · exact ⟨rfl, rfl, h⟩
  | again i =>
    have hat := h.at? (bne_iff_ne.mp hq) 0
    simp only [answer, Activation.again, hat]
    cases b.at? i 0 with
    | none => exact ⟨rfl, rfl, h⟩
    | some x => exact ⟨rfl, rfl, h⟩
  | attempt | activate | raw | count | supplied | define => cases hq
  | _ => exact ⟨rfl, rfl, h⟩

theorem Script.run_alikeBut {α : Type} {body : Script α} (hbody : body.Asks (Query.spares k))
    (h : a.AlikeBut k b) (s : State) :
    (body.run svc eval ⟨a, s⟩).1 = (body.run svc eval ⟨b, s⟩).1 ∧
      (body.run svc eval ⟨a, s⟩).2.state = (body.run svc eval ⟨b, s⟩).2.state := by
  induction body generalizing a b s with
  | done x => exact ⟨rfl, rfl⟩
  | ask q next ih =>
    obtain ⟨hanswer, hstate, hargs⟩ := Query.answer_alikeBut svc eval h hbody.1 s
    unfold run
    generalize q.answer svc eval ⟨a, s⟩ = u at *
    generalize q.answer svc eval ⟨b, s⟩ = v at *
    obtain ⟨r, args, t⟩ := u
    obtain ⟨r', args', t'⟩ := v
    obtain rfl : r = r' := hanswer
    obtain rfl : t = t' := hstate
    exact ih r (hbody.2 r) hargs t

end Sparing

namespace Services

def ReadsAs (svc : Services) (s : State) (text : String) (items : List Value) : Prop :=
  Value.items? text = some items ∨
    Value.items? text = none ∧ svc.HoldsItems s (Text.trim text) items

end Services

section Reading

variable {svc : Services} {eval : Eval} {s : State} {items : List Value}

theorem Services.ReadsAs.exec_resolveArray {text : String} (h : svc.ReadsAs s text items)
    (eval : Eval) (args : Arguments) :
    ∃ name?, (resolveArray text).exec svc eval ⟨args, s⟩ = (.ok ⟨items, name?⟩, ⟨args, s⟩) := by
  obtain hitems | ⟨hnone, hitems⟩ := h
  · refine ⟨none, ?_⟩
    unfold resolveArray
    rw [hitems]
    rfl
  · exact ⟨_, exec_resolveArray_of_holdsItems hnone hitems⟩

/-- A script that reads the array of parameter `k` and asks nothing more of that parameter does the
same for any two texts of the array. -/
theorem Subtags.exec_reading {k : Nat} {a b : Arguments} (h : a.AlikeBut k b) {n text : String}
    (ha : a.Holds k [n]) (hb : b.Holds k [text]) (hn : svc.ReadsAs s n items)
    (htext : svc.ReadsAs s text items) {next : List Value → Action (Option String)}
    (hnext : ∀ items, (next items).Asks (Query.spares k)) {body : Action (Option String)}
    (hbody : body = do
      let array ← resolveArray (← Action.value k)
      next array.items) :
    (body.exec svc eval ⟨a, s⟩).1 = (body.exec svc eval ⟨b, s⟩).1 ∧
      (body.exec svc eval ⟨a, s⟩).2.state = (body.exec svc eval ⟨b, s⟩).2.state := by
  have hread {args : Arguments} {text : String} (hargs : args.Holds k [text])
      (htext : svc.ReadsAs s text items) :
      body.exec svc eval ⟨args, s⟩ = (next items).exec svc eval ⟨args, s⟩ := by
    obtain ⟨name?, hresolved⟩ := htext.exec_resolveArray eval args
    rw [hbody, Action.exec_bind, Arguments.Holds.exec_value (t := ⟨args, s⟩) hargs]
    dsimp only
    rw [Action.exec_bind, hresolved]
  rw [hread ha hn, hread hb htext]
  exact Script.run_alikeBut (hnext items).script h s

theorem Subtags.exec_index {t : Activation} {text w : String} (htext : t.args.Holds 0 [text])
    (hitems : Value.items? text = some items) (hindex : t.args.Holds 1 [w]) {c : Invocation} {i : Nat}
    (hi : c.plugins.integer? w = some i) {item : Value} (hitem : items[i]? = some item) :
    (index c).exec svc eval t = (.ok (some item.render), t) := by
  have hreads : svc.ReadsAs t.state text items := Or.inl hitems
  obtain ⟨name?, hresolved⟩ := hreads.exec_resolveArray eval t.args
  have hinteger : (c.integer w).exec svc eval t = (.ok i, t) := by
    unfold Invocation.integer
    rw [hi]
    rfl
  have helement : (element items i "length").exec svc eval t = (.ok item, t) := by
    unfold element
    rw [if_pos (Int.natCast_nonneg i), Int.toNat_natCast, hitem]
    rfl
  unfold index
  rw [Action.exec_bind, htext.exec_value]
  dsimp only
  rw [Action.exec_bind, hresolved]
  dsimp only
  rw [Action.exec_bind, hindex.exec_value]
  dsimp only
  rw [Action.exec_bind, hinteger]
  dsimp only
  rw [Action.exec_bind, helement]
  rfl

end Reading

/-- The handler reads the array of parameter `k` and asks nothing more of that parameter. -/
def Subtags.ReadsArray (k : Nat) (body : Invocation → Action (Option String)) : Prop :=
  ∀ (svc : Services) (eval : Eval) (s : State) (a b : Arguments) (n text : String)
    (items : List Value) (c : Invocation), a.AlikeBut k b → (∀ i < k, ∃ text, a.Holds i [text]) →
    a.Holds k [n] → b.Holds k [text] → svc.ReadsAs s n items → svc.ReadsAs s text items →
    ((body c).exec svc eval ⟨a, s⟩).1 = ((body c).exec svc eval ⟨b, s⟩).1 ∧
      ((body c).exec svc eval ⟨a, s⟩).2.state = ((body c).exec svc eval ⟨b, s⟩).2.state

namespace Subtags

open Action.Asks

theorem readsArray_index : ReadsArray 0 index := by
  intro svc eval s a b n text items c halike _ ha hb hn htext
  let next (items : List Value) : Action (Option String) := do
    let position ← c.integer (← Action.value 1)
    return some (← element items position "length").render
  have hnext (items : List Value) : (next items).Asks (Query.spares 0) :=
    (ask rfl).bind fun _ ↦ (ofOption _ _).bind fun _ ↦ (ofOption _ _).bind fun _ ↦ pure _
  exact exec_reading halike ha hb hn htext hnext rfl

theorem readsArray_join : ReadsArray 0 join := by
  intro svc eval s a b n text items c halike _ ha hb hn htext
  let next (items : List Value) : Action (Option String) := do
    return some ((← Action.value 1).intercalate (items.map Value.render))
  have hnext (items : List Value) : (next items).Asks (Query.spares 0) := (ask rfl).bind fun _ ↦ pure _
  exact exec_reading halike ha hb hn htext hnext rfl

theorem readsArray_forEach : ReadsArray 1 forEach := by
  intro svc eval s a b n text items c halike hbefore ha hb hn htext
  obtain ⟨name, hname⟩ := hbefore 0 Nat.one_pos
  have hname' : b.Holds 0 [name] := by
    unfold Arguments.Holds
    rw [← halike 0 Nat.zero_ne_one]
    exact hname
  let body (item : Value) : Action String := do
    Action.setVariable name item
    Action.again 2
  let next (items : List Value) : Action (Option String) := do
    let previous ← Action.getVariable name
    let result ← Action.outcome (each body items "")
    let restored ← Action.restore name previous
    let output ← Action.settle result
    Action.settle restored
    return some output
  have hnext (items : List Value) : (next items).Asks (Query.spares 1) := by
    refine .bind (demand (Script.asks_query rfl)) fun previous ↦ ?_
    have hbody (item : Value) : (body item).Asks (Query.spares 1) :=
      .bind (demand (Script.asks_query rfl)) fun _ ↦ ask rfl
    exact (outcome (asks_each rfl rfl hbody items "")).bind fun result ↦ (ask rfl).bind
      fun restored ↦ (settle result).bind fun _ ↦ (settle restored).bind fun _ ↦ pure _
  have hcall {args : Arguments} (hargs : args.Holds 0 [name]) :
      (forEach c).exec svc eval ⟨args, s⟩ = (do
        let array ← resolveArray (← Action.value 1)
        next array.items : Action (Option String)).exec svc eval ⟨args, s⟩ := by
    unfold forEach
    rw [Action.exec_bind, Arguments.Holds.exec_value (t := ⟨args, s⟩) hargs]
  rw [hcall hname, hcall hname']
  exact exec_reading halike ha hb hn htext hnext rfl

end Subtags

section Each

variable {eval : Eval}

theorem evalEach_append (xs ys : List Statement) (s : State) :
    let b := evalEach eval xs s
    evalEach eval (xs ++ ys) s = (b.1 ++ (evalEach eval ys b.2).1, (evalEach eval ys b.2).2) := by
  induction xs generalizing s with
  | nil => rfl
  | cons x xs ih =>
    cases hs : s.isRunning with
    | false => simp [evalEach_stopped hs]
    | true =>
      intro b
      have hb : b = _ := evalEach_cons hs x xs
      rw [List.cons_append, evalEach_cons hs, hb, ih]
      rfl

theorem Pairing.evalEach {ι : Type} {svc svc' : Services} {Q : State → State → Prop}
    {R : ι → State → State → Prop} (C : Pairing svc svc' Q R) {eval' : Eval}
    (heval : ∀ i statement, Paired Q (R i) (eval statement) (eval' statement))
    (xs : List Statement) (i : ι) : Paired Q (R i) (evalEach eval xs) (evalEach eval' xs) := by
  induction xs with
  | nil => exact .pure []
  | cons x xs ih =>
    exact Paired.ite (C.running i) ((heval i x).bind fun text ↦ ih.map fun texts ↦ text :: texts)
      (.pure [])

end Each

theorem getElem?_evaluated_set {parameters : List Parameter} {xs : List Statement}
    {texts : List String} {i k : Nat} (h : i ≠ k) (x : Statement) (text : String) :
    (evaluated parameters (xs.set k x) (texts.set k text))[i]? =
      (evaluated parameters xs texts)[i]? := by
  induction parameters generalizing xs texts i k with
  | nil => rfl
  | cons p parameters ih =>
    rcases xs with _ | ⟨x', xs⟩
    · rfl
    rcases texts with _ | ⟨text', texts⟩
    · cases k <;> rfl
    rcases k with _ | k <;> rcases i with _ | i
    · exact absurd rfl h
    · rfl
    · rfl
    · exact ih fun hik ↦ h (congrArg (· + 1) hik)

theorem Arguments.alikeBut_of_evaluated {ps : List Parameter} {xs : List Statement}
    {texts : List String} (hlength : xs.length = ps.length) (hlength' : texts.length = ps.length)
    {rest : List (List Argument)} {a b : Arguments} (ha : a.slots = evaluated ps xs texts ++ rest)
    {k : Nat} {x : Statement} {text : String}
    (hb : b.slots = evaluated ps (xs.set k x) (texts.set k text) ++ rest) : a.AlikeBut k b := by
  intro i hi
  have hsize := length_evaluated hlength (hlength'.trans hlength.symm)
  have hsize' : (evaluated ps (xs.set k x) (texts.set k text)).length = ps.length :=
    length_evaluated (by rw [List.length_set, hlength]) (by simp [hlength, hlength'])
  unfold all
  rw [ha, hb, List.getD_eq_getElem?_getD, List.getD_eq_getElem?_getD, List.getElem?_append,
    List.getElem?_append, getElem?_evaluated_set hi, hsize, hsize']

namespace BoundCall

variable {e : Engine} {r : Request} {s : State} {name : Statement} {args : List Statement}
  {span : Span} (c : BoundCall (e.env r) s name args span)

def withArgs {args' : List Statement} (h : args'.length = args.length) :
    BoundCall (e.env r) s name args' span :=
  { definition := c.definition
    signature := c.signature
    bound := ⟨c.signature.parameters,
      Binding.assign c.signature.parameters (args'.length - c.signature.least) args'⟩
    running := c.running
    going := c.going
    named := c.named
    found := c.found
    may := c.may
    binds := by
      have hbinds := c.binds
      unfold Binding.bind at hbinds ⊢
      rw [h]
      split at hbinds
      · cases hbinds
      · have hsignature : _ = c.signature := congrArg Prod.fst (Except.ok.inj hbinds)
        rw [← hsignature] }

def finish (body : Invocation → Action (Option String)) (a : Arguments) (u : State) : String × State :=
  if u.isRunning then
    let h := (body c.invocation).exec (e.env r).services (e.env r).eval ⟨a, u.started c.frame⟩
    conclude (e.env r).services c.frame.name span h.1 h.2.state.popCall
  else ("", u.popCall)

theorem eval_eq_finish (he : e.Standard) {body : Invocation → Action (Option String)}
    (hbody : c.signature.handler = .script body) (span' : Span) :
    (e.env r).eval (.mk [.call name args span] span') s =
      c.finish body c.opening.args c.resolved.2 := by
  rw [c.eval_eq he.scripted, c.handled_of_script hbody]
  rfl

theorem finish_of_stopped {u : State} (hu : u.isRunning = false)
    (body : Invocation → Action (Option String)) (a : Arguments) :
    c.finish body a u = ("", u.popCall) := by
  unfold finish
  rw [hu]
  rfl

theorem paired_finish {Q R : State → State → Prop}
    (C : Pairing (e.env r).services (e.env r).services Q fun _ : Unit ↦ R)
    (heval : ∀ statement, Paired Q R ((e.env r).eval statement) ((e.env r).eval statement))
    (hpop : ∀ u v, R u v → R u.popCall v.popCall) (body : Invocation → Action (Option String))
    (a : Arguments) : Paired Q R (c.finish body a) (c.finish body a) := by
  have hpopped : Paired Q R (fun u ↦ ((), u.popCall)) (fun u ↦ ((), u.popCall)) :=
    .change isLocalChange_popCall.precedes isLocalChange_popCall.precedes hpop
  have hstarted : Paired Q R (fun u ↦ ((), u.started c.frame)) (fun u ↦ ((), u.started c.frame)) :=
    .change (isLocalChange_started c.frame).precedes (isLocalChange_started c.frame).precedes
      fun u v ↦ C.started () u v c.frame
  have hhandled := (C.script (fun _ ↦ heval) (ExceptT.run (body c.invocation)) a ()).map Prod.fst
  have hconcluded := hhandled.bind fun outcome ↦
    hpopped.bind fun _ ↦ C.conclude c.frame.name span outcome ()
  exact Paired.ite (C.running ()) (hstarted.bind fun _ ↦ hconcluded) (hpopped.map fun _ ↦ "")

end BoundCall

/-- The subtags that take an array, by text or by the name of a variable, and its position. -/
def Subtags.arrayPosition? : String → Option Nat
  | "index" | "join" => some 0
  | "foreach" => some 1
  | _ => none

def Subtags.indexSignature (description : String) : Signature Handler where
  parameters := [⟨"array", .eager, .required⟩, ⟨"index", .eager, .required⟩]
  description
  handler := .script index
  least := 2

theorem Subtags.declares_index : Declares indexDeclaration indexSignature :=
  ⟨by simp [standardDeclarations, dataDeclarations], _, _, _, rfl, rfl⟩

theorem Subtags.allRequired_index (description : String) :
    (indexSignature description).AllRequired := by
  simp [Signature.AllRequired, indexSignature]

/-- The signature is that of a script that reads the array of parameter `k`; its parameters are
required, and the eager ones come first. -/
structure Signature.TakesArray (signature : Signature Handler) (k : Nat)
    (body : Invocation → Action (Option String)) (ps qs : List Parameter) : Prop where
  fixed : signature.Fixed
  handler : signature.handler = .script body
  parameters : signature.parameters = ps ++ qs
  eager : ∀ p ∈ ps, p.mode = .eager
  deferred : ∀ q ∈ qs, q.mode ≠ .eager
  position : k < ps.length
  reads : ReadsArray k body

theorem Subtags.takesArray_index (description : String) :
    (indexSignature description).TakesArray 0 index (indexSignature description).parameters [] where
  fixed := (allRequired_index description).fixed
  handler := rfl
  parameters := rfl
  eager := by simp [indexSignature]
  deferred := by simp
  position := Nat.two_pos
  reads := readsArray_index

theorem Subtags.takesArray_join (description : String) :
    (joinSignature description).TakesArray 0 join (joinSignature description).parameters [] where
  fixed := (allRequired_join description).fixed
  handler := rfl
  parameters := rfl
  eager := by simp [joinSignature]
  deferred := by simp
  position := Nat.two_pos
  reads := readsArray_join

theorem Subtags.takesArray_forEach (description : String) :
    (forEachSignature description).TakesArray 1 forEach
      [⟨"variable", .eager, .required⟩, ⟨"array", .eager, .required⟩]
      [⟨"code", .deferred, .required⟩] where
  fixed := by simp [Signature.Fixed, forEachSignature]
  handler := rfl
  parameters := rfl
  eager := by simp
  deferred := by simp
  position := Nat.one_lt_two
  reads := readsArray_forEach

namespace Engine.Standard

variable {e : Engine} (he : e.Standard) {name : String} {d : Definition Handler}
  (hd : e.registry.lookup name = some d)

include he hd

theorem takesArray {k : Nat} (hk : arrayPosition? d.id = some k) : ∃ signature body ps qs,
    d.signatures = [signature] ∧ signature.TakesArray k body ps qs := by
  unfold arrayPosition? at hk
  split at hk
  · rename_i hid
    cases hk
    obtain ⟨description, hone⟩ := he.signatures_of_declares hd declares_index hid
    exact ⟨_, _, _, _, hone, takesArray_index description⟩
  · rename_i hid
    cases hk
    obtain ⟨description, hone⟩ := he.signatures_of_declares hd declares_join hid
    exact ⟨_, _, _, _, hone, takesArray_join description⟩
  · rename_i hid
    cases hk
    obtain ⟨description, hone⟩ := he.signatures_of_declares hd declares_foreach hid
    exact ⟨_, _, _, _, hone, takesArray_forEach description⟩
  · cases hk

end Engine.Standard

theorem Services.ReadsAs.of_sameVariables {svc : Services} {s t : State} {text : String}
    {items : List Value} (h : svc.ReadsAs s text items) (hsame : s.SameVariables t) :
    svc.ReadsAs t text items := by
  unfold ReadsAs HoldsItems
  rw [hsame.getVariable_eq]
  exact h

namespace BoundCall

variable {e : Engine} {r : Request} {s : State} {name : Statement} {args : List Statement}
  {span : Span} (c : BoundCall (e.env r) s name args span) {k : Nat}
  {body : Invocation → Action (Option String)} {ps qs : List Parameter}
  (htakes : c.signature.TakesArray k body ps qs)

include htakes

/-- The eager arguments of the call are those before the array, the array and those after it. -/
theorem evalEach_array {x : Statement} (hx : args[k]? = some x) :
    let before := evalEach (e.env r).eval (args.take k) c.entered
    let others := evalEach (e.env r).eval (x :: (args.take ps.length).drop (k + 1)) before.2
    evalEach (e.env r).eval (args.take ps.length) c.entered = (before.1 ++ others.1, others.2) ∧
      c.resolved.2 = others.2 := by
  intro before others
  obtain ⟨hresolved, -⟩ := c.resolved_of_fixed htakes.fixed htakes.parameters htakes.eager
    htakes.deferred
  have hsplit : args.take ps.length = args.take k ++ x :: (args.take ps.length).drop (k + 1) := by
    have hx' : (args.take ps.length)[k]? = some x := by
      rw [List.getElem?_take_of_lt htakes.position, hx]
    obtain ⟨hlt, hget⟩ := List.getElem?_eq_some_iff.mp hx'
    have htake : args.take k = (args.take ps.length).take k := by
      rw [List.take_take, Nat.min_eq_left (Nat.le_of_lt htakes.position)]
    rw [htake, ← hget, ← List.drop_eq_getElem_cons hlt, List.take_append_drop]
  have heach : evalEach (e.env r).eval (args.take ps.length) c.entered =
      (before.1 ++ others.1, others.2) := by
    rw [hsplit]
    exact evalEach_append _ _ _
  exact ⟨heach, hresolved.trans (congrArg Prod.snd heach :)⟩

theorem evalEach_withArray {x : Statement} (hx : args[k]? = some x) (y : Statement) :
    let before := evalEach (e.env r).eval (args.take k) c.entered
    let others := evalEach (e.env r).eval (y :: (args.take ps.length).drop (k + 1)) before.2
    evalEach (e.env r).eval ((args.set k y).take ps.length) c.entered =
        (before.1 ++ others.1, others.2) ∧
      (c.withArgs (List.length_set : (args.set k y).length = _)).resolved.2 = others.2 := by
  have hy : (args.set k y)[k]? = some y :=
    List.getElem?_set_self (List.getElem?_eq_some_iff.mp hx).1
  have hbefore : (args.set k y).take k = args.take k := by
    rw [List.take_set, List.set_eq_of_length_le (List.length_take_le k args)]
  have hafter : ((args.set k y).take ps.length).drop (k + 1) = (args.take ps.length).drop (k + 1) := by
    rw [List.take_set, List.drop_set_of_lt (Nat.lt_succ_self k)]
  have heach := (c.withArgs (List.length_set : (args.set k y).length = _)).evalEach_array htakes hy
  rw [hbefore, hafter] at heach
  exact heach

theorem finish_array {y : Statement} {c' : BoundCall (e.env r) s name (args.set k y) span}
    (hsignature : c'.signature = c.signature) {texts : List String} {n text : String}
    {items : List Value} (hstarts : c.resolved.2.isRunning = true)
    (hstarts' : c'.resolved.2.isRunning = true)
    (heach : evalEach (e.env r).eval (args.take ps.length) c.entered = (texts, c.resolved.2))
    (heach' : evalEach (e.env r).eval ((args.set k y).take ps.length) c'.entered =
      (texts.set k text, c'.resolved.2)) (hn : texts[k]? = some n)
    (hreads : (e.env r).services.ReadsAs (c'.resolved.2.started c.frame) n items)
    (hitems : Value.items? text = some items) :
    c.finish body c'.opening.args c'.resolved.2 = c.finish body c.opening.args c'.resolved.2 := by
  have htakes' : c'.signature.TakesArray k body ps qs := hsignature ▸ htakes
  obtain ⟨found, hfound, hlength, hslots, hholds⟩ := c.texts_of_fixed htakes.fixed
    htakes.parameters htakes.eager htakes.deferred hstarts
  obtain ⟨found', hfound', -, hslots', hholds'⟩ := c'.texts_of_fixed htakes'.fixed
    htakes'.parameters htakes'.eager htakes'.deferred hstarts'
  obtain rfl : texts = found := congrArg Prod.fst (heach.symm.trans hfound)
  obtain rfl : texts.set k text = found' := congrArg Prod.fst (heach'.symm.trans hfound')
  have htake := c.length_take_of_fixed htakes.fixed htakes.parameters
  rw [List.take_set, List.drop_set_of_lt htakes.position] at hslots'
  have halike := Arguments.alikeBut_of_evaluated htake hlength hslots hslots'
  have hk := List.getElem?_eq_some_iff.mp hn
  have hbefore : ∀ i < k, ∃ text, c.opening.args.Holds i [text] := fun i hi ↦
    ⟨_, hholds i _ (List.getElem?_eq_getElem (hi.trans hk.1))⟩
  obtain ⟨houtcome, hstate⟩ := htakes.reads (e.env r).services (e.env r).eval
    (c'.resolved.2.started c.frame) _ _ n text items c.invocation halike hbefore (hholds k n hn)
    (hholds' k text (List.getElem?_set_self hk.1)) hreads (Or.inl hitems)
  unfold finish
  dsimp only
  rw [houtcome, hstate]

section Meeting

variable {Q R : State → State → Prop}
  (C : Pairing (e.env r).services (e.env r).services Q fun _ : Unit ↦ R)
  (heval : ∀ statement, Paired Q R ((e.env r).eval statement) ((e.env r).eval statement))
  (hpop : ∀ u v, R u v → R u.popCall v.popCall)

include C hpop

omit htakes in
theorem finish_meets_of_stopped {u v : State} (hR : R u v) (hu : u.isRunning = false)
    (body : Invocation → Action (Option String)) (a b : Arguments) :
    (c.finish body a u).1 = (c.finish body b v).1 ∧
      R (c.finish body a u).2 (c.finish body b v).2 := by
  have hv : v.isRunning = false := (C.running () u v hR).symm.trans hu
  rw [c.finish_of_stopped hu, c.finish_of_stopped hv]
  exact ⟨rfl, hpop u v hR⟩

include heval

theorem meets_of_text (hsame : ∀ u v, R u v → u.SameVariables v) {x y : Statement}
    {n text : String} {items : List Value} (hx : args[k]? = some x) (hliteral : x.literal? = some n)
    (hitems : Value.items? text = some items)
    (hreads : c.resolved.2.isRunning = true → (e.env r).services.ReadsAs c.opening.state n items)
    {pre : List String} {u : State}
    (hbefore : evalEach (e.env r).eval (args.take k) c.entered = (pre, u))
    (hu : u.isRunning = true) (htext : ((e.env r).eval y u).1 = text)
    (hR : R u ((e.env r).eval y u).2) :
    let c' := c.withArgs (List.length_set : (args.set k y).length = _)
    let a := c.finish body c.opening.args c.resolved.2
    let b := c.finish body c'.opening.args c'.resolved.2
    (a.1 = b.1 ∧ R a.2 b.2) ∨ Parted Q a.2 b.2 := by
  intro c' a b
  have hfinish (args : Arguments) := c.paired_finish C heval hpop body args
  obtain ⟨htexts, hresolved⟩ := c.evalEach_array htakes hx
  obtain ⟨htexts', hresolved'⟩ := c.evalEach_withArray htakes hx y
  rw [hbefore] at htexts hresolved htexts' hresolved'
  dsimp only at htexts hresolved htexts' hresolved'
  rw [evalEach_cons hu, (e.env r).eval_of_literal? hu hliteral] at htexts hresolved
  rw [evalEach_cons hu] at htexts' hresolved'
  dsimp only at htexts hresolved htexts' hresolved'
  generalize (args.take ps.length).drop (k + 1) = post at *
  rcases (C.evalEach (fun _ ↦ heval) post ()).meets _ _ hR with ⟨hposts, hR'⟩ | hparted
  · rw [← hresolved, ← hresolved'] at hR'
    cases hstarts : c.resolved.2.isRunning with
    | false => exact Or.inl (c.finish_meets_of_stopped C hpop hR' hstarts body _ _)
    | true =>
      have hstarts' : c'.resolved.2.isRunning = true := (C.running () _ _ hR').symm.trans hstarts
      have hpre : pre.length = k := by
        have hrunning : (evalEach (e.env r).eval (args.take k) c.entered).2.isRunning = true := by
          rw [hbefore]
          exact hu
        have hlength := length_evalEach hrunning
        rw [hbefore, List.length_take] at hlength
        exact hlength.trans (Nat.min_eq_left (Nat.le_of_lt (List.getElem?_eq_some_iff.mp hx).1))
      have hset (texts : List String) : pre ++ text :: texts = (pre ++ n :: texts).set k text := by
        simp [hpre]
      rw [← hresolved] at htexts
      rw [htext, ← hposts, ← hresolved', hset] at htexts'
      obtain ⟨hstore, hframe⟩ := hsame _ _ hR'
      have hvariables : c.opening.state.SameVariables (c'.resolved.2.started c.frame) :=
        ⟨hstore, hframe⟩
      have hb : b = c.finish body c.opening.args c'.resolved.2 :=
        c.finish_array htakes rfl hstarts hstarts' htexts htexts' (by simp [hpre])
          ((hreads hstarts).of_sameVariables hvariables) hitems
      rw [hb]
      exact (hfinish _).meets _ _ hR'
  · rw [← hresolved, ← hresolved'] at hparted
    exact Or.inr (hparted.later ((hfinish _).left _) ((hfinish _).right _))

end Meeting

end BoundCall

namespace BoundCall

variable {e : Engine} (he : e.Standard) {r : Request} {s : State} {name : Statement}
  {args : List Statement} {span : Span} (c : BoundCall (e.env r) s name args span) {k : Nat}
  (hk : arrayPosition? c.definition.id = some k)

include he hk

/-- A call with an array as its argument does the same if the array is given by another text
instead, as long as the code for it does. -/
theorem array_by_text {Q R : State → State → Prop}
    (C : Pairing (e.env r).services (e.env r).services Q fun _ : Unit ↦ R)
    (heval : ∀ statement, Paired Q R ((e.env r).eval statement) ((e.env r).eval statement))
    (hrefl : ∀ u, c.entered.Precedes u → R u u) (hsame : ∀ u v, R u v → u.SameVariables v)
    {x y : Statement} {n text : String} {items : List Value} (hx : args[k]? = some x)
    (hliteral : x.literal? = some n) (hitems : Value.items? text = some items)
    (hreads : c.resolved.2.isRunning = true →
      (e.env r).services.ReadsAs c.opening.state n items)
    (hgives : ∀ u, (evalEach (e.env r).eval (args.take k) c.entered).2 = u → u.isRunning = true →
      (((e.env r).eval y u).1 = text ∧ R u ((e.env r).eval y u).2) ∨
        Parted Q u ((e.env r).eval y u).2) (span' : Span) :
    let a := (e.env r).eval (.mk [.call name args span] span') s
    let b := (e.env r).eval (.mk [.call name (args.set k y) span] span') s
    (a.1 = b.1 ∧ R a.2 b.2) ∨ Parted Q a.2 b.2 := by
  intro a b
  obtain ⟨signature, body, ps, qs, hone, htakes⟩ := he.takesArray c.found hk
  obtain rfl := (c.signature_of_single hone).symm
  let c' := c.withArgs (List.length_set : (args.set k y).length = _)
  have ha : a = c.finish body c.opening.args c.resolved.2 :=
    c.eval_eq_finish he htakes.handler span'
  have hb : b = c.finish body c'.opening.args c'.resolved.2 :=
    c'.eval_eq_finish he htakes.handler span'
  obtain ⟨_, -, hpop⟩ := C.call c.frame () c.entered c.entered (hrefl _ (.refl _))
  obtain ⟨-, hresolved⟩ := c.evalEach_array htakes hx
  obtain ⟨-, hresolved'⟩ := c.evalEach_withArray htakes hx y
  have heach (xs : List Statement) := C.evalEach (fun _ ↦ heval) xs ()
  have hlater := (heach (args.take k)).left c.entered
  generalize hbefore : evalEach (e.env r).eval (args.take k) c.entered = before at *
  obtain ⟨pre, u⟩ := before
  dsimp only at hlater hresolved hresolved'
  rw [ha, hb]
  cases hu : u.isRunning with
  | false =>
    rw [evalEach_stopped hu] at hresolved hresolved'
    rw [hresolved, hresolved']
    exact Or.inl (c.finish_meets_of_stopped C hpop (hrefl u hlater) hu body _ _)
  | true =>
    rcases hgives u rfl hu with ⟨htext, hR⟩ | hparted
    · exact c.meets_of_text htakes C heval hpop hsame hx hliteral hitems hreads hbefore hu htext hR
    · have hfinish (args : Arguments) := c.paired_finish C heval hpop body args
      rw [evalEach_cons hu, (e.env r).eval_of_literal? hu hliteral] at hresolved
      rw [evalEach_cons hu] at hresolved'
      rw [hresolved, hresolved']
      exact Or.inr (hparted.later (((heach _).left _).trans ((hfinish _).left _))
        (((heach _).right _).trans ((hfinish _).right _)))

end BoundCall

section Same

theorem Pairing.refl (svc : Services) :
    Pairing svc svc (fun _ _ ↦ False) fun _ : Unit ↦ Eq where
  plugins := rfl
  origin := rfl
  depth _ _ _ hst := by rw [hst]; exact Or.inl ⟨rfl, rfl⟩
  running _ _ _ hst := by rw [hst]
  function _ _ _ hst _ := by rw [hst]
  tick _ _ _ hst := by rw [hst]; exact Or.inl ⟨rfl, rfl⟩
  charge _ _ _ hst := by rw [hst]; exact Or.inl ⟨rfl, rfl⟩
  fail _ _ _ _ _ _ hst := by rw [hst]; exact Or.inl ⟨rfl, rfl⟩
  started _ _ _ _ hst := by rw [hst]
  iterated _ _ _ hst := by rw [hst]
  call _ i _ _ hst := ⟨i, by rw [hst], fun _ _ hst ↦ by rw [hst]⟩
  activation _ _ i _ _ hst := ⟨i, by rw [hst], fun _ _ hst ↦ by rw [hst]⟩
  interception i _ _ hst := ⟨i, by rw [hst], fun _ _ hst ↦ by rw [hst]; exact ⟨rfl, rfl⟩⟩
  define _ _ _ _ _ hst := by rw [hst]
  answer _ _ _ _ _ hst := by rw [hst]; exact Or.inl ⟨rfl, rfl⟩

theorem State.uncalled_visited {svc : Services} {s : State} (h : (svc.tick s).1 = true)
    (frame : CallFrame) : (s.visited svc frame).uncalled = s.uncalled := by
  rw [← uncalled_tick h]
  unfold visited opened
  generalize (svc.tick s).2 = t
  rfl

theorem Event.eq_of_stops {l : Limits} {ev ev' : Event} (h : Event.Stops l ev)
    (hsame : ev'.unplaced = ev.unplaced) : ev' = ev := by
  cases h <;> cases ev' <;> cases hsame <;> rfl

theorem State.StoppedSince.of_unplaced {l : Limits} {s t t' : State} (h : s.StoppedSince l t)
    (hlater : s.Precedes t') (hsame : t'.unplaced = t.unplaced) : s.StoppedSince l t' := by
  obtain ⟨ev, hstops, later, hjournal, hev⟩ := h
  obtain ⟨later', -, hjournal', -⟩ := hlater
  have hevents : (later' ++ s.journal).map Event.unplaced = (later ++ s.journal).map Event.unplaced := by
    rw [← hjournal, ← hjournal']
    exact (congrArg State.journal hsame :)
  rw [List.map_append, List.map_append] at hevents
  have hmem : ev.unplaced ∈ later'.map Event.unplaced := by
    rw [List.append_cancel_right hevents]
    exact List.mem_map_of_mem hev
  obtain ⟨ev', hev', hplace⟩ := List.mem_map.mp hmem
  obtain rfl := Event.eq_of_stops hstops hplace
  exact ⟨ev', hstops, later', hjournal', hev'⟩

end Same

section Texts

variable {e : Engine} (he : e.Standard) {r : Request} {s : State} {x : Statement} {n : String}
  (hx : x.literal? = some n) {value : Value} (nameSpan span : Span)

include he hx

theorem Engine.Standard.get_recounted {start : State} (hstart : start.Precedes s)
    (hrunning : s.isRunning = true)
    (hvalue : (e.env r).services.getVariable n s = .ok (some value)) :
    let a := (e.env r).eval (.ofCall "get" [x] nameSpan span) s
    (a.1 = value.render ∧ Recounted start s a.2) ∨
      Parted (Recounted.Parts (e.env r).services.limits start) s a.2 := by
  intro a
  have hlater : start.Precedes a.2 := hstart.trans ((e.env r).precedes_eval he.scripted _ s)
  obtain ⟨hgoing, hcalled⟩ | hrefused := he.eval_get_or_refused (r := r) (s := s) hx nameSpan span span
  · have ha : a = _ := hcalled
    rw [hvalue] at ha
    refine Or.inl ⟨congrArg Prod.fst ha, hstart, hlater, ?_⟩
    rw [ha]
    exact (State.uncalled_visited hgoing _).symm
  · exact Or.inr (.of (Or.inr ((hrefused.stopped hrunning).earlier hstart)))

theorem Engine.Standard.eval_get_of_room {m depth : Nat}
    (hroom : s.HasRoom (e.env r).services (m + 1) (depth + 1))
    (hvalue : (e.env r).services.getVariable n s = .ok (some value)) :
    (e.env r).eval (.ofCall "get" [x] nameSpan span) s =
      (value.render, s.visited (e.env r).services ⟨normalize "get", span⟩) := by
  obtain ⟨c, -, hsignature, -⟩ := he.exists_boundCall_of_tick [x] declares_get.mem rfl rfl
    (by rfl : Binding.bind [getSignature _] [x] = _)
    (by decide +kernel : normalize (normalize "get") ∈ _) hroom.running hroom.going hroom.mayCall
    nameSpan span
  refine (c.eval_get he hx hsignature span).trans ?_
  rw [hvalue]
  rfl

theorem Engine.Standard.eval_set_of_room (hstore : e.faults.IsReliable) {m depth : Nat}
    (hroom : s.HasRoom (e.env r).services (m + 1) (depth + 1)) {xs : List Statement}
    {texts : List String} (hxs : xs.map Statement.literal? = texts.map some) (hne : texts ≠ [])
    {cell : Cell} (hcell : (e.env r).services.locate n = .ok cell) :
    let t := ((e.env r).eval (.ofCall "set" (x :: xs) nameSpan span) s).2
    t.HasRoom (e.env r).services m (depth + 1) ∧
      (e.env r).services.getVariable n t = .ok (some (stored texts)) := by
  intro t
  obtain ⟨c, -, hsignature, hbound⟩ := he.exists_boundCall_of_tick (x :: xs) declares_set.mem rfl rfl
    (bind_set _ x xs) (by decide +kernel : normalize (normalize "set") ∈ _)
    hroom.running hroom.going hroom.mayCall nameSpan span
  have hslots : c.bound.slots = _ := congrArg Arguments.slots hbound
  have hargs : (x :: xs).map Statement.literal? = (n :: texts).map some := by
    rw [List.map_cons, List.map_cons, hx, hxs]
  have hplain := (e.env r).evalEach_of_literal? c.isRunning_entered hargs
  have hresolved : c.resolved.2 = c.entered := by rw [c.resolved_of_set hslots, hplain]
  have heach : evalEach (e.env r).eval (x :: xs) c.entered = (n :: texts, c.resolved.2) := by
    rw [hplain, hresolved]
  have hstarts : c.resolved.2.isRunning = true := by
    rw [hresolved]
    exact c.isRunning_entered
  have hopening : c.opening.state = s.opened (e.env r).services ⟨normalize "set", span⟩ := by
    rw [c.opening_of_plain hresolved, c.frame_of_plain]
    rfl
  have hwritten : t = ((c.opening.state.poke (some (stored texts)) cell).note
      (.wrote n false)).popCall := by
    refine (congrArg Prod.snd (c.eval_set hslots he hsignature heach hstarts hne span)).trans ?_
    rw [Services.setVariable_of_locate hstore _ hcell]
    rfl
  rw [hwritten, hopening]
  refine ⟨((hroom.opened _).wrote _ cell _).popCall ?_, ?_⟩
  · obtain ⟨_ | scope, bare⟩ := cell <;> exact List.cons_ne_nil _ _
  · rw [(State.SameVariables.popCall _).getVariable_eq]
    exact Services.getVariable_poke hstore _ hcell _ _

theorem Engine.Standard.eval_index_get {m depth : Nat}
    (hroom : s.HasRoom (e.env r).services (m + 2) (depth + 2)) {items : List Value}
    (hexact : (Value.list items).Exact Value.maxDepth)
    (hvalue : (e.env r).services.getVariable n s = .ok (some (.list items))) {y : Statement}
    {w : String} (hy : y.literal? = some w) {i : Nat}
    (hi : (e.env r).services.plugins.integer? w = some i) {item : Value} (hitem : items[i]? = some item)
    (nameSpan' span' : Span) :
    let a := (e.env r).eval (.ofCall "index" [.ofCall "get" [x] nameSpan' span', y] nameSpan span) s
    a.1 = item.render ∧ s.Visited 2 a.2 := by
  intro a
  obtain ⟨c, -, hsignature, -⟩ := he.exists_boundCall_of_tick
    [.ofCall "get" [x] nameSpan' span', y] declares_index.mem rfl rfl
    (by rfl : Binding.bind [indexSignature _] [.ofCall "get" [x] nameSpan' span', y] = _)
    (by decide +kernel : normalize (normalize "index") ∈ _) hroom.running hroom.going hroom.mayCall
    nameSpan span
  -- The arguments are evaluated to the text of the array and that of the index.
  have hinside : c.entered.HasRoom (e.env r).services (m + 1) (depth + 1) := by
    rw [c.entered_of_plain]
    exact hroom.called c.frame
  have hget := he.eval_get_of_room hx nameSpan' span' hinside
    ((c.sameVariables_entered.getVariable_eq _ n).trans hvalue)
  generalize hv : c.entered.visited (e.env r).services ⟨normalize "get", span'⟩ = v at hget
  have hvisited : c.entered.Visited 1 v := hv ▸ State.visited_visited _ _ _
  have hrunning : v.isRunning = true := hv ▸ (hinside.visited _).running
  have heach : evalEach (e.env r).eval [.ofCall "get" [x] nameSpan' span', y] c.entered =
      ([(Value.list items).render, w], v) := by
    rw [evalEach_cons c.isRunning_entered, hget, evalEach_cons hrunning,
      (e.env r).eval_of_literal? hrunning hy]
    rfl
  have hrequired : c.signature.AllRequired := hsignature ▸ allRequired_index _
  have hresolved : c.resolved.2 = v := by rw [c.resolved_of_required hrequired, heach]
  have hstarts : c.resolved.2.isRunning = true := hresolved ▸ hrunning
  obtain ⟨texts, htexts, -, hholds⟩ := c.texts_of_required hrequired hstarts
  obtain ⟨rfl, -⟩ := Prod.mk.inj (heach.symm.trans htexts)
  have hcalled : a = (item.render, (v.started c.frame).popCall) := by
    refine (c.eval_eq he.scripted span).trans ?_
    rw [if_pos hstarts, c.handled_of_script (congrArg Signature.handler hsignature),
      exec_index (hholds 0 _ rfl) (Value.items?_print hexact) (hholds 1 w rfl) hi hitem]
    unfold BoundCall.opening
    rw [hresolved]
    rfl
  have hentered : s.Visited 1 c.entered := c.entered_of_plain ▸ State.visited_called _ _ s
  obtain ⟨hsteps, herrors, hstored, hframe⟩ := hentered.trans hvisited
  rw [hcalled]
  exact ⟨rfl, hsteps, herrors, hstored, hframe⟩

end Texts

namespace BoundCall

variable {e : Engine} (he : e.Standard) {r : Request} {s : State} {name : Statement}
  {args : List Statement} {span : Span} (c : BoundCall (e.env r) s name args span) {k : Nat}
  (hk : arrayPosition? c.definition.id = some k) {x y : Statement} {n text : String}
  {items : List Value} (hx : args[k]? = some x) (hliteral : x.literal? = some n)
  (hreads : c.resolved.2.isRunning = true → (e.env r).services.ReadsAs c.opening.state n items)

include he

theorem precedes_entered : s.Precedes c.entered :=
  have hcalled (u : State) : u.Precedes (u.called c.frame) :=
    .of_journal [.called c.frame, .charged .calls] rfl rfl
  ((State.Precedes.tick (e.env r).services s).trans ((e.env r).precedes_eval he.scripted name _)).trans
    (hcalled _)

include hk hx hliteral hreads

theorem eval_of_array_text (hitems : Value.items? text = some items) (hy : y.literal? = some text)
    (span' : Span) :
    (e.env r).eval (.mk [.call name (args.set k y) span] span') s =
      (e.env r).eval (.mk [.call name args span] span') s := by
  have heval (statement : Statement) : Paired (fun _ _ ↦ False) Eq ((e.env r).eval statement)
      ((e.env r).eval statement) := by
    refine ⟨(e.env r).precedes_eval he.scripted _, (e.env r).precedes_eval he.scripted _, ?_⟩
    rintro u _ rfl
    exact Or.inl ⟨rfl, rfl⟩
  have hsame : ∀ u v : State, u = v → u.SameVariables v := by
    rintro u _ rfl
    exact .refl u
  obtain ⟨htext, hstate⟩ | ⟨_, _, hparted, -⟩ := c.array_by_text he hk (.refl _) heval (fun _ _ ↦ rfl)
    hsame hx hliteral hitems hreads (fun u _ hu ↦ Or.inl (by
      rw [(e.env r).eval_of_literal? hu hy]
      exact ⟨rfl, rfl⟩)) span'
  · exact (Prod.ext htext hstate).symm
  · exact hparted.elim

/-- The call does the same but for what is counted if it is given code that reads the text of the
array, unless a run is stopped. -/
theorem eval_of_array_get {x' : Statement} (hx' : x'.literal? = some n)
    (hexact : (Value.list items).Exact Value.maxDepth)
    (hvalue : ∀ u, (evalEach (e.env r).eval (args.take k) c.entered).2 = u → u.isRunning = true →
      (e.env r).services.getVariable n u = .ok (some (.list items))) (p q span' : Span) :
    let a := (e.env r).eval (.mk [.call name args span] span') s
    let b := (e.env r).eval (.mk [.call name (args.set k (.ofCall "get" [x'] p q)) span] span') s
    (a.1 = b.1 ∧ a.2.uncalled = b.2.uncalled) ∨
      Recounted.Parts (e.env r).services.limits s a.2 b.2 := by
  have hlater (u : State) (hu : c.entered.Precedes u) : s.Precedes u :=
    (c.precedes_entered he).trans hu
  have hsame (u v : State) (h : Recounted s u v) : u.SameVariables v :=
    ⟨(congrArg State.store h.same).symm, (congrArg State.frame h.same).symm⟩
  have hbefore := ((Recounted.pairing (e.env r).services s).evalEach
    (fun _ ↦ Recounted.eval he.scripted s) (args.take k) ()).left c.entered
  obtain ⟨htext, hstate⟩ | hparted := c.array_by_text he hk (Recounted.pairing _ s)
    (Recounted.eval he.scripted s) (fun u hu ↦ ⟨hlater u hu, hlater u hu, rfl⟩) hsame hx hliteral
    (Value.items?_print hexact) hreads (fun u hu hrunning ↦ he.get_recounted hx' p q
      (hlater u (hu ▸ hbefore)) hrunning (hvalue u hu hrunning)) span'
  · exact Or.inl ⟨htext, hstate.same⟩
  · exact Or.inr (Recounted.parts_of_parted hparted)

end BoundCall

/-- An array means the same by the name of its variable and by the text that is read from it, if it
is exact. A call that takes it does the same with the name and with the text. With code that reads
the text it gives the same text, the same errors but for their places and the same variables, unless
one of the runs is stopped for the call that the reading costs. So an item of an array of texts is
the text that was stored. -/
theorem Engine.arrays_by_name_or_text {e : Engine} (he : e.Standard) (r : Request) {n : String}
    (htrim : Text.trim n = n) (hn : Value.items? n = none) {items : List Value}
    (hexact : (Value.list items).Exact Value.maxDepth) :
    (∀ (s : State) (x : Statement) (a b : Span), x.literal? = some n →
      s.HasRoom (e.env r).services 1 1 →
      (e.env r).services.getVariable n s = .ok (some (.list items)) →
      ((e.env r).eval (.ofCall "get" [x] a b) s).1 = (Value.list items).render) ∧
    (∀ (s : State) (name : Statement) (args : List Statement) (span span' p q : Span)
      (c : BoundCall (e.env r) s name args span) (k : Nat) (x x' y z : Statement),
      arrayPosition? c.definition.id = some k → args[k]? = some x → x.literal? = some n →
      (c.resolved.2.isRunning = true →
        (e.env r).services.getVariable n c.opening.state = .ok (some (.list items))) →
      let a := (e.env r).eval (.mk [.call name args span] span') s
      let b := (e.env r).eval z s
      (y.literal? = some (Value.list items).render →
        z.unplaced = (Statement.mk [.call name (args.set k y) span] span').unplaced →
        b.1 = a.1 ∧ b.2.unplaced = a.2.unplaced) ∧
      (x'.literal? = some n →
        (∀ u, (evalEach (e.env r).eval (args.take k) c.entered).2 = u → u.isRunning = true →
          (e.env r).services.getVariable n u = .ok (some (.list items))) →
        z.unplaced =
          (Statement.mk [.call name (args.set k (.ofCall "get" [x'] p q)) span] span').unplaced →
        (b.1 = a.1 ∧ b.2.unplaced.uncalled = a.2.unplaced.uncalled) ∨
          s.StoppedSince (e.env r).services.limits a.2 ∨
          s.StoppedSince (e.env r).services.limits b.2)) ∧
    (e.faults.IsReliable → ∀ (s : State) (x x' y : Statement) (xs : List Statement)
      (texts : List String) (i : Nat) (text w : String) (cell : Cell) (a b a' b' a'' b'' : Span),
      x.literal? = some n → x'.literal? = some n → y.literal? = some w →
      xs.map Statement.literal? = texts.map some → 2 ≤ texts.length →
      (e.env r).services.locate n = .ok cell →
      s.HasRoom (e.env r).services 3 2 → (e.env r).services.plugins.integer? w = some i →
      texts[i]? = some text →
      let once := ((e.env r).eval (.ofCall "set" (x :: xs) a b) s).2
      let found := (e.env r).eval (.ofCall "index" [.ofCall "get" [x'] a'' b'', y] a' b') once
      found.1 = text ∧ once.Visited 2 found.2) := by
  refine ⟨?_, ?_, ?_⟩
  · intro s x a b hx hroom hvalue
    rw [he.eval_get_of_room hx a b hroom hvalue]
  · intro s name args span span' p q c k x x' y z hk hx hliteral hvalue a b
    have hreads (hstarts : c.resolved.2.isRunning = true) :
        (e.env r).services.ReadsAs c.opening.state n items :=
      Or.inr ⟨hn, _, htrim.symm ▸ hvalue hstarts, Or.inl rfl⟩
    constructor
    · intro hy hz
      obtain ⟨htext, hstate⟩ := (e.env r).eval_of_unplaced he.scripted hz s
      rw [c.eval_of_array_text he hk hx hliteral hreads (Value.items?_print hexact) hy] at htext hstate
      exact ⟨htext, hstate⟩
    · intro hx' hbefore hz
      obtain ⟨htext, hstate⟩ := (e.env r).eval_of_unplaced he.scripted hz s
      obtain ⟨htext', hstate'⟩ | hstopped | hstopped :=
        c.eval_of_array_get he hk hx hliteral hreads hx' hexact hbefore p q span'
      · refine Or.inl ⟨htext.trans htext'.symm, ?_⟩
        rw [hstate]
        exact (congrArg State.unplaced hstate'.symm :)
      · exact Or.inr (Or.inl hstopped)
      · have hlater := (e.env r).precedes_eval he.scripted z s
        exact Or.inr (Or.inr (hstopped.of_unplaced hlater hstate))
  · intro hstore s x x' y xs texts i text w cell a b a' b' a'' b'' hx hx' hy hxs hmany hcell
      hroom hi htext once found
    have hne : texts ≠ [] := by
      rintro rfl
      cases hmany
    have hstored : stored texts = .list (texts.map .text) := by
      rcases texts with _ | ⟨first, _ | ⟨second, texts⟩⟩
      · exact absurd rfl hne
      · exact absurd hmany (by simp)
      · rfl
    obtain ⟨hagain, hget⟩ := he.eval_set_of_room hx a b hstore hroom hxs hne hcell
    rw [hstored] at hget
    have htexts : (Value.list (texts.map .text)).Exact Value.maxDepth := by
      refine .list fun v hv ↦ ?_
      obtain ⟨text, -, rfl⟩ := List.mem_map.mp hv
      exact .text _ text
    exact he.eval_index_get hx' a' b' hagain htexts hget hy hi
      (by rw [List.getElem?_map, htext]; rfl) a'' b''

/-- A loop over an array with a text that would end an argument and with an array inside, and an
item of an array of texts. -/
theorem Engine.arrays_by_name_or_text_loop :
    let place : Span := ⟨⟨0, 1, 1⟩, ⟨0, 1, 1⟩⟩
    let plain := Statement.plain place
    let items : List Value := [.text "a;b", .list [.int 1, .null]]
    let code : Statement := .mk [.call (plain "get") [plain "v"] place, .literal "," place] place
    let s := ({} : State).poke (some (.list items)) (some (.tag ""), "x")
    ∃ e : Engine, e.Standard ∧ e.faults.IsReliable ∧ Text.trim "x" = "x" ∧ Value.items? "x" = none ∧
      (Value.list items).Exact Value.maxDepth ∧
      let env := e.env (.patient {})
      let loop (array : Statement) := Statement.ofCall "foreach" [plain "v", array, code] place place
      let byName := env.eval (loop (plain "x")) s
      let byText := env.eval (loop (plain (Value.list items).render)) s
      let byGet := env.eval (loop (.ofCall "get" [plain "x"] place place)) s
      let once := (env.eval (.ofCall "set" (["x", "]", "a;b"].map plain) place place) {}).2
      byName.1 = "a;b,[1,null]," ∧ byText.1 = byName.1 ∧ byText.2.unplaced = byName.2.unplaced ∧
      ((byGet.1 = byName.1 ∧ byGet.2.unplaced.uncalled = byName.2.unplaced.uncalled) ∨
        s.StoppedSince {} byName.2 ∨ s.StoppedSince {} byGet.2) ∧
      (env.eval (.ofCall "index" [.ofCall "get" [plain "x"] place place, plain "1"] place place)
        once).1 = "a;b" := by
  intro place plain items code s
  obtain ⟨e, hbuild, he, hrun⟩ := exists_standard_of_any (b := { providers := [⟨"", .tag⟩] }) rfl rfl
    (p := fun e ↦ e.scopes.providers == [⟨"", .tag⟩] &&
      decide ((e.env (.patient {})).services.plugins.integer? "1" = some 1) &&
      ((e.env (.patient {})).eval
        (.ofCall "foreach" [plain "v", plain "x", code] place place) s).1 == "a;b,[1,null],")
    (by decide +kernel)
  simp only [Bool.and_eq_true, decide_eq_true_eq, beq_iff_eq] at hrun
  obtain ⟨⟨hscopes, hone⟩, htext⟩ := hrun
  have hstore : e.faults.IsReliable := isReliable_of_build rfl rfl hbuild
  have hlocate : (e.env (.patient {})).services.locate "x" = .ok (some (.tag ""), "x") :=
    Services.locate_of_tag hscopes "x"
  have hreliable : (e.env (.patient {})).services.faults.IsReliable := hstore
  have hvalue : (e.env (.patient {})).services.getVariable "x" s = .ok (some (.list items)) := by
    rw [Services.getVariable_eq hreliable, hlocate]
    simp [Except.map, s, State.peek_poke]
  have hexact : (Value.list items).Exact Value.maxDepth := by
    change Value.Exact (126 + 1) (.list items)
    refine .list fun v hv ↦ ?_
    simp only [items, List.mem_cons, List.not_mem_nil, or_false] at hv
    obtain rfl | rfl := hv
    · exact .text _ _
    · refine .list fun v hv ↦ ?_
      simp only [List.mem_cons, List.not_mem_nil, or_false] at hv
      obtain rfl | rfl := hv
      · exact .int _ (by decide)
      · exact .null _
  have hplain (text : String) : (plain text).literal? = some text := by
    simp [plain, Statement.plain, Statement.literal?, Statement.parts, Statement.literalText]
  have hmay : s.MayCall {} := ⟨by decide, by decide⟩
  obtain ⟨c, hid, -, -⟩ := he.exists_boundCall_at [plain "v", plain "x", code] declares_foreach.mem
    rfl rfl rfl (by decide +kernel : normalize (normalize "foreach") ∈ _) rfl rfl hmay place place
  have hforeach : c.definition.id = "foreach" := hid.trans (by decide +kernel)
  have heach (texts : List String) : evalEach (e.env (.patient {})).eval (texts.map plain) c.entered =
      (texts, c.entered) := Env.evalEach_plain _ c.isRunning_entered place texts
  have hresolved : c.resolved.2 = c.entered := by
    obtain ⟨target, array, code', hargs, hstate, -⟩ := c.resolved_of_foreach he hforeach
    obtain ⟨rfl, hrest⟩ := List.cons.inj hargs
    obtain ⟨rfl, -⟩ := List.cons.inj hrest
    exact hstate.trans (congrArg Prod.snd (heach ["v", "x"]))
  have hopening := ((c.sameVariables_opening hresolved).getVariable_eq _ "x").trans hvalue
  have hentered := (c.sameVariables_entered.getVariable_eq _ "x").trans hvalue
  have htrim : Text.trim "x" = "x" := by decide +kernel
  have hn : Value.items? "x" = none := by decide +kernel
  obtain ⟨-, hcalls, hset⟩ := arrays_by_name_or_text he (.patient {}) htrim hn hexact
  have hloop (y z : Statement) := hcalls s _ _ place place place place c 1 (plain "x") (plain "x") y z
    (by rw [hforeach]; rfl) rfl (hplain "x") fun _ ↦ hopening
  obtain ⟨htext', hstate'⟩ := (hloop (plain (Value.list items).render) _).1 (hplain _) rfl
  have hget := (hloop (plain "") _).2 (hplain "x") (fun u hu _ ↦ by
    rw [← hu]
    exact (congrArg (fun b ↦ (e.env (.patient {})).services.getVariable "x" b.2) (heach ["v"])).trans
      hentered) rfl
  have hroom : ({} : State).HasRoom (e.env (.patient {})).services 3 2 :=
    e.hasRoom_initial [] (fun k _ _ ↦ e.not_signalledAt_patient {} k)
      (by decide : 3 ≤ ({} : Limits).maxCalls) (by decide : 2 ≤ ({} : Limits).maxDepth)
  have hitem := hset hstore {} (plain "x") (plain "x") (plain "1") (["]", "a;b"].map plain) ["]", "a;b"]
    1 "a;b" "1" _ place place place place place place (hplain "x") (hplain "x") (hplain "1")
    (by simp [hplain]) (by decide) hlocate hroom hone rfl
  exact ⟨e, he, hstore, htrim, hn, hexact, htext, htext', hstate', hget, hitem.1⟩

end BraceScript
