import BraceScript.Proofs.Run.Locality

namespace BraceScript

section

variable {α β : Type} {Q : State → State → Prop} {R : State → State → Prop}

def Parted (Q : State → State → Prop) (s t : State) : Prop :=
  ∃ s₀ t₀, Q s₀ t₀ ∧ s₀.Precedes s ∧ t₀.Precedes t

theorem Parted.of {s t : State} (h : Q s t) : Parted Q s t := ⟨s, t, h, .refl s, .refl t⟩

theorem Parted.later {s t s' t' : State} (h : Parted Q s t) (hs : s.Precedes s')
    (ht : t.Precedes t') : Parted Q s' t' := by
  obtain ⟨s₀, t₀, hQ, hs₀, ht₀⟩ := h
  exact ⟨s₀, t₀, hQ, hs₀.trans hs, ht₀.trans ht⟩

/-- From related states the same result and related states again, unless the runs part. -/
def Meets (Q R : State → State → Prop) (f g : State → α × State) : Prop :=
  ∀ s t, R s t → (f s).1 = (g t).1 ∧ R (f s).2 (g t).2 ∨ Parted Q (f s).2 (g t).2

/-- The computations meet, and each of them leads to a later state wherever it starts. -/
structure Paired (Q R : State → State → Prop) (f g : State → α × State) : Prop where
  left : ∀ s : State, s.Precedes (f s).2
  right : ∀ t : State, t.Precedes (g t).2
  meets : Meets Q R f g

namespace Paired

theorem pure (a : α) : Paired Q R (fun s ↦ (a, s)) (fun t ↦ (a, t)) :=
  ⟨.refl, .refl, fun _ _ h ↦ Or.inl ⟨rfl, h⟩⟩

theorem bind {f g : State → α × State} {k l : α → State → β × State} (h : Paired Q R f g)
    (hk : ∀ a, Paired Q R (k a) (l a)) :
    Paired Q R (fun s ↦ k (f s).1 (f s).2) (fun t ↦ l (g t).1 (g t).2) where
  left s := (h.left s).trans ((hk _).left _)
  right t := (h.right t).trans ((hk _).right _)
  meets s t hst := by
    rcases h.meets s t hst with ⟨hres, hR⟩ | hparted
    · dsimp only
      rw [hres]
      exact (hk _).meets _ _ hR
    · exact Or.inr (hparted.later ((hk _).left _) ((hk _).right _))

theorem map {f g : State → α × State} (h : Paired Q R f g) (p : α → β) :
    Paired Q R (fun s ↦ (p (f s).1, (f s).2)) (fun t ↦ (p (g t).1, (g t).2)) :=
  h.bind fun a ↦ pure (p a)

theorem ite {c d : State → Bool} {f f' g g' : State → α × State}
    (hc : ∀ s t, R s t → c s = d t) (h : Paired Q R f g) (h' : Paired Q R f' g') :
    Paired Q R (fun s ↦ if c s then f s else f' s) (fun t ↦ if d t then g t else g' t) where
  left s := by
    split
    · exact h.left s
    · exact h'.left s
  right t := by
    split
    · exact h.right t
    · exact h'.right t
  meets s t hst := by
    dsimp only
    rw [hc s t hst]
    split
    · exact h.meets s t hst
    · exact h'.meets s t hst

theorem read {p q : State → α} (h : ∀ s t, R s t → p s = q t) :
    Paired Q R (fun s ↦ (p s, s)) (fun t ↦ (q t, t)) :=
  ⟨.refl, .refl, fun s t hst ↦ Or.inl ⟨h s t hst, hst⟩⟩

theorem change {f g : State → State} (hf : ∀ s : State, s.Precedes (f s))
    (hg : ∀ t : State, t.Precedes (g t)) (h : ∀ s t, R s t → R (f s) (g t)) :
    Paired Q R (fun s ↦ ((), f s)) (fun t ↦ ((), g t)) :=
  ⟨hf, hg, fun s t hst ↦ Or.inl ⟨rfl, h s t hst⟩⟩

end Paired

end

variable {ι : Type} {Q : State → State → Prop} {R : ι → State → State → Prop}

/-- Between `enter` and `leave` states are related by a relation of the same family. -/
def Encloses (R : ι → State → State → Prop) (enter leave : State → State) : Prop :=
  ∀ i s t, R i s t → ∃ j, R j (enter s) (enter t) ∧
    ∀ s' t', R j s' t' → R i (leave s') (leave t')

theorem Encloses.paired {α : Type} {enter leave : State → State} (h : Encloses R enter leave)
    (henter : ∀ s : State, s.Precedes (enter s)) (hleave : ∀ s : State, s.Precedes (leave s))
    {f g : State → α × State} (hfg : ∀ i, Paired Q (R i) f g) (i : ι) :
    Paired Q (R i) (fun s ↦ ((f (enter s)).1, leave (f (enter s)).2))
      (fun t ↦ ((g (enter t)).1, leave (g (enter t)).2)) where
  left s := (henter s).trans (((hfg i).left _).trans (hleave _))
  right t := (henter t).trans (((hfg i).right _).trans (hleave _))
  meets s t hst := by
    obtain ⟨j, hentered, hleft⟩ := h i s t hst
    rcases (hfg j).meets _ _ hentered with ⟨hres, hR⟩ | hparted
    · exact Or.inl ⟨hres, hleft _ _ hR⟩
    · exact Or.inr (hparted.later (hleave _) (hleave _))

def onCall {α : Type} (f : Activation → α × Activation) (args : Arguments) (s : State) :
    (α × Arguments) × State :=
  (((f ⟨args, s⟩).1, (f ⟨args, s⟩).2.args), (f ⟨args, s⟩).2.state)

/-- The relations pair all that evaluation does to its state. Calls, functions and interceptions
may use another relation of the family for what is inside of them. -/
structure Pairing (svc svc' : Services) (Q : State → State → Prop) (R : ι → State → State → Prop) :
    Prop where
  plugins : svc.plugins = svc'.plugins
  origin : svc.origin = svc'.origin
  depth : ∀ i, Meets Q (R i) (Services.refuse (α := Option String) svc.limits.depthExceeded)
    (Services.refuse svc'.limits.depthExceeded)
  running : ∀ i s t, R i s t → s.isRunning = t.isRunning
  function : ∀ i s t, R i s t → ∀ name, Services.function? name s = Services.function? name t
  tick : ∀ i, Meets Q (R i) svc.tick svc'.tick
  charge : ∀ i, Meets Q (R i) (svc.charge .calls) (svc'.charge .calls)
  fail : ∀ i name span e, Meets Q (R i) (fail svc name span e) (fail svc' name span e)
  started : ∀ i s t (frame : CallFrame), R i s t →
    R i (s.note (.started frame.name frame.span s.calls.length))
      (t.note (.started frame.name frame.span t.calls.length))
  iterated : ∀ i s t, R i s t → R i (s.note .iterated) (t.note .iterated)
  call : ∀ frame, Encloses R (·.pushCall frame) State.popCall
  activation : ∀ name params, Encloses R (State.enter name params) State.exit
  interception : ∀ i s t, R i s t → ∃ j, R j s.pushCatch t.pushCatch ∧
    ∀ s' t', R j s' t' → s'.caught.isEmpty = t'.caught.isEmpty ∧ R i s'.popCatch t'.popCatch
  define : ∀ i s t name body, R i s t →
    R i (Services.define name body s) (Services.define name body t)
  answer : ∀ i (q : Query), q.isPlain = true → Meets Q (R i) (q.effect svc) (q.effect svc')

namespace Pairing

/-- Under this relation no runs are paired, but each of them still leads to later states. -/
theorem vacuous (svc : Services) : Pairing svc svc Q fun (_ : Unit) _ _ ↦ False where
  plugins := rfl
  origin := rfl
  depth _ _ _ h := h.elim
  running _ _ _ h := h.elim
  function _ _ _ h := h.elim
  tick _ _ _ h := h.elim
  charge _ _ _ h := h.elim
  fail _ _ _ _ _ _ h := h.elim
  started _ _ _ _ h := h.elim
  iterated _ _ _ h := h.elim
  call _ _ _ _ h := h.elim
  activation _ _ _ _ _ h := h.elim
  interception _ _ _ h := h.elim
  define _ _ _ _ _ h := h.elim
  answer _ _ _ _ _ h := h.elim

variable {svc svc' : Services} (C : Pairing svc svc' Q R) {eval eval' : Eval}
  (heval : ∀ i statement, Paired Q (R i) (eval statement) (eval' statement))

section Scripts

include heval

theorem evaluate (a : Argument) (i : ι) : Paired Q (R i) (a.evaluate eval) (a.evaluate eval') := by
  unfold Argument.evaluate
  cases a.source with
  | code statement => exact heval i statement
  | default text => exact .pure text

theorem value (slot index : Nat) (args : Arguments) (i : ι) :
    Paired Q (R i) (onCall (Activation.value eval slot index) args)
      (onCall (Activation.value eval' slot index) args) := by
  unfold onCall Activation.value
  cases hat : args.at? slot index with
  | none =>
    simp only [hat]
    exact .pure ("", args)
  | some a =>
    cases hvalue : a.value? with
    | some text =>
      simp only [hat, hvalue]
      exact .pure (text, args)
    | none =>
      simp only [hat, hvalue]
      exact (evaluate heval a i).map fun text ↦ (text, args.keep slot index text)

include C

theorem again (slot index : Nat) (args : Arguments) (i : ι) :
    Paired Q (R i) (onCall (Activation.again eval slot index) args)
      (onCall (Activation.again eval' slot index) args) := by
  unfold onCall Activation.again
  cases hat : args.at? slot index with
  | none =>
    simp only [hat]
    exact .pure ("", args)
  | some a =>
    simp only [hat]
    have hnoted : Paired Q (R i) (fun s ↦ ((), s.note .iterated)) (fun t ↦ ((), t.note .iterated)) :=
      .change (isLocalChange_note _).precedes (isLocalChange_note _).precedes (C.iterated i)
    exact hnoted.bind fun _ ↦ (evaluate heval a i).map fun text ↦ (text, args)

theorem intercept (a : Argument) (i : ι) :
    Paired Q (R i)
      (fun s ↦ (((a.evaluate eval s.pushCatch).1, (a.evaluate eval s.pushCatch).2.caught.isEmpty),
        (a.evaluate eval s.pushCatch).2.popCatch))
      (fun t ↦ (((a.evaluate eval' t.pushCatch).1, (a.evaluate eval' t.pushCatch).2.caught.isEmpty),
        (a.evaluate eval' t.pushCatch).2.popCatch)) where
  left s := (State.Precedes.pushCatch s).trans (((evaluate heval a i).left _).trans (.popCatch _))
  right t := (State.Precedes.pushCatch t).trans (((evaluate heval a i).right _).trans (.popCatch _))
  meets s t hst := by
    obtain ⟨j, hpush, hpop⟩ := C.interception i s t hst
    rcases (evaluate heval a j).meets _ _ hpush with ⟨htext, hR⟩ | hparted
    · obtain ⟨hcaught, hR⟩ := hpop _ _ hR
      exact Or.inl ⟨Prod.ext htext hcaught, hR⟩
    · exact Or.inr (hparted.later (.popCatch _) (.popCatch _))

theorem attempt (slot : Nat) (args : Arguments) (i : ι) :
    Paired Q (R i) (onCall (Query.answer svc eval (.attempt slot)) args)
      (onCall (Query.answer svc' eval' (.attempt slot)) args) := by
  cases hat : args.at? slot 0 with
  | none =>
    unfold onCall
    simp only [Query.answer, Activation.attempt, hat]
    exact .pure (some "", args)
  | some a =>
    cases hvalue : a.value? with
    | some text =>
      unfold onCall
      simp only [Query.answer, Activation.attempt, hat, hvalue]
      exact .pure (some text, args)
    | none =>
      have h := (C.intercept heval a i).map fun r ↦
        if r.2 then (some r.1, args.keep slot 0 r.1) else (none, args)
      have honCall (svc : Services) (eval : Eval) (s : State) :
          onCall (Query.answer svc eval (.attempt slot)) args s =
            ((if (a.evaluate eval s.pushCatch).2.caught.isEmpty then
              (some (a.evaluate eval s.pushCatch).1,
                args.keep slot 0 (a.evaluate eval s.pushCatch).1)
              else (none, args)), (a.evaluate eval s.pushCatch).2.popCatch) := by
        unfold onCall
        rw [Query.answer_attempt svc eval slot hat hvalue]
        split <;> rfl
      rw [funext (honCall svc eval), funext (honCall svc' eval')]
      exact h

theorem activate (name : String) (params : List String) (args : Arguments) (i : ι) :
    Paired Q (R i) (onCall (Query.answer svc eval (.activate name params)) args)
      (onCall (Query.answer svc' eval' (.activate name params)) args) := by
  have hfound : Paired Q (R i) (fun s ↦ (Services.function? name s, s))
    (fun t ↦ (Services.function? name t, t)) := .read fun s t hst ↦ C.function i s t hst name
  have hbody (body : Statement) := (C.activation name params).paired
    (isLocalChange_enter name params).precedes isLocalChange_exit.precedes
    (fun j ↦ heval j body) i
  -- The body is that of the function that is found, if there is one.
  let run (eval : Eval) (body? : Option Statement) (s : State) : (String × Arguments) × State :=
    match body? with
    | none => (("", args), s)
    | some body => (((eval body (s.enter name params)).1, args), (eval body (s.enter name params)).2.exit)
  have hrun (body? : Option Statement) : Paired Q (R i) (run eval body?) (run eval' body?) := by
    cases body? with
    | none => exact .pure ("", args)
    | some body => exact (hbody body).map fun text ↦ (text, args)
  have honCall (svc : Services) (eval : Eval) (s : State) :
      onCall (Query.answer svc eval (.activate name params)) args s =
        run eval (Services.function? name s) s := by
    simp only [onCall, Query.answer, run]
    cases Services.function? name s <;> rfl
  rw [funext (honCall svc eval), funext (honCall svc' eval')]
  exact hfound.bind hrun

omit heval in
theorem defineSlot (name : String) (slot : Nat) (args : Arguments) (i : ι) :
    Paired Q (R i) (onCall (Query.answer svc eval (.define name slot)) args)
      (onCall (Query.answer svc' eval' (.define name slot)) args) := by
  unfold onCall
  cases hbody : (args.get? slot).bind Argument.statement? with
  | none =>
    simp only [Query.answer, hbody]
    exact .pure ((), args)
  | some body =>
    simp only [Query.answer, hbody]
    have hdefined := Paired.change (Q := Q) (isLocalChange_define name body).precedes
      (isLocalChange_define name body).precedes fun s t ↦ C.define i s t name body
    exact hdefined.map fun _ ↦ ((), args)

omit heval in
theorem plain {q : Query} (hq : q.isPlain = true) (args : Arguments) (i : ι) :
    Paired Q (R i) (onCall (q.answer svc eval) args) (onCall (q.answer svc' eval') args) := by
  have heffect : Paired Q (R i) (q.effect svc) (q.effect svc') :=
    ⟨(isLocal_effect svc hq).precedes, (isLocal_effect svc' hq).precedes, C.answer i q hq⟩
  unfold onCall
  simp only [Query.answer_eq_effect _ _ hq]
  exact heffect.map fun r ↦ (r, args)

theorem query (q : Query) (args : Arguments) (i : ι) :
    Paired Q (R i) (onCall (q.answer svc eval) args) (onCall (q.answer svc' eval') args) := by
  cases q with
  | value slot index => exact value heval slot index args i
  | again slot => exact C.again heval slot 0 args i
  | attempt slot => exact C.attempt heval slot args i
  | activate name params => exact C.activate heval name params args i
  | define name slot => exact C.defineSlot name slot args i
  | raw slot index => exact .pure (((args.at? slot index).map Argument.raw).getD "", args)
  | count slot => exact .pure ((args.all slot).length, args)
  | supplied slot => exact .pure ((args.get? slot).any Argument.isSupplied, args)
  | _ => exact C.plain rfl args i

theorem script {α : Type} (body : Script α) (args : Arguments) (i : ι) :
    Paired Q (R i) (onCall (body.run svc eval) args) (onCall (body.run svc' eval') args) := by
  induction body generalizing args with
  | done a => exact .pure (a, args)
  | ask q next ih => exact (C.query heval q args i).bind fun r ↦ ih r.1 r.2

theorem resolveSlot (args : List Argument) (i : ι) :
    Paired Q (R i) (resolveSlot eval args) (resolveSlot eval' args) := by
  induction args with
  | nil => exact .pure []
  | cons a args ih =>
    have hrunning : ∀ s t, R i s t → (a.isEager && s.isRunning) = (a.isEager && t.isRunning) :=
      fun s t hst ↦ by rw [C.running i s t hst]
    have heager := (evaluate heval a i).bind fun text ↦
      ih.map fun args ↦ { a with value? := some text } :: args
    exact Paired.ite hrunning heager (ih.map fun args ↦ a :: args)

theorem resolveSlots (slots : List (List Argument)) (i : ι) :
    Paired Q (R i) (resolveSlots eval slots) (resolveSlots eval' slots) := by
  induction slots with
  | nil => exact .pure []
  | cons slot slots ih =>
    exact (C.resolveSlot heval slot i).bind fun slot ↦ ih.map fun slots ↦ slot :: slots

theorem handler (name : String) (body : Invocation → Action (Option String)) (args : Arguments)
    (i : ι) :
    Paired Q (R i)
      (fun s ↦ ((Handler.run svc eval name ⟨args, s⟩ (.script body)).1,
        (Handler.run svc eval name ⟨args, s⟩ (.script body)).2.state))
      (fun t ↦ ((Handler.run svc' eval' name ⟨args, t⟩ (.script body)).1,
        (Handler.run svc' eval' name ⟨args, t⟩ (.script body)).2.state)) := by
  have hbody := C.script heval (ExceptT.run (body ⟨name, svc.plugins, svc.origin⟩)) args i
  simp only [Handler.run, ← C.plugins, ← C.origin]
  exact hbody.map Prod.fst

theorem perform (body : Invocation → Action (Option String)) (args : Arguments) (frame : CallFrame)
    (i : ι) :
    Paired Q (R i) (perform svc eval (.script body) args frame)
      (perform svc' eval' (.script body) args frame) := by
  have hinside : ∀ j, Paired Q (R j) (performInside svc eval (.script body) args frame)
      (performInside svc' eval' (.script body) args frame) := by
    intro j
    have hstarted := Paired.change (Q := Q) (isLocalChange_started frame).precedes
      (isLocalChange_started frame).precedes fun s t ↦ C.started j s t frame
    have hhandler slots := C.handler heval frame.name body { args with slots } j
    exact (C.resolveSlots heval args.slots j).bind fun slots ↦
      Paired.ite (C.running j) (hstarted.bind fun _ ↦ hhandler slots) (.pure (.ok none))
  rw [funext (perform_eq svc eval _ args frame), funext (perform_eq svc' eval' _ args frame)]
  exact (C.call frame).paired (isLocalChange_pushCall frame).precedes
    isLocalChange_popCall.precedes hinside i

end Scripts

section Calls

variable {registry : Registry Handler} (hscripts : registry.Scripted)

include hscripts

include C heval in
theorem bound {d : Definition Handler} {name : String} (hd : registry.lookup name = some d)
    (args : List Statement) (span : Span) (i : ι) :
    Paired Q (R i) (invokeCounted ⟨svc, registry⟩ (some eval) d name args span)
      (invokeCounted ⟨svc', registry⟩ (some eval') d name args span) := by
  unfold invokeCounted
  cases hbind : Binding.bind d.signatures args with
  | error e => exact .pure (Except.error e)
  | ok b =>
    obtain ⟨body, hbody⟩ := hscripts name d hd b.1 (Binding.mem_of_bind hbind)
    simp only [hbody]
    exact C.perform heval body b.2 ⟨name, span⟩ i

theorem precedes_bound (svc : Services) (hlater : ∀ statement (t : State), t.Precedes (eval statement t).2)
    {d : Definition Handler} {name : String} (hd : registry.lookup name = some d)
    (args : List Statement) (span : Span) (t : State) :
    t.Precedes (invokeCounted ⟨svc, registry⟩ (some eval) d name args span t).2 := by
  have hself (statement : Statement) :
      Paired (fun _ _ ↦ False) (fun _ _ ↦ False) (eval statement) (eval statement) :=
    ⟨hlater statement, hlater statement, fun _ _ h ↦ h.elim⟩
  exact ((vacuous svc).bound (fun _ ↦ hself) hscripts hd args span ()).left t

end Calls

/-- What evaluates inside of calls, one level deeper. Where a call is too deep for the first run
only, the runs part. -/
inductive Inner (svc : Services) (Q : State → State → Prop) (R : ι → State → State → Prop) :
    Option Eval → Option Eval → Prop
  | none : Inner svc Q R none none
  | some {eval eval' : Eval} :
    (∀ i statement, Paired Q (R i) (eval statement) (eval' statement)) →
    Inner svc Q R (some eval) (some eval')
  | shallow {eval' : Eval} : (∀ statement (t : State), t.Precedes (eval' statement t).2) →
    (∀ i s t, R i s t → Q (s.note (.refused svc.limits.depthExceeded)) t) →
    Inner svc Q R none (some eval')

include C in
theorem conclude (name : String) (span : Span) (outcome : Outcome) (i : ι) :
    Paired Q (R i) (conclude svc name span outcome) (conclude svc' name span outcome) := by
  cases outcome with
  | error e => exact ⟨.fail svc name span e, .fail svc' name span e, C.fail i name span e⟩
  | ok text => exact .pure (text.getD "")

section Answers

variable {registry : Registry Handler} (hscripts : registry.Scripted) {inner inner' : Option Eval}
  (hinner : Inner svc Q R inner inner')

include C hscripts hinner

theorem counted {d : Definition Handler} {name : String} (hd : registry.lookup name = some d)
    (args : List Statement) (span : Span) (i : ι) :
    Paired Q (R i) (invokeCounted ⟨svc, registry⟩ inner d name args span)
      (invokeCounted ⟨svc', registry⟩ inner' d name args span) := by
  have hrefuse (e : Error) (s : State) : s.Precedes (Services.refuse (α := Option String) e s).2 :=
    (isLocal_refuse e).precedes s
  cases hinner with
  | none => exact ⟨hrefuse _, hrefuse _, C.depth i⟩
  | some heval => exact C.bound heval hscripts hd args span i
  | shallow hlater hparts =>
    have hright := precedes_bound hscripts svc' hlater hd args span
    exact ⟨hrefuse _, hright, fun s t hst ↦
      Or.inr ((Parted.of (hparts i s t hst)).later (.refl _) (hright t))⟩

theorem invoke (name : String) (args : List Statement) (span : Span) (i : ι) :
    Paired Q (R i) (invoke ⟨svc, registry⟩ inner name args span)
      (invoke ⟨svc', registry⟩ inner' name args span) := by
  cases hd : registry.lookup name with
  | none =>
    unfold BraceScript.invoke
    simp only [hd]
    exact .pure (Except.error (Error.unknownSubtag name))
  | some d =>
    have hcharge : Paired Q (R i) (svc.charge .calls) (svc'.charge .calls) :=
      ⟨(isLocal_charge svc .calls).precedes, (isLocal_charge svc' .calls).precedes, C.charge i⟩
    have hanswered (answer : Except Error Unit) :
        Paired Q (R i) (invokeAnswered ⟨svc, registry⟩ inner d name args span answer)
          (invokeAnswered ⟨svc', registry⟩ inner' d name args span answer) := by
      cases answer with
      | error e => exact .pure (Except.error e)
      | ok => exact C.counted hscripts hinner hd args span i
    rw [funext (invoke_eq ⟨svc, registry⟩ hd inner args span),
      funext (invoke_eq ⟨svc', registry⟩ hd inner' args span)]
    exact hcharge.bind hanswered

theorem respond (name : String) (args : List Statement) (span : Span) (i : ι) :
    Paired Q (R i) (respond ⟨svc, registry⟩ inner name args span)
      (respond ⟨svc', registry⟩ inner' name args span) := by
  rw [funext (respond_eq ⟨svc, registry⟩ inner name args span),
    funext (respond_eq ⟨svc', registry⟩ inner' name args span)]
  exact (C.invoke hscripts hinner name args span i).bind fun outcome ↦ C.conclude name span outcome i

end Answers

mutual

theorem evalStatement (C : Pairing svc svc' Q R) {answer answer' : Responder}
    (hanswer : ∀ i name args span, Paired Q (R i) (answer name args span) (answer' name args span))
    (i : ι) (statement : Statement) :
    Paired Q (R i) (evalStatement svc answer statement) (evalStatement svc' answer' statement) :=
  match statement with
  | .mk parts _ => evalParts C hanswer i parts

theorem evalParts (C : Pairing svc svc' Q R) {answer answer' : Responder}
    (hanswer : ∀ i name args span, Paired Q (R i) (answer name args span) (answer' name args span))
    (i : ι) (parts : List Part) :
    Paired Q (R i) (evalParts svc answer parts) (evalParts svc' answer' parts) :=
  match parts with
  | [] => .pure ""
  | part :: parts => by
    have hparts := evalParts C hanswer i parts
    have hboth := (evalPart C hanswer i part).bind fun text ↦ hparts.map fun rest ↦ text ++ rest
    exact Paired.ite (C.running i) hboth (.pure "")

theorem evalPart (C : Pairing svc svc' Q R) {answer answer' : Responder}
    (hanswer : ∀ i name args span, Paired Q (R i) (answer name args span) (answer' name args span))
    (i : ι) (part : Part) :
    Paired Q (R i) (evalPart svc answer part) (evalPart svc' answer' part) :=
  match part with
  | .literal text _ => .pure text
  | .call name args span => by
    have htick : Paired Q (R i) svc.tick svc'.tick := ⟨.tick svc, .tick svc', C.tick i⟩
    have hnamed := (evalStatement C hanswer i name).bind fun name ↦
      Paired.ite (C.running i) (hanswer i (normalize name) args span) (.pure "")
    have hticked (going : Bool) : Paired Q (R i) (evalTicked svc answer name args span going)
        (evalTicked svc' answer' name args span going) := by
      cases going with
      | false => exact .pure ""
      | true => exact hnamed
    rw [funext (evalPart_call svc answer name args span),
      funext (evalPart_call svc' answer' name args span)]
    exact htick.bind hticked

end

include C in
/-- Evaluation is paired, by induction on the number of calls that may be nested in the second run.
The first run may allow fewer if a call that is too deep for it parts the two. -/
theorem evalAt {registry : Registry Handler} (hscripts : registry.Scripted) {depth depth' : Nat}
    (hle : depth ≤ depth') (hparts : depth < depth' → ∀ i s t, R i s t →
      Q (s.note (.refused svc.limits.depthExceeded)) t) (i : ι) (statement : Statement) :
    Paired Q (R i) (evalAt ⟨svc, registry⟩ depth statement)
      (evalAt ⟨svc', registry⟩ depth' statement) := by
  have hstatement {inner inner' : Option Eval} (hinner : Inner svc Q R inner inner') (i : ι)
      (statement : Statement) := C.evalStatement
    (fun i name args span ↦ C.respond hscripts hinner name args span i) i statement
  induction depth' generalizing depth i statement with
  | zero =>
    obtain rfl := Nat.le_zero.mp hle
    exact hstatement .none i statement
  | succ depth' ih =>
    cases depth with
    | zero =>
      have hshallow := hparts (Nat.succ_pos depth')
      have hlater (statement : Statement) (t : State) :=
        (ih (Nat.zero_le depth') (fun _ ↦ hshallow) i statement).right t
      exact hstatement (.shallow hlater hshallow) i statement
    | succ depth =>
      have hinside (i : ι) (statement : Statement) :=
        ih (Nat.le_of_succ_le_succ hle) (fun hlt ↦ hparts (Nat.succ_lt_succ hlt)) i statement
      exact hstatement (.some hinside) i statement

end Pairing

end BraceScript
