import BraceScript.Proofs.Run.Handlers
import BraceScript.Proofs.Run.Standard

namespace BraceScript

section Arguments

variable {eval : Eval} {svc : Services} {n : Nat}

theorem resolveSlot_course (heval : Follows svc n eval) (args : List Argument) (s : State)
    (hs : s.calls.length = n) : Course svc s none (resolveSlot eval args s).2 := by
  induction args generalizing s with
  | nil => exact Course.refl s
  | cons a args ih =>
    unfold resolveSlot
    split
    · have hfirst := Leads.evaluate heval a hs
      have hcalls : (a.evaluate eval s).2.calls.length = n := by rw [hfirst.keeps.calls, hs]
      exact hfirst.trans (ih _ hcalls)
    · exact ih s hs

theorem resolveSlots_course (heval : Follows svc n eval) (slots : List (List Argument)) (s : State)
    (hs : s.calls.length = n) : Course svc s none (resolveSlots eval slots s).2 := by
  induction slots generalizing s with
  | nil => exact Course.refl s
  | cons slot slots ih =>
    have hfirst := resolveSlot_course heval slot s hs
    have hcalls : (resolveSlot eval slot s).2.calls.length = n := by rw [hfirst.keeps.calls, hs]
    exact hfirst.trans (ih _ hcalls)

theorem resolveSlot_stopped (args : List Argument) {s : State} (hs : s.isRunning = false) :
    resolveSlot eval args s = (args, s) := by
  induction args with
  | nil => rfl
  | cons a args ih => simp [resolveSlot, hs, ih]

theorem resolveSlots_stopped (slots : List (List Argument)) {s : State}
    (hs : s.isRunning = false) : resolveSlots eval slots s = (slots, s) := by
  induction slots with
  | nil => rfl
  | cons slot slots ih => simp [resolveSlots, resolveSlot_stopped slot hs, ih]

structure Argument.Resolves (a b : Argument) : Prop where
  source : b.source = a.source
  value : a.isEager = true → b.value?.isSome = true

/-- If the run is still running afterwards, every eager argument has been given its value. -/
theorem resolveSlot_resolves {args : List Argument} {s : State}
    (hrunning : (resolveSlot eval args s).2.isRunning = true) {b : Argument}
    (hb : b ∈ (resolveSlot eval args s).1) : ∃ a ∈ args, a.Resolves b := by
  induction args generalizing s with
  | nil => cases hb
  | cons a args ih =>
    have hs : s.isRunning = true := by
      by_contra hs
      rw [Bool.not_eq_true] at hs
      rw [resolveSlot_stopped _ hs] at hrunning
      simp [hs] at hrunning
    cases ha : a.isEager with
    | true =>
      simp only [resolveSlot, ha, hs, Bool.and_self, if_true] at hrunning hb
      rcases List.mem_cons.mp hb with rfl | hb
      · exact ⟨a, List.mem_cons_self, rfl, fun _ ↦ rfl⟩
      · obtain ⟨c, hc, hcb⟩ := ih hrunning hb
        exact ⟨c, List.mem_cons_of_mem a hc, hcb⟩
    | false =>
      simp only [resolveSlot, ha, Bool.false_and, Bool.false_eq_true, if_false] at hrunning hb
      rcases List.mem_cons.mp hb with rfl | hb
      · exact ⟨b, List.mem_cons_self, rfl, fun h ↦ by simp [ha] at h⟩
      · obtain ⟨c, hc, hcb⟩ := ih hrunning hb
        exact ⟨c, List.mem_cons_of_mem a hc, hcb⟩

theorem resolveSlots_resolves {slots : List (List Argument)} {s : State}
    (hrunning : (resolveSlots eval slots s).2.isRunning = true) {i : Nat} {b : Argument}
    (hb : b ∈ (resolveSlots eval slots s).1.getD i []) : ∃ a ∈ slots.getD i [], a.Resolves b := by
  induction slots generalizing s i with
  | nil => simp [resolveSlots] at hb
  | cons slot slots ih =>
    have hslot : (resolveSlot eval slot s).2.isRunning = true := by
      by_contra h
      rw [Bool.not_eq_true] at h
      simp [resolveSlots, resolveSlots_stopped slots h, h] at hrunning
    cases i with
    | zero => exact resolveSlot_resolves hslot hb
    | succ i => exact ih hrunning hb

theorem Binding.parameter_of_assign {parameters : List Parameter} {surplus : Nat}
    {supplied : List Statement} {i : Nat} {a : Argument}
    (ha : a ∈ (Binding.assign parameters surplus supplied).getD i []) :
    parameters[i]? = some a.parameter := by
  induction parameters generalizing surplus supplied i with
  | nil => simp [Binding.assign] at ha
  | cons p parameters ih =>
    have hsupplied : ∀ list : List Statement, a ∈ list.map (Argument.supplied p) →
        a.parameter = p := by
      intro list h
      obtain ⟨statement, -, rfl⟩ := List.mem_map.mp h
      rfl
    unfold Binding.assign at ha
    cases i with
    | zero =>
      rw [List.getElem?_cons_zero, Option.some_inj, eq_comm]
      split at ha
      · exact hsupplied _ ha
      · split at ha
        · exact hsupplied _ ha
        · rw [List.mem_singleton.mp ha]
          rfl
      · exact hsupplied _ ha
    | succ i =>
      rw [List.getElem?_cons_succ]
      split at ha
      · exact ih ha
      · split at ha
        · exact ih ha
        · exact ih ha
      · exact ih ha

/-- Once the eager arguments of a bound call have been evaluated, its eager parameters are
settled. -/
theorem Binding.settled {η : Type} {signatures : List (Signature η)} {args : List Statement}
    {signature : Signature η} {bound : Arguments}
    (hbind : Binding.bind signatures args = .ok (signature, bound)) {s : State}
    (hrunning : (resolveSlots eval bound.slots s).2.isRunning = true) {i : Nat} {p : Parameter}
    (hp : signature.parameters[i]? = some p) (hmode : p.mode = .eager) :
    Arguments.Settled { bound with slots := (resolveSlots eval bound.slots s).1 } i := by
  intro b hb hsupplied
  obtain ⟨a, ha, hab⟩ := resolveSlots_resolves hrunning hb
  have hparameter : a.parameter = p := by
    unfold Binding.bind at hbind
    split at hbind
    · cases hbind
    · cases hbind
      have h := Binding.parameter_of_assign ha
      rw [hp] at h
      exact (Option.some_inj.mp h).symm
  have heager : a.isEager = true := by
    have hsame : b.isSupplied = a.isSupplied := by
      rw [Argument.isSupplied, Argument.isSupplied, Argument.statement?, Argument.statement?,
        hab.source]
    rw [Argument.isEager, hparameter, hmode, ← hsame, hsupplied]
    rfl
  exact hab.value heager

end Arguments

def Signature.eager {η : Type} (s : Signature η) (i : Nat) : Bool :=
  s.parameters[i]?.any (·.mode == .eager)

section Standard

theorem Parameter.mode_of_ofPattern {pattern : String} {p : Parameter}
    (h : Parameter.ofPattern pattern = .ok p) :
    p.mode = (Parameter.readMode pattern.toList).1 := by
  unfold Parameter.ofPattern at h
  split at h
  · cases h
  · rename_i mode name mark default hsplit
    have hmode : mode = (Parameter.readMode pattern.toList).1 := by
      unfold Parameter.split? at hsplit
      dsimp only at hsplit
      split at hsplit
      · cases hsplit
      · split at hsplit
        · obtain ⟨d, -, hd⟩ := Option.map_eq_some_iff.mp hsplit
          cases hd
          rfl
        · cases hsplit
    split at h
    · cases h
    · cases h
      exact hmode

theorem getElem?_of_mapM {ε α β : Type} {f : α → Except ε β} {xs : List α} {ys : List β}
    (h : xs.mapM f = .ok ys) {i : Nat} {x : α} (hx : xs[i]? = some x) :
    ∃ y, ys[i]? = some y ∧ f x = .ok y := by
  induction xs generalizing ys i with
  | nil => simp at hx
  | cons x' xs ih =>
    rw [List.mapM_cons] at h
    obtain ⟨z, hz, h⟩ := exists_of_bind_eq_ok h
    obtain ⟨zs, hzs, h⟩ := exists_of_bind_eq_ok h
    cases h
    cases i with
    | zero =>
      cases hx
      exact ⟨z, rfl, hz⟩
    | succ i => exact ih hzs hx

theorem Signature.eager_of_compile {η : Type} {patterns : List String} {description : String}
    {handler : η} {s : Signature η} (h : Signature.compile patterns description handler = .ok s)
    {i : Nat} (hi : eagerSlots patterns i = true) : s.eager i = true := by
  unfold eagerSlots at hi
  cases hpattern : patterns[i]? with
  | none => simp [hpattern] at hi
  | some pattern =>
    rw [hpattern, Option.any_some, beq_iff_eq] at hi
    obtain ⟨p, hp, hof⟩ := getElem?_of_mapM (Signature.compile_eq_ok_iff.mp h).1 hpattern
    have hmode : p.mode = .eager := (Parameter.mode_of_ofPattern hof).trans hi
    simp [Signature.eager, hp, hmode]

theorem Handler.Orderly.mono {svc : Services} {eval : Eval} {n : Nat} {eager eager' : Nat → Bool}
    {handler : Handler} (h : handler.Orderly svc eval n eager)
    (hsub : ∀ i, eager i = true → eager' i = true) : handler.Orderly svc eval n eager' := by
  cases handler with
  | script body =>
    exact fun c ↦ (h c).mono (fun t ht ↦ ⟨ht.1, fun i hi ↦ ht.2 i (hsub i hi)⟩) fun _ _ _ ↦ trivial
  | host body => exact h

theorem Engine.Standard.orderly {e : Engine} (he : e.Standard) {name : String}
    {d : Definition Handler} (hd : e.registry.lookup name = some d) {s : Signature Handler}
    (hs : s ∈ d.signatures) {svc : Services} {n : Nat} {eval : Eval} (heval : Follows svc n eval) :
    s.handler.Orderly svc eval n s.eager := by
  obtain ⟨declaration, hmem, hdeclaration⟩ := he.declared hd
  obtain ⟨declared, hdeclared, hcompile⟩ := Definition.compiled_of_declaration hdeclaration hs
  have horderly := Subtags.standardDeclarations_orderly heval declaration hmem declared hdeclared
  rw [Signature.handler_of_compile hcompile]
  exact horderly.mono fun i ↦ Signature.eager_of_compile hcompile

end Standard

section Calls

variable {svc : Services} {n : Nat}

/-- Evaluation inside a call that is made with `n` calls in progress. It is missing where no call
may be nested any more. -/
def FollowsInside (svc : Services) (n : Nat) : Option Eval → Prop
  | none => svc.limits.maxDepth ≤ n
  | some eval => n < svc.limits.maxDepth ∧ Follows svc (n + 1) eval

theorem perform_course {eval : Eval} (heval : Follows svc (n + 1) eval)
    {signatures : List (Signature Handler)} {args : List Statement}
    {signature : Signature Handler} {bound : Arguments}
    (hbind : Binding.bind signatures args = .ok (signature, bound))
    (horderly : signature.handler.Orderly svc eval (n + 1) signature.eager) (frame : CallFrame)
    {s : State} (hrunning : s.isRunning = true) (hmay : s.MayCall svc.limits)
    (hs : s.calls.length = n) :
    Course svc s (failure (perform svc eval signature.handler bound frame (s.charged .calls)).1)
      (perform svc eval signature.handler bound frame (s.charged .calls)).2 := by
  have hcalled : (s.called frame).calls.length = n + 1 := congrArg (· + 1) hs
  have hresolved := resolveSlots_course heval bound.slots _ hcalled
  unfold perform
  dsimp only
  split
  · rename_i hstart
    cases hhandler : signature.handler with
    | host body => simp [hhandler, Handler.Orderly] at horderly
    | script body =>
      rw [hhandler] at horderly
      have hlength : (resolveSlots eval bound.slots (s.called frame)).2.calls.length = n + 1 := by
        rw [hresolved.keeps.calls, hcalled]
      have hsettled : ∀ i, signature.eager i = true → Arguments.Settled
          { bound with slots := (resolveSlots eval bound.slots (s.called frame)).1 } i := by
        intro i hi
        unfold Signature.eager at hi
        cases hp : signature.parameters[i]? with
        | none => simp [hp] at hi
        | some p =>
          rw [hp, Option.any_some, beq_iff_eq] at hi
          exact Binding.settled hbind hstart hp hi
      refine Course.call frame hrunning hmay hresolved hstart ?_
      exact (horderly ⟨frame.name, svc.plugins, svc.origin⟩ ⟨_, State.started _ frame⟩ hlength
        ⟨hstart, hsettled⟩).1
  · exact Course.unstarted frame hrunning hmay hresolved

theorem invokeCounted_course {env : Env} {inner : Option Eval}
    (hinner : FollowsInside env.services n inner) {d : Definition Handler}
    (horderly : ∀ signature ∈ d.signatures, ∀ eval, Follows env.services (n + 1) eval →
      signature.handler.Orderly env.services eval (n + 1) signature.eager)
    (name : String) (args : List Statement) (span : Span) {s : State} (hrunning : s.isRunning = true)
    (hbelow : s.usage.used .calls < env.services.limits.ceiling .calls) (hs : s.calls.length = n) :
    Course env.services s
      (failure (invokeCounted env inner d name args span (s.charged .calls)).1)
      (invokeCounted env inner d name args span (s.charged .calls)).2 := by
  have hcharged : Course env.services s none (s.charged .calls) :=
    Course.act hrunning (.charge .calls hbelow (by decide))
  cases inner with
  | none => exact hcharged.trans (Course.refuse hrunning (.of_calls (hs ▸ hinner)))
  | some eval =>
    obtain ⟨hn, heval⟩ := hinner
    unfold invokeCounted
    cases hbind : Binding.bind d.signatures args with
    | error e => exact hcharged.trans (Course.throw e hrunning)
    | ok bound =>
      obtain ⟨signature, bound⟩ := bound
      have hmem : signature ∈ d.signatures := Binding.mem_of_bind hbind
      exact perform_course heval hbind (horderly signature hmem eval heval) ⟨name, span⟩ hrunning
        ⟨hbelow, hs ▸ hn⟩ hs

variable {e : Engine} {r : Request} {inner : Option Eval}

theorem invoke_course (he : e.Standard) (hinner : FollowsInside (e.env r).services n inner)
    (name : String) (args : List Statement) (span : Span) {s : State} (hrunning : s.isRunning = true)
    (hs : s.calls.length = n) :
    Course (e.env r).services s (failure (invoke (e.env r) inner name args span s).1)
      (invoke (e.env r) inner name args span s).2 := by
  unfold invoke
  cases hd : (e.env r).registry.lookup name with
  | none => exact Course.throw _ hrunning
  | some d =>
    dsimp only
    rw [Services.charge_eq]
    by_cases hceiling : (e.env r).services.limits.ceiling .calls ≤ s.usage.used .calls
    · rw [if_pos hceiling]
      exact Course.refuse hrunning (.of_used hceiling)
    · rw [if_neg hceiling]
      have horderly : ∀ signature ∈ d.signatures, ∀ eval, Follows (e.env r).services (n + 1) eval →
          signature.handler.Orderly (e.env r).services eval (n + 1) signature.eager :=
        fun _ hsignature _ heval ↦ he.orderly hd hsignature heval
      exact invokeCounted_course hinner horderly name args span hrunning
        (Nat.lt_of_not_le hceiling) hs

theorem respond_course (he : e.Standard) (hinner : FollowsInside (e.env r).services n inner)
    (name : String) (args : List Statement) (span : Span) {s : State} (hrunning : s.isRunning = true)
    (hs : s.calls.length = n) :
    Course (e.env r).services s none (respond (e.env r) inner name args span s).2 := by
  have hinvoke := invoke_course he hinner name args span hrunning hs
  unfold respond
  split
  · rename_i text t hok
    rw [hok] at hinvoke
    exact hinvoke
  · rename_i error t herror
    rw [herror] at hinvoke
    exact Course.fail name span hinvoke

end Calls

section Statements

variable {svc : Services} {n : Nat} {answer : Responder}

def Answers (svc : Services) (n : Nat) (answer : Responder) : Prop :=
  ∀ name args span s, s.isRunning = true → s.calls.length = n →
    Course svc s none (answer name args span s).2

mutual

theorem evalStatement_course (h : Answers svc n answer) :
    ∀ (statement : Statement) (s : State), s.calls.length = n →
      Course svc s none (evalStatement svc answer statement s).2
  | .mk parts _, s, hs => by
    unfold evalStatement
    exact evalParts_course h parts s hs

theorem evalParts_course (h : Answers svc n answer) :
    ∀ (parts : List Part) (s : State), s.calls.length = n →
      Course svc s none (evalParts svc answer parts s).2
  | [], s, _ => by
    unfold evalParts
    exact Course.refl s
  | part :: parts, s, hs => by
    unfold evalParts
    split
    · rename_i hrunning
      have hpart := evalPart_course h part s hrunning hs
      have hcalls : (evalPart svc answer part s).2.calls.length = n := by rw [hpart.keeps.calls, hs]
      exact hpart.trans (evalParts_course h parts _ hcalls)
    · exact Course.refl s

theorem evalPart_course (h : Answers svc n answer) :
    ∀ (part : Part) (s : State), s.isRunning = true → s.calls.length = n →
      Course svc s none (evalPart svc answer part s).2
  | .literal _ _, s, _, _ => by
    unfold evalPart
    exact Course.refl s
  | .call name args span, s, hrunning, hs => by
    have htick : Course svc s none (svc.tick s).2 := Course.act hrunning .tick
    unfold evalPart
    split
    · rename_i t ht
      rw [ht] at htick
      exact htick
    · rename_i t ht
      rw [ht] at htick
      have hticked : t.calls.length = n := by rw [htick.keeps.calls, hs]
      have hname := htick.trans (evalStatement_course h name t hticked)
      have hnamed : (evalStatement svc answer name t).2.calls.length = n := by
        rw [hname.keeps.calls, hs]
      dsimp only
      split
      · rename_i hrunning'
        exact hname.trans (h _ args span _ hrunning' hnamed)
      · exact hname

end

end Statements

namespace Engine.Standard

variable {e : Engine} {r : Request}

theorem evalAt_course (he : e.Standard) (depth : Nat) :
    ∀ n, depth = (e.env r).services.limits.maxDepth - n →
      Follows (e.env r).services n (evalAt (e.env r) depth) := by
  induction depth with
  | zero =>
    intro n hn statement s hs
    have hinner : FollowsInside (e.env r).services n none := Nat.sub_eq_zero_iff_le.mp hn.symm
    have hanswers : Answers (e.env r).services n (respond (e.env r) none) :=
      fun name args span s ↦ respond_course he hinner name args span
    exact evalStatement_course hanswers statement s hs
  | succ depth ih =>
    intro n hn statement s hs
    have hinner : FollowsInside (e.env r).services n (some (evalAt (e.env r) depth)) :=
      ⟨by omega, ih (n + 1) (by omega)⟩
    have hanswers : Answers (e.env r).services n
        (respond (e.env r) (some (evalAt (e.env r) depth))) :=
      fun name args span s ↦ respond_course he hinner name args span
    exact evalStatement_course hanswers statement s hs

theorem course (he : e.Standard) (r : Request) (statement : Statement) (s : State) :
    Course (e.env r).services s none ((e.env r).eval statement s).2 :=
  he.evalAt_course _ s.calls.length rfl statement s rfl

end Engine.Standard

/-- Evaluation leaves the stacks as they were, and a function its caller's frame. -/
theorem Engine.eval_keeps_stacks {e : Engine} (he : e.Standard) (r : Request)
    (statement : Statement) (s : State) :
    s.Keeps ((e.env r).eval statement s).2 ∧
    ∀ name body params, (Services.activate (e.env r).eval name body params s).2.frame = s.frame ∧
      (Services.activate (e.env r).eval name body params s).2.outer = s.outer := by
  refine ⟨(he.course r statement s).keeps, fun name body params ↦ ?_⟩
  -- The frame of the caller is the first one below that of the function.
  have houter := (he.course r body (s.enter name params)).keeps.outer
  rw [activate_eq, State.exit_eq houter]
  exact ⟨rfl, rfl⟩

/-- A function that sets a temporary, its quietness and its fallback, and then returns. -/
theorem Engine.eval_keeps_stacks_settings :
    let body := parse "\x7bset;~x;1\x7d\x7bquiet\x7d\x7bfallback;none\x7d\x7breturn\x7d"
    let s : State := { frame := { quiet? := some false, fallback? := some "?" }, catches := [[]] }
    ∃ e : Engine, e.Standard ∧ s.Keeps ((e.env {}).eval body s).2 ∧
      (Services.activate (e.env {}).eval "f" body ["1"] s).2.frame = s.frame := by
  intro body s
  obtain ⟨e, -, he⟩ := exists_standard (b := {}) rfl rfl Scopes.exists_ofProviders_standard
  obtain ⟨hkeeps, hframe⟩ := eval_keeps_stacks he {} body s
  exact ⟨e, he, hkeeps, (hframe "f" body ["1"]).1⟩

end BraceScript
