import BraceScript.Proofs.Run.Anatomy
import BraceScript.Proofs.Source.Printing

namespace BraceScript

section Unplaced

def LocatedError.unplaced (e : LocatedError) : LocatedError := { e with span := .nowhere }

def CallFrame.unplaced (c : CallFrame) : CallFrame := { c with span := .nowhere }

def Event.unplaced : Event → Event
  | called frame => called frame.unplaced
  | started name _ depth => started name .nowhere depth
  | defined function body => defined function body.unplaced
  | recorded e => recorded e.unplaced
  | ev => ev

/-- The state without the places of the code that the run has come across. -/
def State.unplaced (s : State) : State :=
  { s with
    calls := s.calls.map CallFrame.unplaced
    errors := s.errors.map LocatedError.unplaced
    catches := s.catches.map (·.map LocatedError.unplaced)
    functions := s.functions.map fun f ↦ (f.1, f.2.unplaced)
    journal := s.journal.map Event.unplaced }

def ArgumentSource.unplaced : ArgumentSource → ArgumentSource
  | code statement => code statement.unplaced
  | default text => default text

def Argument.unplaced (a : Argument) : Argument := { a with source := a.source.unplaced }

def Arguments.unplaced (args : Arguments) : Arguments :=
  { args with slots := args.slots.map (·.map Argument.unplaced) }

def Activation.unplaced (t : Activation) : Activation := ⟨t.args.unplaced, t.state.unplaced⟩

end Unplaced

section Source

variable {η : Type}

theorem Argument.raw_unplaced (a : Argument) : a.unplaced.raw = a.raw := by
  rcases a with ⟨p, statement | text, v⟩
  · exact statement.print_unplaced
  · rfl

theorem Binding.assign_unplaced (params : List Parameter) (surplus : Nat) (args : List Statement) :
    assign params surplus (args.map Statement.unplaced) =
      (assign params surplus args).map (·.map Argument.unplaced) := by
  induction params generalizing surplus args with
  | nil => rfl
  | cons p params ih =>
    have hsupplied (args : List Statement) :
        (args.map Statement.unplaced).map (Argument.supplied p) =
          (args.map (Argument.supplied p)).map Argument.unplaced := by
      simp [Function.comp_def, Argument.supplied, Argument.unplaced, ArgumentSource.unplaced]
    unfold assign
    split
    · simp only [← List.map_take, ← List.map_drop, ih, hsupplied, List.map_cons]
    · split
      · simp only [← List.map_take, ← List.map_drop, ih, hsupplied, List.map_cons]
      · simp only [ih, List.map_cons]
        rfl
    · simp only [← List.map_take, ← List.map_drop, ih, hsupplied, List.map_cons]

theorem Binding.bind_unplaced (signatures : List (Signature η)) (args : List Statement) :
    bind signatures (args.map Statement.unplaced) =
      (bind signatures args).map fun b ↦ (b.1, b.2.unplaced) := by
  unfold bind
  rw [List.length_map]
  cases signatures.find? (·.accepts args.length) with
  | none => rfl
  | some signature =>
    simp [Except.map, Arguments.unplaced, assign_unplaced]

theorem Arguments.at?_unplaced (args : Arguments) (i j : Nat) :
    args.unplaced.at? i j = (args.at? i j).map Argument.unplaced := by
  simp only [at?, all, unplaced, List.getD_eq_getElem?_getD, List.getElem?_map]
  cases args.slots[i]? <;> simp

theorem Arguments.length_all_unplaced (args : Arguments) (i : Nat) :
    (args.unplaced.all i).length = (args.all i).length := by
  simp only [all, unplaced, List.getD_eq_getElem?_getD, List.getElem?_map]
  cases args.slots[i]? <;> simp

theorem modify_map {α β : Type} {f : α → β} {g : α → α} {g' : β → β} (h : ∀ a, g' (f a) = f (g a))
    (xs : List α) (i : Nat) : (xs.map f).modify i g' = (xs.modify i g).map f := by
  induction xs generalizing i with
  | nil => cases i <;> rfl
  | cons x xs ih =>
    cases i with
    | zero => simp [h]
    | succ i => simp [ih]

theorem Arguments.keep_unplaced (args : Arguments) (i j : Nat) (text : String) :
    args.unplaced.keep i j text = (args.keep i j text).unplaced := by
  have hslot (slot : List Argument) :
      (slot.map Argument.unplaced).modify j (fun a ↦ { a with value? := some text }) =
        (slot.modify j fun a ↦ { a with value? := some text }).map Argument.unplaced := by
    refine modify_map (fun a ↦ ?_) slot j
    rfl
  exact congrArg (Arguments.mk args.parameters) (modify_map hslot args.slots i)

end Source

def Unplaces {α : Type} (f g : State → α × State) : Prop :=
  ∀ s, g s.unplaced = ((f s).1, (f s).2.unplaced)

def UnplacesEval (eval eval' : Eval) : Prop :=
  ∀ statement, Unplaces (eval statement) (eval' statement.unplaced)

def UnplacesAnswer (answer answer' : Responder) : Prop := ∀ name args span,
  Unplaces (answer name args span) (answer' name (args.map Statement.unplaced) .nowhere)

section Services

variable (svc : Services)

theorem unplaces_tick : Unplaces svc.tick svc.tick := by
  intro s
  have hyield : svc.yieldIfDue s.unplaced.stepped = (svc.yieldIfDue s.stepped).unplaced := by
    unfold Services.yieldIfDue
    rw [apply_ite State.unplaced]
    rfl
  have hlook (s : State) : svc.look s.unplaced = ((svc.look s).1, (svc.look s).2.unplaced) := by
    have hsignalled : svc.isSignalled s.unplaced = svc.isSignalled s := rfl
    unfold Services.look
    rw [hsignalled]
    cases svc.isSignalled s <;> rfl
  rw [tick_eq, tick_eq, hyield, hlook]

theorem unplaces_charge (r : Resource) : Unplaces (svc.charge r) (svc.charge r) := by
  intro s
  unfold Services.charge
  dsimp only [State.unplaced]
  cases svc.limits.charge s.usage r <;> rfl

theorem unplaces_request {α : Type} (ask : Directory → Except Error α) :
    Unplaces (svc.request ask) (svc.request ask) := by
  intro s
  unfold Services.request
  cases svc.directory? with
  | none => rfl
  | some directory =>
    dsimp only
    rw [unplaces_charge svc .requests s]
    rcases svc.charge .requests s with ⟨_ | _, t⟩ <;> rfl

theorem unplaces_assign (raw : String) (value : Value) (restoring : Bool) :
    Unplaces (fun s ↦ Services.noteWrite raw restoring s (svc.assign raw value s))
      (fun s ↦ Services.noteWrite raw restoring s (svc.assign raw value s)) := by
  intro s
  unfold Services.assign
  rcases svc.locate raw with e | ⟨_ | scope, name⟩
  · rfl
  · rfl
  · dsimp only [State.unplaced]
    cases s.store.write svc.faults ⟨scope, name⟩ value <;> rfl

theorem unplaces_unset (raw : String) (restoring : Bool) :
    Unplaces (fun s ↦ Services.noteWrite raw restoring s (svc.unset raw s))
      (fun s ↦ Services.noteWrite raw restoring s (svc.unset raw s)) := by
  intro s
  unfold Services.unset
  rcases svc.locate raw with e | ⟨_ | scope, name⟩
  · rfl
  · rfl
  · dsimp only [State.unplaced]
    cases s.store.reset svc.faults scope [name] <;> rfl

theorem get?_unplaced (functions : Table String Statement) (key : String) :
    Table.get? (functions.map fun f ↦ (f.1, f.2.unplaced)) key =
      (functions.get? key).map Statement.unplaced := by
  induction functions with
  | nil => rfl
  | cons f functions ih =>
    rw [List.map_cons, Table.get?, Table.get?, ih]
    split <;> rfl

theorem set_unplaced (functions : Table String Statement) (key : String) (body : Statement) :
    Table.set (functions.map fun f ↦ (f.1, f.2.unplaced)) key body.unplaced =
      (functions.set key body).map fun f ↦ (f.1, f.2.unplaced) := by
  induction functions with
  | nil => rfl
  | cons f functions ih =>
    rw [List.map_cons, Table.set, Table.set, ih]
    split <;> rfl

theorem Services.define_unplaced (name : String) (body : Statement) (s : State) :
    define name body.unplaced s.unplaced = (define name body s).unplaced := by
  have hfunctions := set_unplaced s.functions (Text.lower name) body
  unfold define
  dsimp only [State.unplaced, State.note]
  rw [hfunctions]
  rfl

theorem State.record_unplaced (s : State) (e : LocatedError) :
    s.unplaced.record e.unplaced = (s.record e).unplaced := by
  have hterminal : e.unplaced.error.isTerminal = e.error.isTerminal := rfl
  obtain ⟨phase, frame, outer, calls, usage, errors, _ | ⟨caught, rest⟩⟩ := s
  · rfl
  · cases h : e.error.isTerminal <;>
      simp [record, note, unplaced, Event.unplaced, hterminal, h]

theorem State.popCatch_unplaced (s : State) : s.unplaced.popCatch = s.popCatch.unplaced := by
  simp [popCatch, unplaced]

theorem State.caught_unplaced (s : State) : s.unplaced.caught.isEmpty = s.caught.isEmpty := by
  unfold caught unplaced
  cases s.catches <;> simp

theorem State.popCall_unplaced (s : State) : s.unplaced.popCall = s.popCall.unplaced := by
  simp [popCall, unplaced, note, Event.unplaced]

theorem State.exit_unplaced (s : State) : s.unplaced.exit = s.exit.unplaced := by
  obtain ⟨_ | _ | _, frame, _ | ⟨f, outer⟩⟩ := s <;> rfl

theorem State.stack_unplaced (s : State) : s.unplaced.stack = s.stack := by
  simp [stack, unplaced, Function.comp_def, CallFrame.unplaced]

theorem unplaces_conclude (name : String) (span : Span) (outcome : Outcome) :
    Unplaces (conclude svc name span outcome) (conclude svc name .nowhere outcome) := by
  intro s
  cases outcome with
  | ok text => rfl
  | error e =>
    refine Prod.ext rfl ?_
    rw [conclude, conclude, fail_eq, fail_eq, State.stack_unplaced]
    exact State.record_unplaced { s with phase := if e.isTerminal then .aborted else s.phase }
      ⟨span, name, e, s.stack⟩

theorem unplaces_effect {q : Query} (hq : q.isPlain = true) :
    Unplaces (q.effect svc) (q.effect svc) := by
  cases q with
  | value | again | attempt | activate | raw | count | supplied | define => cases hq
  | hasFunction name =>
    intro s
    refine Prod.ext ?_ rfl
    exact (congrArg Option.isSome (get?_unplaced s.functions (Text.lower name))).trans
      Option.isSome_map
  | iterate => exact unplaces_charge svc .loops
  | setVariable name value => exact unplaces_assign svc name value false
  | resetVariable name => exact unplaces_unset svc name false
  | restoreVariable name previous =>
    cases previous with
    | none => exact unplaces_unset svc name true
    | some value => exact unplaces_assign svc name value true
  | findEntity => exact unplaces_request svc _
  | listEntities => exact unplaces_request svc _
  | running | frame | getVariable | leave | setQuiet | setFallback | pick | shuffle =>
    exact fun _ ↦ rfl

end Services

section Scripts

variable {svc : Services} {eval eval' : Eval} (heval : UnplacesEval eval eval')

include heval

theorem Argument.unplaces_evaluate (a : Argument) :
    Unplaces (a.evaluate eval) (a.unplaced.evaluate eval') := by
  rcases a with ⟨p, statement | text, v⟩
  · exact heval statement
  · exact fun _ ↦ rfl

theorem Query.answer_unplaced (q : Query) (t : Activation) :
    q.answer svc eval' t.unplaced =
      ((q.answer svc eval t).1, (q.answer svc eval t).2.unplaced) := by
  have heffect (hq : q.isPlain = true) : q.answer svc eval' t.unplaced =
      ((q.answer svc eval t).1, (q.answer svc eval t).2.unplaced) := by
    rw [answer_eq_effect svc eval hq, answer_eq_effect svc eval' hq, Activation.unplaced,
      unplaces_effect svc hq t.state]
    rfl
  cases q with
  | value i j =>
    simp only [answer, Activation.value, Activation.unplaced, Arguments.at?_unplaced]
    cases t.args.at? i j with
    | none => rfl
    | some a =>
      have hvalue : a.unplaced.value? = a.value? := rfl
      simp only [Option.map_some, hvalue]
      cases a.value? with
      | some text => rfl
      | none =>
        simp only [a.unplaces_evaluate heval t.state, Activation.keep, Arguments.keep_unplaced]
        rfl
  | again i =>
    simp only [answer, Activation.again, Activation.unplaced, Arguments.at?_unplaced]
    cases t.args.at? i 0 with
    | none => rfl
    | some a =>
      have hbody := a.unplaces_evaluate heval (t.state.note .iterated)
      exact congrArg (fun r ↦ (r.1, Activation.mk t.args.unplaced r.2)) hbody
  | attempt i =>
    cases hat : t.args.at? i 0 with
    | none => simp [answer, Activation.attempt, Activation.unplaced, Arguments.at?_unplaced, hat]
    | some a =>
      have hat' : t.unplaced.args.at? i 0 = some a.unplaced := by
        rw [Activation.unplaced, Arguments.at?_unplaced, hat, Option.map_some]
      cases hvalue : a.value? with
      | some text =>
        have hvalue' : a.unplaced.value? = some text := hvalue
        simp only [answer, Activation.attempt, hat, hat', hvalue, hvalue']
      | none =>
        have hbody : a.unplaced.evaluate eval' t.unplaced.state.pushCatch = _ :=
          a.unplaces_evaluate heval t.state.pushCatch
        rw [answer_attempt svc eval i hat hvalue, answer_attempt svc eval' i hat' hvalue, hbody]
        simp only [State.caught_unplaced, State.popCatch_unplaced, Activation.keep]
        split
        · exact congrArg (fun args ↦ (_, Activation.mk args _)) (Arguments.keep_unplaced ..)
        · rfl
  | raw i j =>
    simp only [answer, Activation.unplaced, Arguments.at?_unplaced]
    cases t.args.at? i j with
    | none => rfl
    | some a => simp [a.raw_unplaced]
  | count i => simp only [answer, Activation.unplaced, Arguments.length_all_unplaced]
  | supplied i =>
    simp only [answer, Activation.unplaced, Arguments.get?, Arguments.at?_unplaced]
    rcases t.args.at? i 0 with _ | ⟨p, statement | text, v⟩ <;> rfl
  | define name i =>
    simp only [answer, Activation.unplaced, Arguments.get?, Arguments.at?_unplaced]
    rcases t.args.at? i 0 with _ | ⟨p, statement | text, v⟩
    · rfl
    · exact congrArg (fun s ↦ ((), Activation.mk t.args.unplaced s))
        (Services.define_unplaced name statement t.state)
    · rfl
  | activate name params =>
    have hfunction : Services.function? name t.state.unplaced =
        (Services.function? name t.state).map Statement.unplaced := get?_unplaced _ _
    simp only [answer, Activation.unplaced, hfunction]
    cases Services.function? name t.state with
    | none => rfl
    | some body =>
      have hbody : eval' body.unplaced (t.state.unplaced.enter name params) = _ :=
        heval body (t.state.enter name params)
      simp only [Option.map_some, activate_eq, hbody, State.exit_unplaced]
      rfl
  | _ => exact heffect rfl

theorem Script.run_unplaced {α : Type} (script : Script α) (t : Activation) :
    script.run svc eval' t.unplaced =
      ((script.run svc eval t).1, (script.run svc eval t).2.unplaced) := by
  induction script generalizing t with
  | done a => rfl
  | ask q next ih =>
    rw [Script.run, Script.run, q.answer_unplaced heval]
    exact ih _ _

theorem resolveSlot_unplaced (args : List Argument) (s : State) :
    resolveSlot eval' (args.map Argument.unplaced) s.unplaced =
      ((resolveSlot eval args s).1.map Argument.unplaced, (resolveSlot eval args s).2.unplaced) := by
  induction args generalizing s with
  | nil => rfl
  | cons a args ih =>
    have heager : a.unplaced.isEager = a.isEager := by
      rcases a with ⟨p, statement | text, v⟩ <;> rfl
    have hrunning : s.unplaced.isRunning = s.isRunning := rfl
    rw [List.map_cons, resolveSlot, resolveSlot, heager, hrunning]
    cases a.isEager && s.isRunning with
    | true =>
      simp only [if_true, a.unplaces_evaluate heval s, ih]
      rfl
    | false => simp [ih]

theorem resolveSlots_unplaced (slots : List (List Argument)) (s : State) :
    resolveSlots eval' (slots.map (·.map Argument.unplaced)) s.unplaced =
      ((resolveSlots eval slots s).1.map (·.map Argument.unplaced),
        (resolveSlots eval slots s).2.unplaced) := by
  induction slots generalizing s with
  | nil => rfl
  | cons slot slots ih =>
    rw [List.map_cons, resolveSlots, resolveSlots, resolveSlot_unplaced heval]
    simp only [ih, List.map_cons]

theorem unplaces_perform (body : Invocation → Action (Option String)) (args : Arguments)
    (frame : CallFrame) : Unplaces (perform svc eval (.script body) args frame)
      (perform svc eval' (.script body) args.unplaced frame.unplaced) := by
  intro s
  have hslots : resolveSlots eval' args.unplaced.slots (s.unplaced.pushCall frame.unplaced) = _ :=
    resolveSlots_unplaced heval args.slots (s.pushCall frame)
  unfold perform
  rw [hslots]
  generalize resolveSlots eval args.slots (s.pushCall frame) = r
  obtain ⟨slots, u⟩ := r
  have hrunning : u.unplaced.isRunning = u.isRunning := rfl
  dsimp only
  rw [hrunning]
  cases u.isRunning with
  | false => simp [State.popCall_unplaced]
  | true =>
    have hstate : Activation.mk { args.unplaced with slots := slots.map (·.map Argument.unplaced) }
        (u.unplaced.note (.started frame.unplaced.name frame.unplaced.span
          u.unplaced.calls.length)) = Activation.unplaced ⟨{ args with slots },
            u.note (.started frame.name frame.span u.calls.length)⟩ := by
      simp [Activation.unplaced, Arguments.unplaced, State.unplaced, State.note, Event.unplaced,
        CallFrame.unplaced]
    rw [if_pos rfl, if_pos rfl, hstate]
    simp only [Handler.run, Script.run_unplaced heval, CallFrame.unplaced]
    exact congrArg (Prod.mk _) (State.popCall_unplaced _)

end Scripts

section Evaluation

variable {env : Env}

theorem unplaces_invoke (hscripted : env.registry.Scripted) {inner inner' : Option Eval}
    (hinner : Option.Rel UnplacesEval inner inner') (name : String) (args : List Statement)
    (span : Span) : Unplaces (invoke env inner name args span)
      (invoke env inner' name (args.map Statement.unplaced) .nowhere) := by
  intro s
  cases hd : env.registry.lookup name with
  | none => simp only [invoke, hd]
  | some d =>
    rw [invoke_eq env hd, invoke_eq env hd, unplaces_charge env.services .calls s]
    rcases env.services.charge .calls s with ⟨e | _, u⟩
    · rfl
    · simp only [invokeAnswered, invokeCounted]
      cases hinner with
      | none => rfl
      | @some eval eval' heval =>
        simp only [Binding.bind_unplaced]
        cases hbind : Binding.bind d.signatures args with
        | error e => rfl
        | ok b =>
          obtain ⟨body, hbody⟩ := hscripted name d hd b.1 (Binding.mem_of_bind hbind)
          simp only [Except.map, hbody]
          exact unplaces_perform heval body b.2 ⟨name, span⟩ u

theorem unplaces_respond (hscripted : env.registry.Scripted) {inner inner' : Option Eval}
    (hinner : Option.Rel UnplacesEval inner inner') :
    UnplacesAnswer (respond env inner) (respond env inner') := by
  intro name args span s
  rw [respond_eq, respond_eq, unplaces_invoke hscripted hinner name args span s]
  exact unplaces_conclude env.services name span _ _

variable {svc : Services} {answer answer' : Responder}

mutual

theorem unplaces_evalStatement (hanswer : UnplacesAnswer answer answer') : (statement : Statement) →
    Unplaces (evalStatement svc answer statement) (evalStatement svc answer' statement.unplaced)
  | .mk parts _ => unplaces_evalParts hanswer parts

theorem unplaces_evalParts (hanswer : UnplacesAnswer answer answer') : (parts : List Part) →
    Unplaces (evalParts svc answer parts) (evalParts svc answer' (unplacedParts parts))
  | [] => fun _ ↦ rfl
  | part :: parts => by
    intro s
    have hrunning : s.unplaced.isRunning = s.isRunning := rfl
    rw [unplacedParts, evalParts, evalParts, hrunning]
    cases s.isRunning with
    | false => rfl
    | true =>
      simp only [if_true, unplaces_evalPart hanswer part s,
        unplaces_evalParts hanswer parts (evalPart svc answer part s).2]

theorem unplaces_evalPart (hanswer : UnplacesAnswer answer answer') : (part : Part) →
    Unplaces (evalPart svc answer part) (evalPart svc answer' part.unplaced)
  | .literal _ _ => fun _ ↦ rfl
  | .call name args span => by
    intro s
    rw [Part.unplaced, evalPart_call, evalPart_call, unplaces_tick svc s, unplacedArgs_eq]
    rcases svc.tick s with ⟨_ | _, u⟩
    · rfl
    · simp only [evalTicked, if_true, unplaces_evalStatement hanswer name u]
      generalize evalStatement svc answer name u = r
      have hrunning : r.2.unplaced.isRunning = r.2.isRunning := rfl
      rw [hrunning]
      cases r.2.isRunning with
      | false => rfl
      | true => exact hanswer (normalize r.1) args span r.2

end

theorem unplaces_evalAt (hscripted : env.registry.Scripted) (depth : Nat) :
    UnplacesEval (evalAt env depth) (evalAt env depth) := by
  induction depth with
  | zero => exact unplaces_evalStatement (unplaces_respond hscripted .none)
  | succ depth ih => exact unplaces_evalStatement (unplaces_respond hscripted (.some ih))

theorem Env.unplaces_eval (hscripted : env.registry.Scripted) : UnplacesEval env.eval env.eval := by
  intro statement s
  have hcalls : s.unplaced.calls.length = s.calls.length := List.length_map _
  rw [Env.eval, Env.eval, hcalls]
  exact unplaces_evalAt hscripted _ statement s

/-- Code that differs in places gives the same text, and states that differ in places. -/
theorem Env.eval_of_unplaced (hscripted : env.registry.Scripted) {x y : Statement}
    (h : x.unplaced = y.unplaced) (s : State) :
    (env.eval x s).1 = (env.eval y s).1 ∧
      (env.eval x s).2.unplaced = (env.eval y s).2.unplaced := by
  have hx := env.unplaces_eval hscripted x s
  rw [h, env.unplaces_eval hscripted y s, Prod.mk.injEq] at hx
  exact ⟨hx.1.symm, hx.2.symm⟩

end Evaluation

end BraceScript
