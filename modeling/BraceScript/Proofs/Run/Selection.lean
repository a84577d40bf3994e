import BraceScript.Proofs.Call.Distribution
import BraceScript.Proofs.Run.Derivation
import BraceScript.Proofs.Run.Interception

namespace BraceScript

/-- Evaluates statements in order as long as the run is running. -/
def evalEach (eval : Eval) : List Statement → State → List String × State
  | [], s => ([], s)
  | x :: xs, s =>
    if s.isRunning then
      let (text, s) := eval x s
      let (texts, s) := evalEach eval xs s
      (text :: texts, s)
    else ([], s)

section Each

variable {eval : Eval} {s : State}

theorem evalEach_stopped (h : s.isRunning = false) (xs : List Statement) :
    evalEach eval xs s = ([], s) := by
  cases xs with
  | nil => rfl
  | cons x xs => rw [evalEach, h, if_neg Bool.false_ne_true]

theorem evalEach_cons (h : s.isRunning = true) (x : Statement) (xs : List Statement) :
    evalEach eval (x :: xs) s = ((eval x s).1 :: (evalEach eval xs (eval x s).2).1,
      (evalEach eval xs (eval x s).2).2) := by
  rw [evalEach, h, if_pos rfl]

theorem length_evalEach {xs : List Statement}
    (h : (evalEach eval xs s).2.isRunning = true) : (evalEach eval xs s).1.length = xs.length := by
  induction xs generalizing s with
  | nil => rfl
  | cons x xs ih =>
    cases hs : s.isRunning with
    | false =>
      rw [evalEach_stopped hs, hs] at h
      cases h
    | true =>
      rw [evalEach_cons hs] at h ⊢
      exact congrArg (· + 1) (ih h)

/-- Slots of required parameters, with the arguments that have not been evaluated yet. -/
def pending (parameters : List Parameter) (xs : List Statement) : List (List Argument) :=
  List.zipWith (fun p x ↦ [Argument.supplied p x]) parameters xs

def evaluated : List Parameter → List Statement → List String → List (List Argument)
  | p :: parameters, x :: xs, text :: texts =>
    [{ Argument.supplied p x with value? := some text }] :: evaluated parameters xs texts
  | _, _, _ => []

theorem resolveSlots_pending (eval : Eval) {parameters : List Parameter}
    (heager : ∀ p ∈ parameters, p.mode = .eager) {xs : List Statement}
    (hlength : xs.length = parameters.length) {rest : List (List Argument)}
    (hrest : ∀ slot ∈ rest, ∀ a ∈ slot, a.isEager = false) (s : State) :
    let b := evalEach eval xs s
    (resolveSlots eval (pending parameters xs ++ rest) s).2 = b.2 ∧
    (b.2.isRunning = true →
      resolveSlots eval (pending parameters xs ++ rest) s =
        (evaluated parameters xs b.1 ++ rest, b.2)) := by
  intro b
  induction parameters generalizing xs s with
  | nil =>
    obtain rfl : xs = [] := List.eq_nil_of_length_eq_zero hlength
    have hnone : resolveSlots eval rest s = (rest, s) := resolveSlots_deferred eval hrest s
    exact ⟨congrArg Prod.snd hnone, fun _ ↦ hnone⟩
  | cons p parameters ih =>
    cases xs with
    | nil => cases hlength
    | cons x xs =>
      obtain ⟨hp, hparameters⟩ := List.forall_mem_cons.mp heager
      have ha : (Argument.supplied p x).isEager = true := by
        simp [Argument.isEager, Argument.supplied, Argument.isSupplied, Argument.statement?, hp]
      cases hs : s.isRunning with
      | false =>
        have hb : b = ([], s) := evalEach_stopped hs _
        rw [hb]
        refine ⟨by rw [resolveSlots_stopped _ hs], fun hrunning ↦ ?_⟩
        rw [hs] at hrunning
        cases hrunning
      | true =>
        have hb : b = _ := evalEach_cons hs x xs
        obtain ⟨hstate, hslots⟩ := ih hparameters (Nat.succ.inj hlength) (eval x s).2
        have hfirst : resolveSlot eval [Argument.supplied p x] s =
            ([{ Argument.supplied p x with value? := some (eval x s).1 }], (eval x s).2) :=
          resolveSlot_eager ha hs rfl []
        have hall : resolveSlots eval (pending (p :: parameters) (x :: xs) ++ rest) s =
            ([{ Argument.supplied p x with value? := some (eval x s).1 }] ::
              (resolveSlots eval (pending parameters xs ++ rest) (eval x s).2).1,
              (resolveSlots eval (pending parameters xs ++ rest) (eval x s).2).2) := by
          change resolveSlots eval ([Argument.supplied p x] :: (pending parameters xs ++ rest)) s = _
          rw [resolveSlots, hfirst]
        rw [hall, hb]
        refine ⟨hstate, fun hrunning ↦ ?_⟩
        rw [hslots hrunning]
        rfl

end Each

/-- The forms of a call that select some of their arguments to be run. -/
inductive Fork where
  | ifTrue
  | ifCompare
  | choose
  | chooseAtRandom
  | tryCatch
deriving DecidableEq

namespace Fork

def id : Fork → String
  | ifTrue | ifCompare => "if"
  | choose => "choose"
  | chooseAtRandom => "randchoose"
  | tryCatch => "try"

def conditions : Fork → List Parameter
  | ifTrue => [⟨"condition", .eager, .required⟩]
  | ifCompare => [⟨"left", .eager, .required⟩, ⟨"operator", .eager, .required⟩,
      ⟨"right", .eager, .required⟩]
  | choose => [⟨"index", .eager, .required⟩]
  | chooseAtRandom | tryCatch => []

def branches : Fork → List Parameter
  | ifTrue | ifCompare => [⟨"then", .deferred, .required⟩, ⟨"else", .deferred, .optional none⟩]
  | choose | chooseAtRandom => [⟨"choices", .deferred, .repeated 1⟩]
  | tryCatch => [⟨"code", .deferred, .required⟩, ⟨"catch", .deferred, .optional none⟩]

def script : Fork → Invocation → Action (Option String)
  | ifTrue => Subtags.ifTrue
  | ifCompare => Subtags.ifCompare
  | choose => Subtags.choose
  | chooseAtRandom => Subtags.chooseAtRandom
  | tryCatch => Subtags.tryCatch

def Takes : Fork → Nat → Prop
  | ifTrue, n => n = 2 ∨ n = 3
  | ifCompare, n => n = 4 ∨ n = 5
  | choose, n => 2 ≤ n
  | chooseAtRandom, n => 1 ≤ n
  | tryCatch, n => n = 1 ∨ n = 2

/-- The place of the selected argument among the `count` arguments that are not conditions, when the
conditions have these texts. -/
def select (fork : Fork) (c : Invocation) (texts : List String) (draws count : Nat) :
    Except Error Nat :=
  match fork with
  | ifTrue =>
    match c.plugins.boolean? (texts.getD 0 "") with
    | some holds => .ok (if holds then 0 else 1)
    | none => .error (.notABoolean (texts.getD 0 ""))
  | ifCompare =>
    (Subtags.compareTexts c (texts.getD 0 "") (Text.trim (texts.getD 1 "")) (texts.getD 2 "")).map
      fun holds ↦ if holds then 0 else 1
  | choose =>
    match c.plugins.integer? (texts.getD 0 "") with
    | some i =>
      if 0 ≤ i && i < count then .ok i.toNat else .error (.outOfRange i "choices" count)
    | none => .error (.notANumber (texts.getD 0 ""))
  | chooseAtRandom => .ok (c.plugins.random.index draws count)
  | tryCatch => .ok 0

def take (eval : Eval) (x? : Option Statement) (s : State) : Option String × State :=
  match x? with
  | some x => (some (eval x s).1, (eval x s).2)
  | none => (none, s)

/-- What the call answers when its conditions have these texts and `xs` are the other arguments. -/
def answer (fork : Fork) (eval : Eval) (c : Invocation) (texts : List String) (xs : List Statement)
    (s : State) : Outcome × State :=
  match fork.select c texts s.draws xs.length with
  | .error e => (.error e, s)
  | .ok i =>
    match fork with
    | tryCatch =>
      let (text, u) := take eval xs[i]? s.pushCatch
      if u.caught.isEmpty then (.ok text, u.popCatch)
      else
        let (text, u) := take eval xs[1]? u.popCatch
        (.ok (some (text.getD "")), u)
    | chooseAtRandom =>
      let (text, u) := take eval xs[i]? s.drawn
      (.ok text, u)
    | _ =>
      let (text, u) := take eval xs[i]? s
      (.ok text, u)

/-- The argument at this place is run: it is the selected one, or the code of a `try` has raised an
error that is intercepted. -/
inductive Runs (eval : Eval) (c : Invocation) (texts : List String) (xs : List Statement)
    (s : State) : Fork → Nat → Prop
  | selected {fork : Fork} {i : Nat} (h : fork.select c texts s.draws xs.length = .ok i) :
    Runs eval c texts xs s fork i
  | rescue (h : (take eval xs[0]? s.pushCatch).2.caught ≠ []) : Runs eval c texts xs s tryCatch 1

theorem answer_congr (eval : Eval) {c : Invocation} {texts : List String} {xs xs' : List Statement}
    {s : State} {fork : Fork} (hlength : xs'.length = xs.length)
    (hsame : ∀ i, Runs eval c texts xs s fork i → xs'[i]? = xs[i]?) :
    fork.answer eval c texts xs' s = fork.answer eval c texts xs s := by
  unfold answer
  rw [hlength]
  cases hselect : fork.select c texts s.draws xs.length with
  | error e => rfl
  | ok i =>
    have hi : xs'[i]? = xs[i]? := hsame i (.selected hselect)
    cases fork with
    | tryCatch =>
      cases hselect
      dsimp only
      rw [hi]
      cases hcaught : (take eval xs[0]? s.pushCatch).2.caught.isEmpty with
      | true => rfl
      | false =>
        have hrescue : xs'[1]? = xs[1]? := by
          refine hsame 1 (.rescue fun hnone ↦ ?_)
          rw [hnone] at hcaught
          cases hcaught
        rw [hrescue]
    | _ => simp only [hi]

/-- The slots of the branches. At least one argument goes to them in every form. -/
def slots (fork : Fork) (xs : List Statement) : List (List Argument) :=
  Binding.assign fork.branches (xs.length - 1) xs

/-- The argument of a parameter that may be omitted. -/
def offer (p : Parameter) : Option Statement → Argument
  | some x => .supplied p x
  | none => .omitted p

theorem assign_pair {p q : Parameter} (hp : p.arity = .required) (hq : q.arity = .optional none)
    {xs : List Statement} (hxs : xs.length = 1 ∨ xs.length = 2) :
    Binding.assign [p, q] (xs.length - 1) xs = [[offer p xs[0]?], [offer q xs[1]?]] := by
  rcases hxs with hxs | hxs
  · obtain ⟨x, rfl⟩ := List.length_eq_one_iff.mp hxs
    simp [Binding.assign, hp, hq, offer]
  · obtain ⟨x, y, rfl⟩ := List.length_eq_two.mp hxs
    simp [Binding.assign, hp, hq, offer]

theorem assign_choices {p : Parameter} (hp : p.arity = .repeated 1) {xs : List Statement}
    (hpos : 0 < xs.length) :
    Binding.assign [p] (xs.length - 1) xs = [xs.map (.supplied p)] := by
  simp [Binding.assign, hp, Nat.add_sub_cancel' hpos]

section Exec

variable {svc : Services} {eval : Eval} {c : Invocation} {t : Activation} {p q : Parameter}
  {xs : List Statement}

theorem exec_value {slot : Nat} {text : String}
    (h : (t.args.at? slot 0).bind Argument.value? = some text) :
    (Action.value slot).exec svc eval t = (.ok text, t) := by
  obtain ⟨a, hat, hvalue⟩ := Option.bind_eq_some_iff.mp h
  change (Except.ok (t.value eval slot 0).1, (t.value eval slot 0).2) = _
  rw [Activation.value, hat]
  dsimp only
  rw [hvalue]

theorem exec_branch_of_at? {slot i : Nat} {x? : Option Statement} {holds : Bool}
    (hi : (if holds then slot else slot + 1) = i) (hat : t.args.at? i 0 = some (offer p x?)) :
    let a := (Subtags.branch holds slot).exec svc eval t
    (a.1, a.2.state) = (.ok (take eval x? t.state).1, (take eval x? t.state).2) := by
  have hsupplied : (Action.isSupplied i).exec svc eval t =
      (.ok ((t.args.get? i).any Argument.isSupplied), t) := rfl
  have hvalue : (Action.value i).exec svc eval t =
      (.ok (t.value eval i 0).1, (t.value eval i 0).2) := rfl
  unfold Subtags.branch
  dsimp only
  rw [hi, Action.exec_bind, hsupplied, Arguments.get?, hat]
  cases x? with
  | none => rfl
  | some x =>
    have hsome : (some (offer p (some x))).any Argument.isSupplied = true := rfl
    dsimp only
    rw [hsome, if_pos rfl, Action.exec_bind, hvalue, Activation.value, hat]
    rfl

theorem exec_branch {slot : Nat} (hfirst : t.args.at? slot 0 = some (offer p xs[0]?))
    (hsecond : t.args.at? (slot + 1) 0 = some (offer q xs[1]?)) (holds : Bool) :
    let a := (Subtags.branch holds slot).exec svc eval t
    let b := take eval xs[if holds then 0 else 1]? t.state
    (a.1, a.2.state) = (.ok b.1, b.2) := by
  cases holds with
  | true => exact exec_branch_of_at? rfl hfirst
  | false => exact exec_branch_of_at? rfl hsecond

theorem exec_ifTrue {text : String} (htext : (t.args.at? 0 0).bind Argument.value? = some text)
    (hfirst : t.args.at? 1 0 = some (offer p xs[0]?))
    (hsecond : t.args.at? 2 0 = some (offer q xs[1]?)) :
    let a := (Subtags.ifTrue c).exec svc eval t
    (a.1, a.2.state) = answer ifTrue eval c [text] xs t.state := by
  have hget : [text].getD 0 "" = text := rfl
  unfold Subtags.ifTrue answer select
  rw [Action.exec_bind, exec_value htext, hget]
  dsimp only
  rw [Action.exec_bind]
  cases c.plugins.boolean? text with
  | none => rfl
  | some holds => exact exec_branch hfirst hsecond holds

theorem exec_ifCompare {left operator right : String}
    (hleft : (t.args.at? 0 0).bind Argument.value? = some left)
    (hoperator : (t.args.at? 1 0).bind Argument.value? = some operator)
    (hright : (t.args.at? 2 0).bind Argument.value? = some right)
    (hfirst : t.args.at? 3 0 = some (offer p xs[0]?))
    (hsecond : t.args.at? 4 0 = some (offer q xs[1]?)) :
    let a := (Subtags.ifCompare c).exec svc eval t
    (a.1, a.2.state) = answer ifCompare eval c [left, operator, right] xs t.state := by
  have hselect : select ifCompare c [left, operator, right] t.state.draws xs.length =
      (Subtags.compareTexts c left (Text.trim operator) right).map
        fun holds ↦ if holds then 0 else 1 := rfl
  unfold Subtags.ifCompare answer
  rw [Action.exec_bind, exec_value hleft, hselect]
  dsimp only
  rw [Action.exec_bind, exec_value hoperator]
  dsimp only
  rw [Action.exec_bind, exec_value hright]
  dsimp only
  rw [Action.exec_bind]
  cases Subtags.compareTexts c left (Text.trim operator) right with
  | error e => rfl
  | ok holds => exact exec_branch hfirst hsecond holds

theorem exec_valueAt {slot i : Nat} (hall : t.args.all slot = xs.map (.supplied p))
    (hi : i < xs.length) :
    let a := ((Action.valueAt slot i) >>= fun text ↦ pure (some text)).exec svc eval t
    (a.1, a.2.state) = (.ok (take eval xs[i]? t.state).1, (take eval xs[i]? t.state).2) := by
  have hvalue : (Action.valueAt slot i).exec svc eval t =
      (.ok (t.value eval slot i).1, (t.value eval slot i).2) := rfl
  have hat : t.args.at? slot i = some (.supplied p xs[i]) := by
    rw [Arguments.at?, hall, List.getElem?_map, List.getElem?_eq_getElem hi]
    rfl
  rw [Action.exec_bind, hvalue, Activation.value, hat, List.getElem?_eq_getElem hi]
  rfl

theorem exec_count {slot : Nat} (hall : t.args.all slot = xs.map (.supplied p)) :
    (Action.count slot).exec svc eval t = (.ok xs.length, t) := by
  change (Except.ok (t.args.all slot).length, t) = _
  rw [hall, List.length_map]

theorem exec_choose {text : String} (htext : (t.args.at? 0 0).bind Argument.value? = some text)
    (hall : t.args.all 1 = xs.map (.supplied p)) :
    let a := (Subtags.choose c).exec svc eval t
    (a.1, a.2.state) = answer choose eval c [text] xs t.state := by
  have hget : [text].getD 0 "" = text := rfl
  unfold Subtags.choose answer select Invocation.integer
  rw [Action.exec_bind, exec_value htext, hget]
  dsimp only
  rw [Action.exec_bind]
  cases c.plugins.integer? text with
  | none => rfl
  | some i =>
    have hsome : (Action.ofOption (.notANumber text) (some i)).exec svc eval t = (.ok i, t) := rfl
    rw [hsome]
    dsimp only
    rw [Action.exec_bind, exec_count hall]
    dsimp only
    cases hrange : (0 ≤ i && i < xs.length : Bool) with
    | false => rfl
    | true =>
      have hi : i.toNat < xs.length := by
        simp only [Bool.and_eq_true, decide_eq_true_eq] at hrange
        omega
      exact exec_valueAt hall hi

theorem exec_chooseAtRandom (hc : c.plugins = svc.plugins)
    (hall : t.args.all 0 = xs.map (.supplied p)) :
    let a := (Subtags.chooseAtRandom c).exec svc eval t
    (a.1, a.2.state) = answer chooseAtRandom eval c [] xs t.state := by
  have hpick : (Action.pick xs.length).exec svc eval t =
      (.ok (c.plugins.random.index t.state.draws xs.length), ⟨t.args, t.state.drawn⟩) := by
    rw [hc]
    rfl
  unfold Subtags.chooseAtRandom answer select
  rw [Action.exec_bind, exec_count hall]
  dsimp only
  rw [Action.exec_bind, hpick]
  dsimp only
  split
  · rename_i hi
    exact exec_valueAt (t := ⟨t.args, t.state.drawn⟩) hall hi
  · rename_i hi
    rw [List.getElem?_eq_none (Nat.le_of_not_lt hi)]
    rfl

theorem value_offer (eval : Eval) {i : Nat} {x? : Option Statement} (hat : t.args.at? i 0 = some (offer q x?))
    (hq : q.default? = none) :
    (t.value eval i 0).1 = (take eval x? t.state).1.getD "" ∧
      (t.value eval i 0).2.state = (take eval x? t.state).2 := by
  rw [Activation.value, hat]
  cases x? with
  | some x => exact ⟨rfl, rfl⟩
  | none =>
    rw [offer, Argument.omitted, hq]
    exact ⟨rfl, rfl⟩

theorem exec_try {x : Statement} (hfirst : t.args.at? 0 0 = some (.supplied p x))
    (hsecond : t.args.at? 1 0 = some (offer q xs[1]?)) (hx : xs[0]? = some x)
    (hq : q.default? = none) :
    let a := (Subtags.tryCatch c).exec svc eval t
    (a.1, a.2.state) = answer tryCatch eval c [] xs t.state := by
  have hcode : (Argument.supplied p x).evaluate eval t.state.pushCatch =
      eval x t.state.pushCatch := rfl
  rw [exec_tryCatch, Query.answer_attempt svc eval 0 hfirst rfl, hcode]
  unfold answer select
  dsimp only
  rw [hx, take]
  cases (eval x t.state.pushCatch).2.caught.isEmpty with
  | true => rfl
  | false =>
    obtain ⟨htext, hstate⟩ := value_offer eval
      (t := ⟨t.args, (eval x t.state.pushCatch).2.popCatch⟩) hsecond hq
    exact congrArg₂ (fun text u ↦ (Except.ok (some text), u)) htext hstate

end Exec

/-- What the call answers is told by its conditions and by the arguments that are run. -/
theorem run_script (svc : Services) (eval : Eval) (fork : Fork) (name : String)
    {es xs : List Statement} {texts : List String} (hes : es.length = fork.conditions.length)
    (htexts : texts.length = fork.conditions.length) (htakes : fork.Takes (es.length + xs.length))
    (parameters : List Parameter) (s : State) :
    let a := Handler.run svc eval name
      ⟨⟨parameters, evaluated fork.conditions es texts ++ fork.slots xs⟩, s⟩ (.script fork.script)
    (a.1, a.2.state) = fork.answer eval ⟨name, svc.plugins, svc.origin⟩ texts xs s := by
  cases fork with
  | ifTrue =>
    obtain ⟨x, rfl⟩ := List.length_eq_one_iff.mp hes
    obtain ⟨text, rfl⟩ := List.length_eq_one_iff.mp htexts
    have hxs : xs.length = 1 ∨ xs.length = 2 := by
      simp only [Takes, List.length_singleton] at htakes
      omega
    have hslots : slots ifTrue xs = _ := assign_pair rfl rfl hxs
    rw [hslots]
    exact exec_ifTrue rfl rfl rfl
  | ifCompare =>
    obtain ⟨x, y, z, rfl⟩ := List.length_eq_three.mp hes
    obtain ⟨left, operator, right, rfl⟩ := List.length_eq_three.mp htexts
    have hxs : xs.length = 1 ∨ xs.length = 2 := by
      simp only [Takes, List.length_cons, List.length_nil] at htakes
      omega
    have hslots : slots ifCompare xs = _ := assign_pair rfl rfl hxs
    rw [hslots]
    exact exec_ifCompare rfl rfl rfl rfl rfl
  | choose =>
    obtain ⟨x, rfl⟩ := List.length_eq_one_iff.mp hes
    obtain ⟨text, rfl⟩ := List.length_eq_one_iff.mp htexts
    have hpos : 0 < xs.length := by
      simp only [Takes, List.length_singleton] at htakes
      omega
    have hslots : slots choose xs = _ := assign_choices rfl hpos
    rw [hslots]
    exact exec_choose rfl rfl
  | chooseAtRandom =>
    obtain rfl := List.eq_nil_of_length_eq_zero hes
    obtain rfl := List.eq_nil_of_length_eq_zero htexts
    have hpos : 0 < xs.length := by
      simp only [Takes, List.length_nil] at htakes
      omega
    have hslots : slots chooseAtRandom xs = _ := assign_choices rfl hpos
    rw [hslots]
    exact exec_chooseAtRandom rfl rfl
  | tryCatch =>
    obtain rfl := List.eq_nil_of_length_eq_zero hes
    obtain rfl := List.eq_nil_of_length_eq_zero htexts
    have hxs : xs.length = 1 ∨ xs.length = 2 := by
      simp only [Takes, List.length_nil] at htakes
      omega
    have hx : xs[0]? = some xs[0] := List.getElem?_eq_getElem (by omega)
    have hslots : slots tryCatch xs = _ := assign_pair rfl rfl hxs
    rw [hslots, hx]
    exact exec_try rfl rfl hx rfl

theorem assign_append {conditions : List Parameter} (h : ∀ p ∈ conditions, p.arity = .required)
    {args : List Statement} (hlength : conditions.length ≤ args.length) (branches : List Parameter)
    (surplus : Nat) :
    Binding.assign (conditions ++ branches) surplus args =
      pending conditions (args.take conditions.length) ++
        Binding.assign branches surplus (args.drop conditions.length) := by
  induction conditions generalizing args with
  | nil => rfl
  | cons p conditions ih =>
    cases args with
    | nil => cases hlength
    | cons x args =>
      obtain ⟨hp, hconditions⟩ := List.forall_mem_cons.mp h
      have htail := ih hconditions (Nat.le_of_succ_le_succ hlength)
      rw [List.cons_append, Binding.assign, hp]
      exact congrArg (List.cons [Argument.supplied p x]) htail

theorem conditions_required (fork : Fork) : ∀ p ∈ fork.conditions, p.arity = .required := by
  cases fork <;> simp [conditions]

theorem conditions_eager (fork : Fork) : ∀ p ∈ fork.conditions, p.mode = .eager := by
  cases fork <;> simp [conditions]

theorem branches_deferred (fork : Fork) : ∀ p ∈ fork.branches, p.mode = .deferred := by
  cases fork <;> simp [branches]

theorem length_conditions_lt {fork : Fork} {n : Nat} (h : fork.Takes n) :
    fork.conditions.length < n := by
  cases fork <;> simp only [Takes] at h <;>
    simp only [conditions, List.length_cons, List.length_nil] <;> omega

def signature (fork : Fork) (description : String) : Signature Handler where
  parameters := fork.conditions ++ fork.branches
  description
  handler := .script fork.script
  least := fork.conditions.length + 1
  total_eq := by cases fork <;> rfl

theorem accepts_signature (fork : Fork) (description : String) (n : Nat) :
    (fork.signature description).accepts n = true ↔ fork.Takes n := by
  unfold Signature.accepts
  cases fork <;>
    simp [signature, conditions, branches, Takes, Signature.greatest?, Parameter.repeat?] <;> omega

theorem lookup_id {e : Engine} (he : e.Standard) (fork : Fork) :
    ∃ d description, e.registry.lookup fork.id = some d ∧
      ∀ n, fork.Takes n → d.signatures.find? (·.accepts n) = some (fork.signature description) := by
  have hnormal : normalize fork.id = normalize (Text.lower fork.id) := by
    cases fork <;> decide +kernel
  have hsingle (description : String) (n : Nat) (hn : fork.Takes n) :
      [fork.signature description].find? (·.accepts n) = some (fork.signature description) :=
    List.find?_cons_of_pos ((accepts_signature fork description n).mpr hn)
  have hone {declaration : Declaration Handler} (hmem : declaration ∈ Subtags.standardDeclarations)
      (hid : fork.id = declaration.id) (hsignatures : ∃ description, ∀ d,
        Definition.ofDeclaration declaration = .ok d → d.signatures = [fork.signature description]) :
      ∃ d description, e.registry.lookup fork.id = some d ∧
        ∀ n, fork.Takes n → d.signatures.find? (·.accepts n) = some (fork.signature description) := by
    have hfound : normalize fork.id = normalize (Text.lower declaration.id) := by rw [← hid, hnormal]
    obtain ⟨d, hdeclaration, hd⟩ := he.lookup_of_mem hmem hfound
    obtain ⟨description, hsignatures⟩ := hsignatures
    refine ⟨d, description, hd, ?_⟩
    rw [hsignatures d hdeclaration]
    exact hsingle description
  have hif : Subtags.ifDeclaration ∈ Subtags.standardDeclarations := by
    simp [Subtags.standardDeclarations, Subtags.choiceDeclarations]
  have hsignatures {d : Definition Handler}
      (hd : Definition.ofDeclaration Subtags.ifDeclaration = .ok d) :
      ∃ a b, d.signatures = [ifTrue.signature a, ifCompare.signature b] :=
    ⟨_, _, (Except.ok.inj (Definition.of_declaration hd).2).symm⟩
  cases fork with
  | ifTrue =>
    obtain ⟨d, hdeclaration, hd⟩ := he.lookup_of_mem hif hnormal
    obtain ⟨a, b, hsignatures⟩ := hsignatures hdeclaration
    refine ⟨d, a, hd, fun n hn ↦ ?_⟩
    rw [hsignatures]
    exact List.find?_cons_of_pos ((accepts_signature ifTrue a n).mpr hn)
  | ifCompare =>
    obtain ⟨d, hdeclaration, hd⟩ := he.lookup_of_mem hif hnormal
    obtain ⟨a, b, hsignatures⟩ := hsignatures hdeclaration
    refine ⟨d, b, hd, fun n hn ↦ ?_⟩
    have hother : ¬(ifTrue.signature a).accepts n = true := by
      rw [accepts_signature]
      simp only [Takes] at hn ⊢
      omega
    rw [hsignatures, List.find?_cons_of_neg (by exact hother)]
    exact hsingle b n hn
  | choose =>
    have hmem : Subtags.chooseDeclaration ∈ Subtags.standardDeclarations := by
      simp [Subtags.standardDeclarations, Subtags.choiceDeclarations]
    exact hone hmem rfl ⟨_, fun d hd ↦ Definition.signatures_of_single hd rfl rfl⟩
  | chooseAtRandom =>
    have hmem : Subtags.randchooseDeclaration ∈ Subtags.standardDeclarations := by
      simp [Subtags.standardDeclarations, Subtags.choiceDeclarations]
    exact hone hmem rfl ⟨_, fun d hd ↦ Definition.signatures_of_single hd rfl rfl⟩
  | tryCatch =>
    have hmem : Subtags.tryDeclaration ∈ Subtags.standardDeclarations := by
      simp [Subtags.standardDeclarations, Subtags.flowDeclarations]
    exact hone hmem rfl ⟨_, fun d hd ↦ Definition.signatures_of_single hd rfl rfl⟩

section Call

variable {fork : Fork} {args : List Statement}

theorem isEager_slots (fork : Fork) (xs : List Statement) :
    ∀ slot ∈ fork.slots xs, ∀ a ∈ slot, a.isEager = false := by
  intro slot hslot a ha
  obtain ⟨i, hi⟩ := List.getElem?_of_mem hslot
  have hall : a ∈ (fork.slots xs).getD i [] := by
    rw [List.getD_eq_getElem?_getD, hi]
    exact ha
  have hp := Binding.parameter_of_assign hall
  rw [Argument.isEager, branches_deferred fork _ (List.mem_of_getElem? hp)]
  rfl

theorem bind_signatures {signatures : List (Signature Handler)} {description : String}
    (hfind : signatures.find? (·.accepts args.length) = some (fork.signature description))
    (htakes : fork.Takes args.length) :
    Binding.bind signatures args = .ok (fork.signature description,
      ⟨fork.conditions ++ fork.branches,
        pending fork.conditions (args.take fork.conditions.length) ++ fork.slots (args.drop fork.conditions.length)⟩) := by
  have hlength := length_conditions_lt htakes
  have hsurplus : args.length - (fork.conditions.length + 1) =
      (args.drop fork.conditions.length).length - 1 := by
    rw [List.length_drop]
    omega
  rw [Binding.bind_of_find? hfind]
  change Except.ok (fork.signature description, Arguments.mk _
    (Binding.assign _ (args.length - (fork.conditions.length + 1)) args)) = _
  rw [hsurplus]
  exact congrArg (fun slots ↦ Except.ok (fork.signature description, Arguments.mk _ slots))
    (assign_append fork.conditions_required (Nat.le_of_lt hlength) _ _)

/-- The conditions are evaluated in the call, and the answer is given if the run still goes on. -/
theorem perform_signature {svc : Services} {eval : Eval} (htakes : fork.Takes args.length)
    (name : String) (span : Span) (s : State) :
    let xs := args.drop fork.conditions.length
    let b := evalEach eval (args.take fork.conditions.length) (s.called ⟨name, span⟩)
    let a := fork.answer eval ⟨name, svc.plugins, svc.origin⟩ b.1 xs (b.2.started ⟨name, span⟩)
    perform svc eval (.script fork.script) ⟨fork.conditions ++ fork.branches,
      pending fork.conditions (args.take fork.conditions.length) ++ fork.slots xs⟩ ⟨name, span⟩
        (s.charged .calls) =
      if b.2.isRunning then (a.1, a.2.popCall) else (.ok none, b.2.popCall) := by
  intro xs b a
  have hlength := length_conditions_lt htakes
  have htake : (args.take fork.conditions.length).length = fork.conditions.length := by
    rw [List.length_take]
    omega
  have hdrop : xs.length = args.length - fork.conditions.length := List.length_drop
  have hcount : fork.conditions.length + xs.length = args.length := by omega
  obtain ⟨hstate, hslots⟩ := resolveSlots_pending eval fork.conditions_eager htake
    (fork.isEager_slots xs) (s.called ⟨name, span⟩)
  have hstart : (resolveSlots eval (pending fork.conditions (args.take fork.conditions.length) ++
      fork.slots xs) ((s.charged .calls).pushCall ⟨name, span⟩)).2.isRunning = b.2.isRunning :=
    congrArg State.isRunning hstate
  cases hrunning : b.2.isRunning with
  | false =>
    rw [perform_unstarted (hstart.trans hrunning)]
    exact congrArg (fun u ↦ (Except.ok none, State.popCall u)) hstate
  | true =>
    have hall : fork.Takes ((args.take fork.conditions.length).length + xs.length) := by
      rw [htake, hcount]
      exact htakes
    have hrun := run_script svc eval fork name htake ((length_evalEach hrunning).trans htake) hall
      (fork.conditions ++ fork.branches) (b.2.started ⟨name, span⟩)
    obtain ⟨houtcome, hleft⟩ := Prod.mk.inj hrun
    have hresolved : resolveSlots eval (pending fork.conditions (args.take fork.conditions.length) ++
        fork.slots xs) ((s.charged .calls).pushCall ⟨name, span⟩) = _ := hslots hrunning
    rw [perform_started (hstart.trans hrunning), hresolved]
    exact congrArg₂ (fun o u ↦ (o, State.popCall u)) houtcome hleft

/-- The texts of the conditions of a call, and the state in which its handler starts. -/
def ready (fork : Fork) (env : Env) (name : Statement) (args : List Statement) (span : Span)
    (s : State) : List String × State :=
  let named := env.eval name (env.services.tick s).2
  let (texts, u) := evalEach env.eval (args.take fork.conditions.length)
    (named.2.called ⟨fork.id, span⟩)
  (texts, u.started ⟨fork.id, span⟩)

/-- The handler of the call starts: the call is neither cancelled nor refused, and neither its name
nor its conditions end the run. -/
def Starts (fork : Fork) (env : Env) (name : Statement) (args : List Statement) (span : Span)
    (s : State) : Prop :=
  let named := env.eval name (env.services.tick s).2
  (env.services.tick s).1 = true ∧ named.2.isRunning = true ∧
    named.2.MayCall env.services.limits ∧ (fork.ready env name args span s).2.isRunning = true

/-- The argument at this place is a condition of the call, or it is run. -/
def Needs (fork : Fork) (env : Env) (name : Statement) (args : List Statement) (span : Span)
    (s : State) (i : Nat) : Prop :=
  i < fork.conditions.length ∨ ∃ j, i = fork.conditions.length + j ∧
    fork.Starts env name args span s ∧
    Runs env.eval ⟨fork.id, env.services.plugins, env.services.origin⟩
      (fork.ready env name args span s).1 (args.drop fork.conditions.length)
      (fork.ready env name args span s).2 fork j

theorem evalEach_evalAt {e : Engine} (he : e.Standard) (r : Request) {depth : Nat} {s : State}
    (hdepth : (e.env r).services.limits.maxDepth - s.calls.length = depth) (xs : List Statement) :
    evalEach (evalAt (e.env r) depth) xs s = evalEach (e.env r).eval xs s ∧
      (evalEach (e.env r).eval xs s).2.calls = s.calls := by
  induction xs generalizing s with
  | nil => exact ⟨rfl, rfl⟩
  | cons x xs ih =>
    have heval : evalAt (e.env r) depth x s = (e.env r).eval x s := by rw [← hdepth]; rfl
    have hcalls : ((e.env r).eval x s).2.calls = s.calls := (he.course r x s).keeps.calls
    obtain ⟨hrest, hkept⟩ := ih (s := ((e.env r).eval x s).2) (by rw [hcalls, hdepth])
    cases hs : s.isRunning with
    | false => rw [evalEach_stopped hs, evalEach_stopped hs]; exact ⟨rfl, rfl⟩
    | true =>
      rw [evalEach_cons hs, evalEach_cons hs, heval, hrest]
      exact ⟨rfl, hkept.trans hcalls⟩

theorem Runs.of_evalAt {env : Env} {depth : Nat} {c : Invocation} {texts : List String}
    {xs : List Statement} {s : State} {i : Nat}
    (hdepth : env.services.limits.maxDepth - s.calls.length = depth)
    (h : Runs (evalAt env depth) c texts xs s fork i) : Runs env.eval c texts xs s fork i := by
  cases h with
  | selected h => exact .selected h
  | rescue h =>
    rw [← hdepth] at h
    exact .rescue h

section

variable {e : Engine} (he : e.Standard) (r : Request) {args' : List Statement} {span : Span}

include he

theorem invoke_eq_of_runs {inner : Option Eval} {s : State}
    (hinner : inner = (e.env r).inner ((e.env r).services.limits.maxDepth - s.calls.length))
    (htakes : fork.Takes args.length) (hlength : args'.length = args.length)
    (htake : args'.take fork.conditions.length = args.take fork.conditions.length)
    (hsame :
      let b := evalEach (e.env r).eval (args.take fork.conditions.length) (s.called ⟨fork.id, span⟩)
      s.MayCall (e.env r).services.limits → b.2.isRunning = true → ∀ i,
        Runs (e.env r).eval ⟨fork.id, (e.env r).services.plugins, (e.env r).services.origin⟩ b.1
          (args.drop fork.conditions.length) (b.2.started ⟨fork.id, span⟩) fork i →
        (args'.drop fork.conditions.length)[i]? = (args.drop fork.conditions.length)[i]?) :
    invoke (e.env r) inner fork.id args' span s = invoke (e.env r) inner fork.id args span s := by
  obtain ⟨d, description, hd, hfind⟩ := lookup_id he fork
  by_cases hfull : (e.env r).services.limits.ceiling .calls ≤ s.usage.used .calls
  · rw [invoke_eq _ hd, invoke_eq _ hd, Services.charge_eq, if_pos hfull]
    rfl
  have hbelow := Nat.lt_of_not_le hfull
  cases hdepth : (e.env r).services.limits.maxDepth - s.calls.length with
  | zero =>
    rw [hinner, hdepth, invoke_counted hd hbelow, invoke_counted hd hbelow]
    rfl
  | succ depth =>
    have hdeeper : (e.env r).services.limits.maxDepth -
        (s.called ⟨fork.id, span⟩).calls.length = depth := by
      change _ - (s.calls.length + 1) = depth
      omega
    obtain ⟨heach, hkept⟩ := evalEach_evalAt he r hdeeper (args.take fork.conditions.length)
    have hbind := bind_signatures (hfind _ htakes) htakes
    have hbind' := bind_signatures (hlength ▸ hfind _ htakes) (hlength ▸ htakes)
    have hdrop : (args'.drop fork.conditions.length).length =
        (args.drop fork.conditions.length).length := by
      rw [List.length_drop, List.length_drop, hlength]
    rw [hinner, hdepth, Env.inner, invoke_bound hd hbelow hbind', invoke_bound hd hbelow hbind]
    refine (perform_signature (hlength ▸ htakes) _ _ _).trans
      (Eq.trans ?_ (perform_signature htakes _ _ _).symm)
    rw [htake, heach]
    cases hrunning : (evalEach (e.env r).eval (args.take fork.conditions.length)
        (s.called ⟨fork.id, span⟩)).2.isRunning with
    | false => rfl
    | true =>
      have hmay : s.MayCall (e.env r).services.limits := ⟨hbelow, by omega⟩
      have hanswer := answer_congr (evalAt (e.env r) depth) hdrop fun i hi ↦
        hsame hmay hrunning i (hi.of_evalAt (by rw [← hdeeper, ← hkept]; rfl))
      rw [hanswer]

end

/-- A call does the same whichever code stands in place of the arguments that it does not need. -/
theorem eval_eq_of_needs {e : Engine} (he : e.Standard) (r : Request) (s : State)
    {name : Statement} {args' : List Statement} {span : Span} (htakes : fork.Takes args.length)
    (hlength : args'.length = args.length)
    (hname : ((e.env r).eval name ((e.env r).services.tick s).2).2.isRunning = true →
      normalize ((e.env r).eval name ((e.env r).services.tick s).2).1 = fork.id)
    (hsame : ∀ i, fork.Needs (e.env r) name args span s i → args'[i]? = args[i]?) (span' : Span) :
    (e.env r).eval (.mk [.call name args' span] span') s =
      (e.env r).eval (.mk [.call name args span] span') s := by
  have htake : args'.take fork.conditions.length = args.take fork.conditions.length := by
    refine List.ext_getElem? fun i ↦ ?_
    rw [List.getElem?_take, List.getElem?_take]
    split
    · rename_i hi
      exact hsame i (.inl hi)
    · rfl
  let depth := (e.env r).services.limits.maxDepth - s.calls.length
  let answer := respond (e.env r) ((e.env r).inner depth)
  have hnamed : evalParts (e.env r).services answer name.parts ((e.env r).services.tick s).2 =
      (e.env r).eval name ((e.env r).services.tick s).2 := by
    rw [Env.eval, evalAt_eq, tick_calls]
  have hpart : evalPart (e.env r).services answer (.call name args' span) s =
      evalPart (e.env r).services answer (.call name args span) s := by
    cases htick : ((e.env r).services.tick s).1 with
    | false => rw [evalPart_call, evalPart_call, htick]; rfl
    | true =>
      rw [evalPart_ticked htick, evalPart_ticked htick, hnamed]
      cases hrunning : ((e.env r).eval name ((e.env r).services.tick s).2).2.isRunning with
      | false => rfl
      | true =>
        rw [if_pos rfl, if_pos rfl, hname hrunning]
        change respond _ _ _ _ _ _ = respond _ _ _ _ _ _
        rw [respond_eq, respond_eq]
        have hcalls : ((e.env r).eval name ((e.env r).services.tick s).2).2.calls = s.calls := by
          rw [(he.course r name _).keeps.calls, tick_calls]
        rw [invoke_eq_of_runs he r (by rw [hcalls]) htakes hlength htake
          fun hmay hready i hi ↦ ?_]
        rw [List.getElem?_drop, List.getElem?_drop]
        exact hsame _ (.inr ⟨i, rfl, ⟨htick, hrunning, hmay, hready⟩, hi⟩)
  unfold Env.eval
  rw [evalAt_eq, evalAt_eq]
  cases hs : s.isRunning with
  | false => rw [evalParts_stopped hs, evalParts_stopped hs]
  | true =>
    change evalParts _ answer [_] s = evalParts _ answer [_] s
    rw [evalParts_cons hs, evalParts_cons hs, hpart]

end Call

end Fork

end BraceScript
