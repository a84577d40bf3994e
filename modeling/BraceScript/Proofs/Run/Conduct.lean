import BraceScript.Proofs.Run.Course

namespace BraceScript

section Exec

variable {α β : Type} (svc : Services) (eval : Eval)

theorem Script.run_bind (x : Script α) (f : α → Script β) (t : Activation) :
    (x >>= f).run svc eval t = (f (x.run svc eval t).1).run svc eval (x.run svc eval t).2 := by
  induction x generalizing t with
  | done a => rfl
  | ask q next ih => exact ih _ _

def Action.exec (a : Action α) (t : Activation) : Except Error α × Activation :=
  (ExceptT.run a).run svc eval t

theorem Action.exec_bind (a : Action α) (f : α → Action β) (t : Activation) :
    (a >>= f).exec svc eval t =
      match a.exec svc eval t with
      | (.ok v, u) => (f v).exec svc eval u
      | (.error e, u) => (.error e, u) := by
  have h := Script.run_bind svc eval (ExceptT.run a) (ExceptT.bindCont f) t
  change (ExceptT.run a >>= ExceptT.bindCont f).run svc eval t = _
  rw [h]
  unfold Action.exec
  rcases (ExceptT.run a).run svc eval t with ⟨e | v, u⟩ <;> rfl

theorem Action.exec_outcome (a : Action α) (t : Activation) :
    (Action.outcome a).exec svc eval t = (.ok (a.exec svc eval t).1, (a.exec svc eval t).2) :=
  Script.run_bind svc eval (ExceptT.run a) (fun r ↦ Pure.pure (Except.ok r)) t

end Exec

namespace Arguments

/-- All arguments of parameter `i` have their values, so that reading them evaluates nothing. -/
def Settled (args : Arguments) (i : Nat) : Prop :=
  ∀ a ∈ args.all i, a.isSupplied = true → a.value?.isSome = true

theorem mem_all_keep {args : Arguments} {i j k : Nat} {value : String} {a : Argument}
    (h : a ∈ (args.keep i j value).all k) :
    a ∈ args.all k ∨ a.value?.isSome = true := by
  unfold keep all at h
  rw [List.getD_eq_getElem?_getD, List.getElem?_modify] at h
  unfold all
  rw [List.getD_eq_getElem?_getD]
  cases hslot : args.slots[k]? with
  | none => simp [hslot] at h
  | some slot =>
    simp only [hslot, Option.getD_some] at h ⊢
    split at h
    · rw [Option.map_eq_map, Option.map_some, Option.getD_some] at h
      obtain ⟨m, hm⟩ := List.mem_iff_getElem?.mp h
      rw [List.getElem?_modify] at hm
      obtain ⟨b, hb, rfl⟩ := Option.map_eq_some_iff.mp hm
      split
      · exact Or.inr rfl
      · exact Or.inl (List.mem_of_getElem? hb)
    · exact Or.inl h

theorem Settled.keep {args : Arguments} {k : Nat} (h : args.Settled k) (i j : Nat)
    (value : String) : (args.keep i j value).Settled k := by
  intro a ha hsupplied
  rcases mem_all_keep ha with ha | ha
  · exact h a ha hsupplied
  · exact ha

theorem mem_all_of_at? {args : Arguments} {i j : Nat} {a : Argument} (h : args.at? i j = some a) :
    a ∈ args.all i :=
  List.mem_of_getElem? h

end Arguments

namespace Activation

def Bound (eager : Nat → Bool) (t : Activation) : Prop :=
  ∀ i, eager i = true → t.args.Settled i

def Ready (eager : Nat → Bool) (t : Activation) : Prop :=
  t.state.isRunning = true ∧ t.Bound eager

end Activation

def failure {α : Type} : Except Error α → Option Error
  | .ok _ => none
  | .error e => some e

def Follows (svc : Services) (n : Nat) (eval : Eval) : Prop :=
  ∀ statement s, s.calls.length = n → Course svc s none (eval statement s).2

/-- With `n` calls in progress and `P` of the call, the action follows a course, and a value that it
gives comes with `Q`. -/
def Leads (svc : Services) (eval : Eval) (n : Nat) {α : Type} (P : Activation → Prop) (a : Action α)
    (Q : α → Activation → Prop) : Prop :=
  ∀ t : Activation, t.state.calls.length = n → P t →
    Course svc t.state (failure (a.exec svc eval t).1) (a.exec svc eval t).2.state ∧
    ∀ v, (a.exec svc eval t).1 = .ok v → Q v (a.exec svc eval t).2

namespace Services

variable (svc : Services)

/-- Writing changes the store or the temporaries of the current frame, or fails because the name
leads nowhere or the store refuses. -/
def Writes (raw : String) (w : State → Except Error State) : Prop :=
  ∀ s, (∃ e, w s = .error e ∧ (svc.locate raw = .error e ∨ svc.faults.Raises e)) ∨
    ∃ store temporaries, w s = .ok { s with store, frame := { s.frame with temporaries } }

theorem writes_assign (raw : String) (value : Value) : svc.Writes raw (svc.assign raw value) := by
  intro s
  unfold assign
  cases hlocate : svc.locate raw with
  | error e => exact Or.inl ⟨e, rfl, Or.inl rfl⟩
  | ok place =>
    obtain ⟨_ | scope, name⟩ := place
    · exact Or.inr ⟨s.store, s.frame.temporaries.set name value, rfl⟩
    · dsimp only [Store.write]
      cases hfault : svc.faults.onSet ⟨scope, name⟩ with
      | some e => exact Or.inl ⟨e, rfl, Or.inr ⟨_, Or.inr (Or.inl hfault)⟩⟩
      | none => exact Or.inr ⟨s.store.set ⟨scope, name⟩ value, s.frame.temporaries, rfl⟩

theorem writes_unset (raw : String) : svc.Writes raw (svc.unset raw) := by
  intro s
  unfold unset
  cases hlocate : svc.locate raw with
  | error e => exact Or.inl ⟨e, rfl, Or.inl rfl⟩
  | ok place =>
    obtain ⟨_ | scope, name⟩ := place
    · exact Or.inr ⟨s.store, s.frame.temporaries.erase name, rfl⟩
    · dsimp only [Store.reset, List.findSome?]
      cases hfault : svc.faults.onReset ⟨scope, name⟩ with
      | some e => exact Or.inl ⟨e, rfl, Or.inr ⟨_, Or.inr (Or.inr hfault)⟩⟩
      | none => exact Or.inr ⟨s.store.erase ⟨scope, name⟩, s.frame.temporaries, rfl⟩

end Services

namespace Leads

open Activation (Bound Ready)

variable {svc : Services} {eval : Eval} {n : Nat} {α β : Type} {P P' : Activation → Prop}
  {a : Action α} {f : α → Action β} {Q Q' : α → Activation → Prop} {R : β → Activation → Prop}
  {eager : Nat → Bool}

theorem pure {v : α} (h : ∀ t, P t → Q v t) : Leads svc eval n P (pure v) Q := by
  refine fun t _ ht ↦ ⟨Course.refl _, fun w hw ↦ ?_⟩
  cases hw
  exact h t ht

theorem bind (ha : Leads svc eval n P a Q) (hf : ∀ v, Leads svc eval n (Q v) (f v) R) :
    Leads svc eval n P (a >>= f) R := by
  intro t hn ht
  obtain ⟨hcourse, hvalue⟩ := ha t hn ht
  rw [Action.exec_bind]
  rcases hexec : a.exec svc eval t with ⟨e | v, u⟩
  · rw [hexec] at hcourse
    exact ⟨hcourse, fun w hw ↦ by cases hw⟩
  · rw [hexec] at hcourse hvalue
    have hu : u.state.calls.length = n := by rw [hcourse.keeps.calls, hn]
    obtain ⟨hcourse', hvalue'⟩ := hf v u hu (hvalue v rfl)
    exact ⟨hcourse.trans hcourse', hvalue'⟩

theorem assoc {γ : Type} {g : β → Action γ} {R : γ → Activation → Prop}
    (h : Leads svc eval n P ((a >>= f) >>= g) R) :
    Leads svc eval n P (a >>= fun v ↦ f v >>= g) R := by
  intro t hn ht
  have hexec : (a >>= fun v ↦ f v >>= g).exec svc eval t =
      ((a >>= f) >>= g).exec svc eval t := by
    simp only [Action.exec_bind]
    rcases a.exec svc eval t with ⟨e | v, u⟩
    · rfl
    · rfl
  rw [hexec]
  exact h t hn ht

theorem mono (h : Leads svc eval n P a Q) (hP : ∀ t, P' t → P t) (hQ : ∀ v t, Q v t → Q' v t) :
    Leads svc eval n P' a Q' := by
  intro t hn ht
  obtain ⟨hcourse, hvalue⟩ := h t hn (hP t ht)
  exact ⟨hcourse, fun v hv ↦ hQ v _ (hvalue v hv)⟩

theorem ofBound (h : Leads svc eval n (Bound eager) a Q) : Leads svc eval n (Ready eager) a Q :=
  h.mono (fun _ ht ↦ ht.2) fun _ _ hv ↦ hv

theorem throw (e : Error) (h : ∀ t, P t → t.state.isRunning = true) :
    Leads svc eval n P (throw e) Q :=
  fun t _ ht ↦ ⟨Course.throw e (h t ht), fun v hv ↦ by cases hv⟩

theorem settle {r : Except Error α} (h : ∀ t, P t → t.state.isRunning = true)
    (hQ : ∀ v t, P t → Q v t) : Leads svc eval n P (Action.settle r) Q := by
  cases r with
  | error e => exact throw e h
  | ok v => exact pure (hQ v)

theorem ofOption {e : Error} {o : Option α} (h : ∀ t, P t → t.state.isRunning = true)
    (hQ : ∀ v t, P t → Q v t) : Leads svc eval n P (Action.ofOption e o) Q := by
  cases o with
  | none => exact throw e h
  | some v => exact pure (hQ v)

theorem ask {q : Query} {Q : q.Answer → Activation → Prop}
    (h : ∀ t, t.state.calls.length = n → P t →
      Course svc t.state none (q.answer svc eval t).2.state ∧
      Q (q.answer svc eval t).1 (q.answer svc eval t).2) :
    Leads svc eval n P (Action.ask q) Q := by
  refine fun t hn ht ↦ ⟨(h t hn ht).1, fun v hv ↦ ?_⟩
  cases hv
  exact (h t hn ht).2

theorem read {q : Query} (h : ∀ t, (q.answer svc eval t).2 = t) :
    Leads svc eval n P (Action.ask q) fun _ ↦ P := by
  refine ask fun t _ ht ↦ ?_
  rw [h t]
  exact ⟨Course.refl _, ht⟩

theorem count (slot : Nat) : Leads svc eval n P (Action.count slot) fun _ ↦ P := read fun _ ↦ rfl

theorem isSupplied (slot : Nat) : Leads svc eval n P (Action.isSupplied slot) fun _ ↦ P :=
  read fun _ ↦ rfl

theorem hasFunction (name : String) : Leads svc eval n P (Action.hasFunction name) fun _ ↦ P :=
  read fun _ ↦ rfl

theorem frame : Leads svc eval n P Action.frame fun _ ↦ P := read fun _ ↦ rfl

theorem isRunning : Leads svc eval n (Bound eager) Action.isRunning fun running t ↦
    t.Bound eager ∧ (running = true → t.state.isRunning = true) :=
  ask fun _ _ ht ↦ ⟨Course.refl _, ht, fun h ↦ h⟩

theorem valueAt {i : Nat} (hi : eager i = true) (j : Nat) :
    Leads svc eval n (Ready eager) (Action.valueAt i j) fun _ ↦ Ready eager := by
  refine ask fun t _ ht ↦ ?_
  change Course svc t.state none (t.value eval i j).2.state ∧ Ready eager (t.value eval i j).2
  unfold Activation.value
  cases hat : t.args.at? i j with
  | none => exact ⟨Course.refl _, ht⟩
  | some a =>
    dsimp only
    cases hvalue : a.value? with
    | some text => exact ⟨Course.refl _, ht⟩
    | none =>
      -- Only an omitted argument has no value yet, and its default is plain text.
      have hsettled := ht.2 i hi a (Arguments.mem_all_of_at? hat)
      cases hsource : a.source with
      | code statement => simp [Argument.isSupplied, Argument.statement?, hsource, hvalue] at hsettled
      | default text =>
        simp only [Argument.evaluate, hsource]
        exact ⟨Course.refl _, ht.1, fun k hk ↦ (ht.2 k hk).keep i j text⟩

theorem value {i : Nat} (hi : eager i = true) :
    Leads svc eval n (Ready eager) (Action.value i) fun _ ↦ Ready eager :=
  valueAt hi 0

theorem collect {read : Nat → Action String} (h : ∀ i, Leads svc eval n P (read i) fun _ ↦ P)
    (start count : Nat) : Leads svc eval n P (Action.collect read start count) fun _ ↦ P := by
  induction count generalizing start with
  | zero => exact pure fun _ ht ↦ ht
  | succ count ih => exact (h start).bind fun _ ↦ (ih (start + 1)).bind fun _ ↦ pure fun _ ht ↦ ht

theorem values {i : Nat} (hi : eager i = true) :
    Leads svc eval n (Ready eager) (Action.values i) fun _ ↦ Ready eager :=
  (count i).bind fun m ↦ collect (valueAt hi) 0 m

theorem sources (i : Nat) : Leads svc eval n P (Action.sources i) fun _ ↦ P :=
  (count i).bind fun m ↦ collect (fun _ ↦ read fun _ ↦ rfl) 0 m

theorem act {q : Query} (hargs : ∀ t, (q.answer svc eval t).2.args = t.args)
    (hact : ∀ t, Act svc t.state (q.answer svc eval t).2.state) :
    Leads svc eval n (Ready eager) (Action.ask q) fun _ ↦ Bound eager :=
  ask fun t _ ht ↦ ⟨Course.act ht.1 (hact t), fun i hi ↦ (hargs t).symm ▸ ht.2 i hi⟩

theorem change {q : Query} (hargs : ∀ t, (q.answer svc eval t).2.args = t.args)
    (hchange : ∀ t, Change t.state (q.answer svc eval t).2.state) :
    Leads svc eval n (Ready eager) (Action.ask q) fun _ ↦ Ready eager := by
  refine ask fun t _ ht ↦ ⟨Course.act ht.1 (.change (hchange t)), ?_, ?_⟩
  · exact (hchange t).isRunning_eq ▸ ht.1
  · exact fun i hi ↦ (hargs t).symm ▸ ht.2 i hi

theorem leave (forced : Bool) :
    Leads svc eval n (Ready eager) (Action.leave forced) fun _ ↦ Bound eager :=
  act (fun _ ↦ rfl) fun _ ↦ .leave forced

theorem setQuiet (quiet : Bool) :
    Leads svc eval n (Ready eager) (Action.setQuiet quiet) fun _ ↦ Ready eager :=
  change (fun _ ↦ rfl) fun t ↦ .adjust (some quiet) t.state.frame.fallback?

theorem setFallback (text : Option String) :
    Leads svc eval n (Ready eager) (Action.setFallback text) fun _ ↦ Ready eager :=
  change (fun _ ↦ rfl) fun t ↦ .adjust t.state.frame.quiet? text

theorem pick (length : Nat) :
    Leads svc eval n (Ready eager) (Action.pick length) fun _ ↦ Ready eager :=
  change (fun _ ↦ rfl) fun _ ↦ .draw

theorem shuffle (items : List Value) :
    Leads svc eval n (Ready eager) (Action.shuffle items) fun _ ↦ Ready eager :=
  change (fun _ ↦ rfl) fun _ ↦ .draw

theorem define (name : String) (slot : Nat) :
    Leads svc eval n (Ready eager) (Action.define name slot) fun _ ↦ Ready eager := by
  refine ask fun t _ ht ↦ ?_
  simp only [Query.answer]
  cases (t.args.get? slot).bind Argument.statement? with
  | none => exact ⟨Course.refl _, ht⟩
  | some body => exact ⟨Course.act ht.1 (.change (.define name body)), ht⟩

section Variables

theorem getVariable (name : String) :
    Leads svc eval n (Ready eager) (Action.getVariable name) fun _ t ↦
      t.Ready eager ∧ ∃ place, svc.locate name = .ok place := by
  intro t _ ht
  change Course svc t.state (failure (svc.getVariable name t.state)) t.state ∧
    ∀ v, svc.getVariable name t.state = .ok v → _
  cases hget : svc.getVariable name t.state with
  | error e => exact ⟨Course.throw e ht.1, fun v hv ↦ by cases hv⟩
  | ok v =>
    refine ⟨Course.refl _, fun _ _ ↦ ⟨ht, ?_⟩⟩
    unfold Services.getVariable at hget
    cases hlocate : svc.locate name with
    | error e => simp [hlocate] at hget
    | ok place => exact ⟨place, rfl⟩

theorem write {raw : String} {s : Script (Except Error Unit)}
    {w : State → Except Error State} (hwrite : Services.Writes svc raw w)
    (hs : ∀ t, s.run svc eval t =
      Query.onState t (Services.noteWrite raw false t.state (w t.state))) :
    Leads svc eval n (Ready eager) (Action.demand s) fun _ ↦ Ready eager := by
  intro t _ ht
  have hexec : (Action.demand s).exec svc eval t =
    Query.onState t (Services.noteWrite raw false t.state (w t.state)) := hs t
  rw [hexec]
  rcases hwrite t.state with ⟨e, hw, -⟩ | ⟨store, temporaries, hw⟩
  · rw [hw]
    exact ⟨Course.throw e ht.1, fun v hv ↦ by cases hv⟩
  · rw [hw]
    exact ⟨Course.act ht.1 (.change (.write raw store temporaries)), fun _ _ ↦ ht⟩

theorem setVariable (name : String) (value : Value) :
    Leads svc eval n (Ready eager) (Action.setVariable name value) fun _ ↦ Ready eager :=
  write (Services.writes_assign svc name value) fun _ ↦ rfl

theorem resetVariable (name : String) :
    Leads svc eval n (Ready eager) (Action.resetVariable name) fun _ ↦ Ready eager :=
  write (Services.writes_unset svc name) fun _ ↦ rfl

theorem restoreVariable_cases {name : String} (hname : ∃ place, svc.locate name = .ok place)
    (previous : Option Value) (s : State) :
    (∃ e, svc.faults.Raises e ∧ svc.restoreVariable name previous s = (.error e, s)) ∨
    ∃ store temporaries, svc.restoreVariable name previous s =
      (.ok (), s.written name true store temporaries) := by
  obtain ⟨place, hplace⟩ := hname
  obtain ⟨w, hw, hrestore⟩ : ∃ w, Services.Writes svc name w ∧
      svc.restoreVariable name previous s = Services.noteWrite name true s (w s) := by
    cases previous with
    | none => exact ⟨_, svc.writes_unset name, rfl⟩
    | some value => exact ⟨_, svc.writes_assign name value, rfl⟩
  rw [hrestore]
  rcases hw s with ⟨e, hs, hnowhere | hfault⟩ | ⟨store, temporaries, hs⟩
  · rw [hplace] at hnowhere
    cases hnowhere
  · exact Or.inl ⟨e, hfault, by rw [hs]; rfl⟩
  · exact Or.inr ⟨store, temporaries, by rw [hs]; rfl⟩

theorem restoring {name : String} (hname : ∃ place, svc.locate name = .ok place)
    (previous : Option Value) (h : Leads svc eval n P a Q) :
    Leads svc eval n P (do
      let result ← Action.outcome a
      let restored ← Action.restore name previous
      let v ← Action.settle result
      Action.settle restored
      return some v) fun _ _ ↦ True := by
  intro t hn ht
  refine ⟨?_, fun _ _ ↦ trivial⟩
  have hcourse := (h t hn ht).1
  simp only [Action.exec_bind, Action.exec_outcome]
  rcases hexec : a.exec svc eval t with ⟨r, u⟩
  rw [hexec] at hcourse
  have hrestore : (Action.restore name previous).exec svc eval u =
    (.ok (svc.restoreVariable name previous u.state).1,
      ⟨u.args, (svc.restoreVariable name previous u.state).2⟩) := rfl
  simp only [hrestore]
  rcases restoreVariable_cases hname previous u.state with ⟨e, hfault, hu⟩ | ⟨store, temps, hu⟩
  · rw [hu]
    -- The error of the action itself comes first.
    cases r with
    | error e' => exact hcourse
    | ok v => exact hcourse.trans (Course.fault u.state hfault)
  · rw [hu]
    cases r with
    | error e' => exact hcourse.restore name store temps
    | ok v => exact hcourse.restore name store temps

end Variables

theorem request_cases {α : Type} (look : Directory → Except Error α) (s : State) :
    (∃ e, svc.request look s = (.error e, s)) ∨
    (∃ e, Refuses svc.limits s.tally e ∧ svc.request look s = (.error e, s.note (.refused e))) ∨
    ∃ r, s.usage.used .requests < svc.limits.ceiling .requests ∧
      svc.request look s = (r, (s.charged .requests).note .requested) := by
  unfold Services.request
  cases svc.directory? with
  | none => exact Or.inl ⟨_, rfl⟩
  | some directory =>
    dsimp only
    rw [Services.charge_eq]
    by_cases h : svc.limits.ceiling .requests ≤ s.usage.used .requests
    · rw [if_pos h]
      exact Or.inr (Or.inl ⟨_, .of_used h, rfl⟩)
    · rw [if_neg h]
      exact Or.inr (Or.inr ⟨look directory, by omega, rfl⟩)

theorem request {s : Script (Except Error α)} {look : Directory → Except Error α}
    (hs : ∀ t, s.run svc eval t = Query.onState t (svc.request look t.state)) :
    Leads svc eval n (Ready eager) (Action.demand s) fun _ ↦ Ready eager := by
  intro t _ ht
  have hexec : (Action.demand s).exec svc eval t =
    Query.onState t (svc.request look t.state) := hs t
  rw [hexec]
  rcases request_cases look t.state with ⟨e, hr⟩ | ⟨e, hrefuses, hr⟩ | ⟨r, hbelow, hr⟩
  · rw [hr]
    exact ⟨Course.throw e ht.1, fun v hv ↦ by cases hv⟩
  · rw [hr]
    exact ⟨Course.refuse ht.1 hrefuses, fun v hv ↦ by cases hv⟩
  · rw [hr]
    have hcourse := Course.act ht.1 (Act.request hbelow)
    cases r with
    | error e => exact ⟨hcourse.trans (Course.throw e ht.1), fun v hv ↦ by cases hv⟩
    | ok v => exact ⟨hcourse, fun _ _ ↦ ht⟩

theorem findEntity (kind : EntityKind) (query : String) (byId : Bool) :
    Leads svc eval n (Ready eager) (Action.findEntity kind query byId) fun _ ↦ Ready eager :=
  request fun _ ↦ rfl

theorem listEntities (kind : EntityKind) :
    Leads svc eval n (Ready eager) (Action.listEntities kind) fun _ ↦ Ready eager :=
  request fun _ ↦ rfl

section Evaluations

variable (heval : Follows svc n eval)

include heval

theorem evaluate (a : Argument) {s : State} (hs : s.calls.length = n) :
    Course svc s none (a.evaluate eval s).2 := by
  unfold Argument.evaluate
  cases a.source with
  | code statement => exact heval statement s hs
  | default text => exact Course.refl s

theorem deferred (i j : Nat) :
    Leads svc eval n (Bound eager) (Action.valueAt i j) fun _ ↦ Bound eager := by
  refine ask fun t hn ht ↦ ?_
  change Course svc t.state none (t.value eval i j).2.state ∧ Bound eager (t.value eval i j).2
  unfold Activation.value
  cases t.args.at? i j with
  | none => exact ⟨Course.refl _, ht⟩
  | some a =>
    dsimp only
    cases a.value? with
    | some text => exact ⟨Course.refl _, ht⟩
    | none => exact ⟨evaluate heval a hn, fun k hk ↦ (ht k hk).keep i j _⟩

theorem attempt (i : Nat) :
    Leads svc eval n (Bound eager) (Action.attempt i) fun _ ↦ Bound eager := by
  refine ask fun t hn ht ↦ ?_
  simp only [Query.answer, Activation.attempt, Services.intercept]
  cases t.args.at? i 0 with
  | none => exact ⟨Course.refl _, ht⟩
  | some a =>
    dsimp only
    cases a.value? with
    | some text => exact ⟨Course.refl _, ht⟩
    | none =>
      have hcourse := Course.interception (evaluate heval a (s := t.state.pushCatch) hn)
      dsimp only
      cases (a.evaluate eval t.state.pushCatch).2.caught.getLast? with
      | some e => exact ⟨hcourse, ht⟩
      | none => exact ⟨hcourse, fun k hk ↦ (ht k hk).keep i 0 _⟩

theorem activate (name : String) (params : List String) :
    Leads svc eval n (Ready eager) (Action.activate name params) fun _ ↦ Bound eager := by
  refine ask fun t hn ht ↦ ?_
  simp only [Query.answer]
  cases Services.function? name t.state with
  | none => exact ⟨Course.refl _, ht.2⟩
  | some body =>
    have hbody := heval body (t.state.enter name params) hn
    simp only [activate_eq]
    exact ⟨Course.activation name params ht.1 hbody, ht.2⟩

/-- The body of a loop, after its unit has been counted and perhaps the loop variable set. -/
theorem again {s : State} (hs : s.isRunning = true) (hn : s.calls.length = n)
    (hbelow : s.usage.used .loops < svc.limits.ceiling .loops) {t : Activation}
    (hstate : t.state = s.charged .loops ∨ ∃ raw store temporaries,
      t.state = (s.charged .loops).written raw false store temporaries)
    (ht : t.Bound eager) (i : Nat) :
    Course svc s none (t.again eval i 0).2.state ∧ (t.again eval i 0).2.Bound eager := by
  unfold Activation.again
  cases t.args.at? i 0 with
  | none =>
    have hcharged := Course.act hs (Act.charge .loops hbelow Resource.noConfusion)
    refine ⟨?_, ht⟩
    rcases hstate with hstate | ⟨raw, store, temporaries, hstate⟩
    · rw [hstate]
      exact hcharged
    · rw [hstate]
      exact hcharged.trans (Course.act hs (.change (.write raw store temporaries)))
  | some a =>
    have hstarted := Course.act hs (Act.body hbelow hstate)
    have hcalls : (t.state.note .iterated).calls.length = n := by rw [hstarted.keeps.calls, hn]
    exact ⟨hstarted.trans (evaluate heval a hcalls), ht⟩

omit heval in
theorem iterate {f : Unit → Action β}
    (h : ∀ t : Activation, t.Ready eager → t.state.calls.length = n →
      t.state.usage.used .loops < svc.limits.ceiling .loops →
      let x := (f ()).exec svc eval ⟨t.args, t.state.charged .loops⟩
      Course svc t.state (failure x.1) x.2.state ∧ ∀ v, x.1 = .ok v → R v x.2) :
    Leads svc eval n (Ready eager) (Action.iterate >>= f) R := by
  intro t hn ht
  have hexec : Action.iterate.exec svc eval t = Query.onState t (svc.charge .loops t.state) := rfl
  rw [Action.exec_bind, hexec, Services.charge_eq]
  by_cases hfull : svc.limits.ceiling .loops ≤ t.state.usage.used .loops
  · rw [if_pos hfull]
    exact ⟨Course.refuse ht.1 (.of_used hfull), fun v hv ↦ by cases hv⟩
  · rw [if_neg hfull]
    exact h t ht hn (by omega)

theorem body (i : Nat) : Leads svc eval n (Ready eager)
    (Action.iterate >>= fun _ ↦ Action.again i) fun _ ↦ Bound eager := by
  refine iterate fun t ht hn hbelow ↦ ?_
  have hagain := again heval ht.1 hn hbelow (t := ⟨t.args, t.state.charged .loops⟩) (Or.inl rfl) ht.2 i
  exact ⟨hagain.1, fun _ _ ↦ hagain.2⟩

theorem bodyWith (name : String) (item : Value) (i : Nat) : Leads svc eval n (Ready eager)
    (Action.iterate >>= fun _ ↦ Action.setVariable name item >>= fun _ ↦ Action.again i) fun _ ↦
      Bound eager := by
  refine iterate fun t ht hn hbelow ↦ ?_
  have hset : (Action.setVariable name item).exec svc eval ⟨t.args, t.state.charged .loops⟩ =
    Query.onState ⟨t.args, t.state.charged .loops⟩ (Services.noteWrite name false
      (t.state.charged .loops) (svc.assign name item (t.state.charged .loops))) := rfl
  dsimp only
  rw [Action.exec_bind, hset]
  rcases svc.writes_assign name item (t.state.charged .loops) with ⟨e, hw, -⟩ | ⟨store, temps, hw⟩
  · have hcharged := Course.act ht.1 (Act.charge .loops hbelow Resource.noConfusion)
    rw [hw]
    exact ⟨hcharged.trans (Course.throw e ht.1), fun v hv ↦ by cases hv⟩
  · rw [hw]
    have hagain := again heval ht.1 hn hbelow
      (t := ⟨t.args, (t.state.charged .loops).written name false store temps⟩)
      (Or.inr ⟨name, store, temps, rfl⟩) ht.2 i
    exact ⟨hagain.1, fun _ _ ↦ hagain.2⟩

end Evaluations

end Leads

end BraceScript
