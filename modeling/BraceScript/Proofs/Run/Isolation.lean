import BraceScript.Proofs.Run.Coupling
import BraceScript.Proofs.Run.Standard
import BraceScript.Proofs.Run.Storage

namespace BraceScript

def State.withStore (s : State) (store : Store) : State := { s with store }

def IgnoresStore {α : Type} (f : State → α × State) : Prop :=
  ∀ s store, f (s.withStore store) = ((f s).1, (f s).2.withStore store)

section

variable (svc : Services)

theorem yieldIfDue_withStore (s : State) (store : Store) :
    svc.yieldIfDue (s.withStore store) = (svc.yieldIfDue s).withStore store := by
  unfold Services.yieldIfDue State.withStore
  dsimp only
  split <;> rfl

theorem ignoresStore_look : IgnoresStore svc.look := by
  intro s store
  have hsignal : svc.isSignalled (s.withStore store) = svc.isSignalled s := rfl
  unfold Services.look
  rw [hsignal]
  split <;> rfl

theorem ignoresStore_tick : IgnoresStore svc.tick := by
  intro s store
  have hstep : (s.withStore store).stepped = s.stepped.withStore store := rfl
  rw [tick_eq, tick_eq, hstep, yieldIfDue_withStore, ignoresStore_look]

theorem ignoresStore_charge (r : Resource) : IgnoresStore (svc.charge r) := by
  intro s store
  unfold Services.charge State.withStore
  dsimp only
  split <;> rfl

theorem record_withStore (s : State) (e : LocatedError) (store : Store) :
    (s.withStore store).record e = (s.record e).withStore store := by
  unfold State.record State.withStore
  dsimp only [State.note]
  split
  · split <;> rfl
  · rfl

theorem exit_withStore (s : State) (store : Store) :
    (s.withStore store).exit = s.exit.withStore store := by
  have hpop : (s.withStore store).popFrame = s.popFrame.withStore store := by
    unfold State.popFrame State.withStore
    dsimp only
    split <;> rfl
  unfold State.exit
  rw [hpop]
  change State.note (if s.popFrame.phase = .returning then _ else _) _ = _
  split <;> rfl

theorem ignoresStore_fail (name : String) (span : Span) (e : Error) :
    IgnoresStore (fail svc name span e) := by
  intro s store
  unfold fail
  dsimp only
  split
  · exact Prod.ext rfl (record_withStore { s with phase := .aborted } _ store)
  · exact Prod.ext rfl (record_withStore s _ store)

theorem ignoresStore_request {α : Type} (ask : Directory → Except Error α) :
    IgnoresStore (svc.request ask) := by
  intro s store
  have hcharge := ignoresStore_charge svc .requests s store
  unfold Services.request
  cases svc.directory? with
  | none => rfl
  | some directory =>
    dsimp only
    rw [hcharge]
    obtain ⟨_ | _, s⟩ := svc.charge .requests s <;> rfl

end

/-- States that are equal except for their stores, of which the parts within reach are equal, and
the part of the first beyond reach is that of `base`. -/
structure Veiled (o : Origin) (base : Store) (s t : State) : Prop where
  rest : t = s.withStore t.store
  within : s.store.AgreeOn o.Reaches t.store
  beyond : base.AgreeOn (fun scope ↦ ¬o.Reaches scope) s.store

namespace Veiled

variable {svc : Services} {base : Store} {s t : State}

theorem coupled {α : Type} {o : Origin} {f : State → α × State} (hf : IgnoresStore f) :
    Coupled (Veiled o base) f f := by
  intro s t h
  have hs : (f s).2.store = s.store := congrArg (fun x ↦ x.2.store) (hf s s.store)
  have ht : f t = ((f s).1, (f s).2.withStore t.store) := by rw [← hf s t.store, ← h.rest]
  rw [ht]
  exact ⟨rfl, rfl, hs ▸ h.within, hs ▸ h.beyond⟩

theorem update {o : Origin} (h : Veiled o base s t) (f : State → State)
    (hf : ∀ s store, f (s.withStore store) = (f s).withStore store) : Veiled o base (f s) (f t) :=
  (coupled (f := fun s ↦ ((), f s)) (fun s store ↦ Prod.ext rfl (hf s store)) s t h).2

theorem getVariable (raw : String) :
    Coupled (Veiled svc.origin base) (fun s ↦ (svc.getVariable raw s, s))
      (fun t ↦ (svc.getVariable raw t, t)) := by
  refine fun s t h ↦ ⟨?_, h⟩
  simp only [Services.getVariable]
  rw [h.rest]
  split
  · rfl
  · rfl
  · rename_i scope name hlocate
    have hget := h.within ⟨scope, name⟩ (Services.reaches_of_locate hlocate)
    simp only [Store.read, State.withStore, hget]

theorem withStore {o : Origin} (h : Veiled o base s t) {store store' : Store}
    (hwithin : store.AgreeOn o.Reaches store')
    (hbeyond : base.AgreeOn (fun scope ↦ ¬o.Reaches scope) store) :
    Veiled o base (s.withStore store) (t.withStore store') :=
  ⟨by rw [h.rest]; rfl, hwithin, hbeyond⟩

def SameWrite (o : Origin) (base : Store) : Except Error State → Except Error State → Prop
  | .ok s, .ok t => Veiled o base s t
  | .error e, .error e' => e = e'
  | _, _ => False

theorem assign (raw : String) (value : Value) (h : Veiled svc.origin base s t) :
    SameWrite svc.origin base (svc.assign raw value s) (svc.assign raw value t) := by
  unfold Services.assign
  split
  · rfl
  · rename_i name hlocate
    exact h.update (Services.withTemporaries · (·.set name value)) fun _ _ ↦ rfl
  · rename_i scope name hlocate
    have hreach := Services.reaches_of_locate hlocate
    unfold Store.write
    cases svc.faults.onSet ⟨scope, name⟩ with
    | some e => rfl
    | none =>
      exact h.withStore (h.within.set _ value)
        (h.beyond.set_right (fun hbeyond ↦ hbeyond hreach) value)

theorem unset (raw : String) (h : Veiled svc.origin base s t) :
    SameWrite svc.origin base (svc.unset raw s) (svc.unset raw t) := by
  unfold Services.unset
  split
  · rfl
  · rename_i name hlocate
    exact h.update (Services.withTemporaries · (·.erase name)) fun _ _ ↦ rfl
  · rename_i scope name hlocate
    have hreach := Services.reaches_of_locate hlocate
    unfold Store.reset
    cases [name].findSome? fun name ↦ svc.faults.onReset ⟨scope, name⟩ with
    | some e => rfl
    | none =>
      exact h.withStore (h.within.erase _) (h.beyond.erase_right fun hbeyond ↦ hbeyond hreach)

theorem noteWrite {o : Origin} (raw : String) (restoring : Bool) {write : State → Except Error State}
    (hwrite : ∀ s t, Veiled o base s t → SameWrite o base (write s) (write t)) :
    Coupled (Veiled o base) (fun s ↦ Services.noteWrite raw restoring s (write s))
      (fun t ↦ Services.noteWrite raw restoring t (write t)) := by
  intro s t h
  have hsame := hwrite s t h
  dsimp only
  match write s, write t, hsame with
  | .error e, .error _, rfl => exact ⟨rfl, h⟩
  | .ok s, .ok t, hst => exact ⟨rfl, hst.update (·.note (.wrote raw restoring)) fun _ _ ↦ rfl⟩

theorem restoreVariable (raw : String) (previous : Option Value) :
    Coupled (Veiled svc.origin base) (svc.restoreVariable raw previous)
      (svc.restoreVariable raw previous) := by
  cases previous with
  | some value => exact noteWrite raw true fun s t h ↦ h.assign raw value
  | none => exact noteWrite raw true fun s t h ↦ h.unset raw

theorem answer (q : Query) (eval eval' : Eval) (hq : q.isPlain = true) :
    Coupled (Alike (Veiled svc.origin base)) (q.answer svc eval) (q.answer svc eval') := by
  cases q with
  | value | again | attempt | activate | raw | count | supplied | define => cases hq
  | iterate => exact (coupled (ignoresStore_charge svc .loops)).onState
  | getVariable name => exact (getVariable name).onState
  | setVariable name value =>
    exact (noteWrite name false fun s t h ↦ h.assign name value).onState
  | resetVariable name => exact (noteWrite name false fun s t h ↦ h.unset name).onState
  | restoreVariable name previous => exact (restoreVariable name previous).onState
  | findEntity => exact (coupled (ignoresStore_request svc _)).onState
  | listEntities => exact (coupled (ignoresStore_request svc _)).onState
  | running => exact (coupled (f := fun s ↦ (s.isRunning, s)) fun _ _ ↦ rfl).onState
  | hasFunction name =>
    exact (coupled (f := fun s ↦ ((Services.function? name s).isSome, s)) fun _ _ ↦ rfl).onState
  | frame => exact (coupled (f := fun s ↦ (s.frame, s)) fun _ _ ↦ rfl).onState
  | leave forced =>
    exact (coupled (f := fun s ↦ ((), Services.leave forced s)) fun _ _ ↦ rfl).onState
  | setQuiet quiet =>
    exact (coupled (f := fun s ↦ ((), { s with frame := { s.frame with quiet? := some quiet } }))
      fun _ _ ↦ rfl).onState
  | setFallback text =>
    exact (coupled (f := fun s ↦ ((), { s with frame := { s.frame with fallback? := text } }))
      fun _ _ ↦ rfl).onState
  | pick length =>
    exact (coupled (f := fun s ↦
      (svc.plugins.random.index s.draws length, { s with draws := s.draws + 1 }))
      fun _ _ ↦ rfl).onState
  | shuffle items =>
    exact (coupled (f := fun s ↦
      (svc.plugins.random.shuffle s.draws items, { s with draws := s.draws + 1 }))
      fun _ _ ↦ rfl).onState

theorem coupling (svc : Services) (base : Store) :
    Coupling svc svc fun _ : Unit ↦ Veiled svc.origin base where
  plugins := rfl
  origin := rfl
  depth _ := coupled fun _ _ ↦ rfl
  running _ _ _ h := by rw [h.rest]; rfl
  function _ _ _ h _ := by rw [h.rest]; rfl
  tick _ := coupled (ignoresStore_tick svc)
  charge _ := coupled (ignoresStore_charge svc .calls)
  fail _ name span e := coupled (ignoresStore_fail svc name span e)
  started _ _ _ name span h :=
    h.update (fun s ↦ s.note (.started name span s.calls.length)) fun _ _ ↦ rfl
  iterated _ _ _ h := h.update (·.note .iterated) fun _ _ ↦ rfl
  call frame i _ _ h :=
    ⟨i, h.update (·.pushCall frame) fun _ _ ↦ rfl,
      fun _ _ h ↦ h.update State.popCall fun _ _ ↦ rfl⟩
  activation name params i _ _ h :=
    ⟨i, h.update (State.enter name params) fun _ _ ↦ rfl,
      fun _ _ h ↦ h.update State.exit exit_withStore⟩
  interception i _ _ h :=
    ⟨i, h.update State.pushCatch fun _ _ ↦ rfl, fun _ _ h ↦
      ⟨by rw [h.rest]; rfl, h.update State.popCatch fun _ _ ↦ rfl⟩⟩
  define _ _ _ name body h := h.update (Services.define name body) fun _ _ ↦ rfl
  answer _ q eval eval' hq := answer q eval eval' hq

end Veiled

/-- Variables beyond the reach of a request stay as they are, and the execution does not depend on
them. -/
theorem Engine.execute_isolated {e : Engine} (he : e.Standard) (source : String) (r : Request)
    (store : Store) :
    store.AgreeOn (fun scope ↦ ¬r.origin.Reaches scope) (e.execute source r store).2 ∧
    ∀ store', store.AgreeOn r.origin.Reaches store' →
      (e.execute source r store).1 = (e.execute source r store').1 ∧
      (e.execute source r store).2.AgreeOn r.origin.Reaches (e.execute source r store').2 := by
  -- Compared with itself, a run keeps what is beyond reach; compared with another, it agrees.
  have hrun : ∀ store', store.AgreeOn r.origin.Reaches store' →
      (e.run (parse source) r store).1 = (e.run (parse source) r store').1 ∧
      Veiled r.origin store (e.run (parse source) r store).2
        (e.run (parse source) r store').2 := by
    intro store' hagree
    have hinitial : Veiled r.origin store (initial r store) (initial r store') :=
      ⟨rfl, hagree, Store.AgreeOn.refl _ store⟩
    exact (Veiled.coupling (e.env r).services store).evalAt he.scripted _ () (parse source) _ _
      hinitial
  refine ⟨(hrun store (Store.AgreeOn.refl _ store)).2.beyond, fun store' hagree ↦ ?_⟩
  obtain ⟨houtput, hveiled⟩ := hrun store' hagree
  refine ⟨?_, hveiled.within⟩
  simp only [execute]
  rw [houtput, hveiled.rest]
  rfl

/-- A document of tag `t` copies its own variable, whatever tag `u` has stored. -/
theorem Engine.execute_isolated_from_tag :
    let r : Request := { origin := { tag := "t" } }
    let source := "\x7bset;*y;\x7bget;x\x7d\x7d"
    let store (text : String) : Store :=
      [(⟨.tag "t", "x"⟩, .text "own"), (⟨.tag "u", "x"⟩, .text text)]
    ∃ e : Engine, e.Standard ∧ (store "one").AgreeOn r.origin.Reaches (store "two") ∧
      (store "one").AgreeOn (fun scope ↦ ¬r.origin.Reaches scope)
        (e.execute source r (store "one")).2 ∧
      (e.execute source r (store "one")).1 = (e.execute source r (store "two")).1 ∧
      (e.execute source r (store "one")).2.AgreeOn r.origin.Reaches
        (e.execute source r (store "two")).2 := by
  intro r source store
  obtain ⟨e, -, he⟩ := exists_standard (b := {}) rfl rfl Scopes.exists_ofProviders_standard
  have hagree : (store "one").AgreeOn r.origin.Reaches (store "two") := by
    rintro ⟨scope, name⟩ hreach
    have hscope : scope ≠ .tag "u" := by
      rintro rfl
      have htag : "u" = "t" := hreach
      exact absurd htag (by decide)
    have hne : (⟨.tag "u", "x"⟩ : Variable) ≠ ⟨scope, name⟩ := fun h ↦
      hscope (congrArg Variable.scope h).symm
    simp only [store, Table.get?, hne, if_false]
  obtain ⟨hbeyond, hsame⟩ := execute_isolated he source r (store "one")
  exact ⟨e, he, hagree, hbeyond, hsame (store "two") hagree⟩

end BraceScript
