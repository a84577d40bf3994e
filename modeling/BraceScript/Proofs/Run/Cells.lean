import BraceScript.Proofs.Run.Finality
import BraceScript.Proofs.Run.Storage
import BraceScript.Proofs.Scope.Resolution

namespace BraceScript

def Table.put {κ α : Type} [DecidableEq κ] (t : Table κ α) (key : κ) : Option α → Table κ α
  | some value => t.set key value
  | none => t.erase key

theorem Table.get?_put {κ α : Type} [DecidableEq κ] (t : Table κ α) (key k : κ)
    (value? : Option α) : (t.put key value?).get? k = if key = k then value? else t.get? k := by
  cases value? with
  | some value => exact get?_set t key k value
  | none => exact get?_erase t key k

/-- Where a variable lives: the scope in which it is stored, none for a temporary, and its bare
name. -/
abbrev Cell := Option StorageScope × String

namespace State

def peek (s : State) : Cell → Option Value
  | (none, name) => s.frame.temporaries.get? name
  | (some scope, name) => s.store.get? ⟨scope, name⟩

def poke (s : State) (value? : Option Value) : Cell → State
  | (none, name) => Services.withTemporaries s (·.put name value?)
  | (some scope, name) => { s with store := s.store.put ⟨scope, name⟩ value? }

@[simp] theorem peek_note (s : State) (ev : Event) (c : Cell) : (s.note ev).peek c = s.peek c := by
  obtain ⟨_ | scope, name⟩ := c <;> rfl

theorem peek_poke (s : State) (value? : Option Value) (c d : Cell) :
    (s.poke value? c).peek d = if c = d then value? else s.peek d := by
  obtain ⟨_ | scope, name⟩ := c <;> obtain ⟨_ | scope', name'⟩ := d
  · simp [peek, poke, Services.withTemporaries, Table.get?_put]
  · simp [peek, poke, Services.withTemporaries]
  · simp [peek, poke]
  · simp [peek, poke, Table.get?_put]

structure DiffersAt (c : Cell) (s t : State) : Prop where
  others : ∀ d, d ≠ c → t.peek d = s.peek d
  store : c.1 = none → t.store = s.store
  temporaries : c.1 ≠ none → t.frame.temporaries = s.frame.temporaries
  rest : t = { s with
    frame := { s.frame with temporaries := t.frame.temporaries }
    store := t.store
    journal := t.journal }

theorem differsAt_poke (s : State) (value? : Option Value) (c : Cell) (ev : Event) :
    DiffersAt c s ((s.poke value? c).note ev) := by
  refine ⟨?_, ?_, ?_, ?_⟩
  · intro d hne
    rw [peek_note, peek_poke, if_neg hne.symm]
  all_goals obtain ⟨_ | scope, name⟩ := c <;> simp [poke, note, Services.withTemporaries]

end State

namespace Services

variable {svc : Services}

section Reliable

variable (hstore : svc.faults.IsReliable) (raw : String) (s : State)

include hstore

theorem getVariable_eq : svc.getVariable raw s = (svc.locate raw).map s.peek := by
  unfold getVariable
  rcases svc.locate raw with e | ⟨_ | scope, name⟩
  · rfl
  · rfl
  · simp only [Store.read, (hstore _).1]
    rfl

variable {raw} {c : Cell} (hc : svc.locate raw = .ok c)

include hc

theorem assign_of_locate (value : Value) :
    svc.assign raw value s = .ok (s.poke (some value) c) := by
  unfold assign
  rw [hc]
  obtain ⟨_ | scope, name⟩ := c
  · rfl
  · simp only [Store.write, (hstore _).2.1]
    rfl

theorem unset_of_locate : svc.unset raw s = .ok (s.poke none c) := by
  unfold unset
  rw [hc]
  obtain ⟨_ | scope, name⟩ := c
  · rfl
  · simp only [Store.reset, List.findSome?, (hstore _).2.2]
    rfl

theorem setVariable_of_locate (value : Value) : svc.setVariable raw value s =
    (.ok (), (s.poke (some value) c).note (.wrote raw false)) := by
  simp only [setVariable, assign_of_locate hstore s hc, noteWrite]

theorem resetVariable_of_locate : svc.resetVariable raw s =
    (.ok (), (s.poke none c).note (.wrote raw false)) := by
  simp only [resetVariable, unset_of_locate hstore s hc, noteWrite]

theorem restoreVariable_of_locate (previous : Option Value) :
    svc.restoreVariable raw previous s =
      (.ok (), (s.poke previous c).note (.wrote raw true)) := by
  unfold restoreVariable
  cases previous with
  | some value => simp only [assign_of_locate hstore s hc, noteWrite]
  | none => simp only [unset_of_locate hstore s hc, noteWrite]

theorem getVariable_poke (value? : Option Value) (ev : Event) :
    svc.getVariable raw ((s.poke value? c).note ev) = .ok value? := by
  simp [getVariable_eq hstore, hc, Except.map, State.peek_poke]

end Reliable

theorem locate_eq_ok_iff {raw : String} {c : Cell} :
    svc.locate raw = .ok c ↔
      ∃ kind, svc.scopes.resolve raw = .ok (kind, c.2) ∧ svc.origin.storage kind = .ok c.1 := by
  unfold locate
  rcases svc.scopes.resolve raw with e | ⟨kind, bare⟩
  · simp
  · cases svc.origin.storage kind <;> aesop

theorem locate_of_unavailable {raw bare : String} {kind : ScopeKind} {e : Error}
    (hresolve : svc.scopes.resolve raw = .ok (kind, bare))
    (hstorage : svc.origin.storage kind = .error e) : svc.locate raw = .error e := by
  unfold locate
  simp only [hresolve, hstorage]

theorem locate_of_tag (h : svc.scopes.providers = [⟨"", .tag⟩]) (raw : String) :
    svc.locate raw = .ok (some (.tag svc.origin.tag), raw) := by
  have hresolve : svc.scopes.resolve raw = .ok (.tag, raw) := by
    unfold Scopes.resolve
    rw [h]
    simp [Provider.matchesName, Provider.bareName]
  exact locate_eq_ok_iff.mpr ⟨.tag, hresolve, rfl⟩

end Services

theorem Origin.storage_injective {o : Origin} {kind kind' : ScopeKind}
    {scope? : Option StorageScope} (h : o.storage kind = .ok scope?)
    (h' : o.storage kind' = .ok scope?) : kind = kind' := by
  unfold storage at h h'
  cases kind <;> cases kind' <;> grind

theorem Origin.kind_of_storage {o : Origin} {kind : ScopeKind} {e : Error}
    (h : o.storage kind = .error e) : e.kind = .unknownVariableScope := by
  unfold storage at h
  cases kind <;> grind [Error.unknownScope]

namespace Services

variable {svc : Services} {providers : List Provider}

theorem exists_provider (hscopes : Scopes.ofProviders providers = .ok svc.scopes) (raw : String) :
    ∃ p ∈ providers, ∃ bare, p.lead ++ bare = raw ∧
      svc.scopes.resolve raw = .ok (p.kind, bare) := by
  obtain ⟨hempty, heq⟩ := Scopes.eq_arrange_of_ofProviders hscopes
  obtain ⟨p, hp, hresolve⟩ := Scopes.exists_owns hempty raw
  rw [heq]
  exact ⟨p, hp.mem, _, Provider.lead_append_bareName hp.starts, hresolve⟩

theorem locate_injective (hscopes : Scopes.ofProviders providers = .ok svc.scopes)
    (hkinds : (providers.map Provider.kind).Nodup) {n m : String} {c : Cell}
    (hn : svc.locate n = .ok c) (hm : svc.locate m = .ok c) : n = m := by
  obtain ⟨kind, hresolve, hstorage⟩ := locate_eq_ok_iff.mp hn
  obtain ⟨kind', hresolve', hstorage'⟩ := locate_eq_ok_iff.mp hm
  obtain rfl := Origin.storage_injective hstorage hstorage'
  obtain ⟨hempty, heq⟩ := Scopes.eq_arrange_of_ofProviders hscopes
  rw [heq] at hresolve hresolve'
  exact Scopes.resolve_injective hempty hkinds (hresolve.trans hresolve'.symm)

theorem getVariable_poke_of_locate_ne (hstore : svc.faults.IsReliable) {m : String} {c : Cell}
    (hm : svc.locate m ≠ .ok c) (value? : Option Value) (ev : Event) (s : State) :
    svc.getVariable m ((s.poke value? c).note ev) = svc.getVariable m s := by
  rw [getVariable_eq hstore, getVariable_eq hstore]
  cases hd : svc.locate m with
  | error e => rfl
  | ok d =>
    have hcell : c ≠ d := by
      rintro rfl
      exact hm hd
    simp [Except.map, State.peek_poke, hcell]

theorem getVariable_poke_of_ne (hscopes : Scopes.ofProviders providers = .ok svc.scopes)
    (hkinds : (providers.map Provider.kind).Nodup) (hstore : svc.faults.IsReliable)
    {n m : String} (hne : n ≠ m) {c : Cell} (hn : svc.locate n = .ok c) (value? : Option Value)
    (ev : Event) (s : State) :
    svc.getVariable m ((s.poke value? c).note ev) = svc.getVariable m s :=
  getVariable_poke_of_locate_ne hstore (fun hm ↦ hne (locate_injective hscopes hkinds hn hm)) value?
    ev s

/-- With a store that never fails, a variable whose scope is available is set and removed, and both
change its cell only, which is no other variable's. A variable whose scope is not available is
refused, and nothing changes. -/
theorem variables_independent (hscopes : Scopes.ofProviders providers = .ok svc.scopes)
    (hkinds : (providers.map Provider.kind).Nodup) (hstore : svc.faults.IsReliable)
    {n m : String} (hne : n ≠ m) (value : Value) (s : State) :
    ∃ p ∈ providers, ∃ bare, p.lead ++ bare = n ∧ svc.scopes.resolve n = .ok (p.kind, bare) ∧
      (∀ scope?, svc.origin.storage p.kind = .ok scope? → ∃ assigned removed,
        svc.setVariable n value s = (.ok (), assigned) ∧
        svc.getVariable n assigned = .ok (some value) ∧
        svc.resetVariable n s = (.ok (), removed) ∧ svc.getVariable n removed = .ok none ∧
        ∀ t ∈ [assigned, removed],
          svc.getVariable m t = svc.getVariable m s ∧ s.DiffersAt (scope?, bare) t) ∧
      (∀ e, svc.origin.storage p.kind = .error e → e.kind = .unknownVariableScope ∧
        svc.getVariable n s = .error e ∧ svc.setVariable n value s = (.error e, s) ∧
        svc.resetVariable n s = (.error e, s)) := by
  obtain ⟨p, hp, bare, hlead, hresolve⟩ := exists_provider hscopes n
  refine ⟨p, hp, bare, hlead, hresolve, ?_, ?_⟩
  · intro scope? hstorage
    have hn : svc.locate n = .ok (scope?, bare) := locate_eq_ok_iff.mpr ⟨_, hresolve, hstorage⟩
    have hm (value? : Option Value) (ev : Event) :
        svc.getVariable m ((s.poke value? (scope?, bare)).note ev) = svc.getVariable m s :=
      getVariable_poke_of_ne hscopes hkinds hstore hne hn value? ev s
    refine ⟨_, _, setVariable_of_locate hstore s hn value, getVariable_poke hstore s hn _ _,
      resetVariable_of_locate hstore s hn, getVariable_poke hstore s hn _ _, ?_⟩
    simp only [List.forall_mem_cons, List.not_mem_nil, false_imp_iff, implies_true, and_true]
    exact ⟨⟨hm _ _, s.differsAt_poke ..⟩, hm _ _, s.differsAt_poke ..⟩
  · intro e hstorage
    have hn := locate_of_unavailable hresolve hstorage
    refine ⟨Origin.kind_of_storage hstorage, ?_, ?_, ?_⟩
    · simp only [getVariable, hn]
    · simp only [setVariable, assign, hn, noteWrite]
    · simp only [resetVariable, unset, hn, noteWrite]

/-- The standard leads, for a request without an author: a temporary, a stored variable with the
same bare name, and one whose scope is not available. -/
theorem variables_independent_standard :
    ∃ scopes, Scopes.ofProviders Provider.standard = .ok scopes ∧
      (Provider.standard.map Provider.kind).Nodup ∧
      let svc : Services := { origin := { tag := "t" }, scopes, plugins := .standard }
      let s : State := { store := [(⟨.tag "t", "x"⟩, .text "old")] }
      svc.faults.IsReliable ∧
      (∃ assigned, svc.setVariable "~x" (.text "new") s = (.ok (), assigned) ∧
        svc.getVariable "~x" assigned = .ok (some (.text "new")) ∧
        svc.getVariable "x" assigned = svc.getVariable "x" s ∧ assigned.store = s.store) ∧
      ∃ e, e.kind = .unknownVariableScope ∧ svc.setVariable "@x" (.text "new") s = (.error e, s) := by
  have hempty : ∃ p ∈ Provider.standard, p.lead = "" := ⟨⟨"", .tag⟩, List.mem_cons_self, rfl⟩
  have hleads : (Provider.standard.map Provider.lead).Nodup := by decide
  have hkinds : (Provider.standard.map Provider.kind).Nodup := by decide
  have hscopes := Scopes.ofProviders_of_nodup hempty hleads
  refine ⟨_, hscopes, hkinds, ?_⟩
  intro svc s
  have hsvc : Scopes.ofProviders Provider.standard = .ok svc.scopes := hscopes
  have hstore : svc.faults.IsReliable := fun _ ↦ ⟨rfl, rfl, rfl⟩
  have howns : Scopes.Owns Provider.standard ⟨"~", .temporary⟩ "~x" :=
    ⟨by decide, by decide, by decide⟩
  have howns' : Scopes.Owns Provider.standard ⟨"@", .author⟩ "@x" :=
    ⟨by decide, by decide, by decide⟩
  refine ⟨hstore, ?_, ?_⟩
  · obtain ⟨p, -, bare, -, hp, havailable, -⟩ := variables_independent hsvc hkinds
      hstore (by decide : "~x" ≠ "x") (.text "new") s
    have hsame := hp.symm.trans (Scopes.resolve_of_owns hempty hleads howns)
    obtain ⟨hkind, hbare⟩ := Prod.mk.inj (Except.ok.inj hsame)
    rw [hkind] at havailable
    obtain ⟨assigned, removed, hset, hget, -, -, hothers⟩ := havailable none rfl
    obtain ⟨hm, hdiffers⟩ := hothers assigned List.mem_cons_self
    exact ⟨assigned, hset, hget, hm, hdiffers.store rfl⟩
  · obtain ⟨p, -, bare, -, hp, -, hunavailable⟩ := variables_independent hsvc hkinds
      hstore (by decide : "@x" ≠ "x") (.text "new") s
    have hsame := hp.symm.trans (Scopes.resolve_of_owns hempty hleads howns')
    obtain ⟨hkind, hbare⟩ := Prod.mk.inj (Except.ok.inj hsame)
    rw [hkind] at hunavailable
    obtain ⟨hunknown, -, hset, -⟩ := hunavailable _ rfl
    exact ⟨_, hunknown, hset⟩

end Services

end BraceScript
