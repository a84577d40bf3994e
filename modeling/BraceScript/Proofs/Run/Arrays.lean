import BraceScript.Proofs.Run.EagerCalls
import BraceScript.Proofs.Run.Restoration

namespace BraceScript

open Subtags

namespace Services

/-- The variable holds an array with these items, or a text that reads as one. -/
def HoldsItems (svc : Services) (s : State) (name : String) (items : List Value) : Prop :=
  ∃ v, svc.getVariable name s = .ok (some v) ∧
    (v = .list items ∨ ∃ stored, v = .text stored ∧ Value.items? stored = some items)

/-- Both names lead to the same cell, or neither leads to one. -/
def SameVariable (svc : Services) (n m : String) : Prop :=
  ∀ c, svc.locate n = .ok c ↔ svc.locate m = .ok c

variable {svc : Services} {s : State} {n m : String} {items : List Value}

theorem holdsItems_iff : svc.HoldsItems s n items ↔
    ∃ v?, svc.getVariable n s = .ok v? ∧ v?.bind Value.asItems? = some items := by
  have hitems (v : Value) : v.asItems? = some items ↔
      v = .list items ∨ ∃ stored, v = .text stored ∧ Value.items? stored = some items := by
    cases v <;> simp [Value.asItems?]
  constructor
  · rintro ⟨v, hv, h⟩
    exact ⟨some v, hv, (hitems v).mpr h⟩
  · rintro ⟨_ | v, hv, h⟩
    · cases h
    · exact ⟨v, hv, (hitems v).mp h⟩

theorem HoldsItems.exists_cell (h : svc.HoldsItems s n items) : ∃ c, svc.locate n = .ok c := by
  obtain ⟨v, hv, -⟩ := h
  unfold getVariable at hv
  cases hn : svc.locate n with
  | ok c => exact ⟨c, rfl⟩
  | error e =>
    rw [hn] at hv
    cases hv

theorem assign_congr {c : Cell} (hn : svc.locate n = .ok c) (hm : svc.locate m = .ok c)
    (value : Value) (s : State) : svc.assign m value s = svc.assign n value s := by
  unfold assign
  rw [hn, hm]

theorem SameVariable.refl (svc : Services) (n : String) : svc.SameVariable n n := fun _ ↦ Iff.rfl

theorem SameVariable.getVariable_ok_iff (h : svc.SameVariable n m) {v? : Option Value} :
    svc.getVariable n s = .ok v? ↔ svc.getVariable m s = .ok v? := by
  unfold getVariable
  cases hn : svc.locate n with
  | ok c => rw [(h c).mp hn]
  | error e =>
    cases hm : svc.locate m with
    | ok c =>
      rw [(h c).mpr hm] at hn
      cases hn
    | error e' => simp

theorem SameVariable.holdsItems_iff (h : svc.SameVariable n m) :
    svc.HoldsItems s n items ↔ svc.HoldsItems s m items := by
  unfold HoldsItems
  simp only [h.getVariable_ok_iff]

section Reliable

variable (hstore : svc.faults.IsReliable) {c : Cell}

include hstore

theorem holdsItems_poke (hn : svc.locate n = .ok c) (items : List Value) :
    svc.HoldsItems (s.poke (some (.list items)) c) n items := by
  refine ⟨.list items, ?_, Or.inl rfl⟩
  simp [getVariable_eq hstore, hn, Except.map, State.peek_poke]

/-- Where one cell alone holds something, a name that holds an array leads to that cell. -/
theorem locate_of_holdsItems {value? : Option Value}
    (h : svc.HoldsItems (({} : State).poke value? c) m items) : svc.locate m = .ok c := by
  obtain ⟨v, hv, -⟩ := h
  rw [getVariable_eq hstore] at hv
  cases hm : svc.locate m with
  | error e =>
    rw [hm] at hv
    cases hv
  | ok d =>
    rw [hm] at hv
    have hpeek := Except.ok.inj hv
    rw [State.peek_poke] at hpeek
    split at hpeek
    · rename_i hcd
      rw [hcd]
    · obtain ⟨_ | scope, bare⟩ := d <;> cases hpeek

end Reliable

end Services

section Readers

variable {svc : Services} {eval : Eval} {t : Activation} {n : String}

theorem Action.exec_setVariable (value : Value) : (Action.setVariable n value).exec svc eval t =
    ((svc.setVariable n value t.state).1, ⟨t.args, (svc.setVariable n value t.state).2⟩) :=
  rfl

theorem Subtags.exec_resolveArray_iff (hn : Value.items? n = none) {items : List Value}
    {name? : Option String} : ((resolveArray n).exec svc eval t).1 = .ok ⟨items, name?⟩ ↔
      svc.HoldsItems t.state (Text.trim n) items ∧ name? = some (Text.trim n) := by
  have hget : (Action.getVariable (Text.trim n)).exec svc eval t =
      (svc.getVariable (Text.trim n) t.state, t) := rfl
  unfold resolveArray
  rw [hn]
  dsimp only
  rw [Action.exec_bind, hget, Services.holdsItems_iff]
  cases svc.getVariable (Text.trim n) t.state with
  | error e => simp
  | ok v? =>
    dsimp only
    cases hitems : v?.bind Value.asItems? with
    | none =>
      have hthrow : ((throw (.notAnArray n) : Action Listing).exec svc eval t).1 =
          .error (.notAnArray n) := rfl
      simp [hthrow, hitems]
    | some found =>
      have hreturn : ((pure ⟨found, some (Text.trim n)⟩ : Action Listing).exec svc eval t).1 =
          .ok ⟨found, some (Text.trim n)⟩ := rfl
      simp [hreturn, hitems, eq_comm]

theorem Subtags.exec_resolveArray_of_holdsItems (hn : Value.items? n = none) {items : List Value}
    (hitems : svc.HoldsItems t.state (Text.trim n) items) :
    (resolveArray n).exec svc eval t = (.ok ⟨items, some (Text.trim n)⟩, t) :=
  Prod.ext ((exec_resolveArray_iff hn).mpr ⟨hitems, rfl⟩) (exec_resolveArray n)

theorem Subtags.exec_shuffle (hn : Value.items? n = none) (htext : t.args.Holds 0 [n])
    {items : List Value} (hitems : svc.HoldsItems t.state (Text.trim n) items) (c : Invocation) :
    let written := svc.setVariable (Text.trim n)
      (.list (svc.plugins.random.shuffle t.state.draws items)) t.state.drawn
    (shuffle c).exec svc eval t = (written.1.map fun _ ↦ none, ⟨t.args, written.2⟩) := by
  intro written
  have hdraw : (Action.shuffle items).exec svc eval t =
      (.ok (svc.plugins.random.shuffle t.state.draws items), ⟨t.args, t.state.drawn⟩) := rfl
  unfold shuffle
  rw [Action.exec_bind, htext.exec_value]
  dsimp only
  rw [Action.exec_bind, exec_resolveArray_of_holdsItems hn hitems]
  dsimp only
  rw [Action.exec_bind, hdraw]
  dsimp only
  rw [Action.exec_bind, Action.exec_setVariable]
  dsimp only [written]
  rcases svc.setVariable (Text.trim n) (.list (svc.plugins.random.shuffle t.state.draws items))
    t.state.drawn with ⟨e | _, u⟩ <;> rfl

theorem Subtags.exec_set_pair (hstore : svc.faults.IsReliable) (hname : t.args.Holds 0 [n])
    {a b : String} (hvalues : t.args.Holds 1 [a, b]) {cell : Cell} (hcell : svc.locate n = .ok cell)
    (c : Invocation) : (set c).exec svc eval t = (.ok none, ⟨t.args,
      (t.state.poke (some (.list [.text a, .text b])) cell).note (.wrote n false)⟩) := by
  unfold set
  rw [Action.exec_bind, hname.exec_value]
  dsimp only
  rw [Action.exec_bind, hvalues.exec_values]
  dsimp only
  rw [Action.exec_bind, Action.exec_setVariable, Services.setVariable_of_locate hstore _ hcell]
  rfl

theorem Subtags.exec_join (hn : Value.items? n = none) (htext : t.args.Holds 0 [n])
    {separator : String} (hseparator : t.args.Holds 1 [separator]) {items : List Value}
    (hitems : svc.HoldsItems t.state (Text.trim n) items) (c : Invocation) :
    (join c).exec svc eval t =
      (.ok (some (separator.intercalate (items.map Value.render))), t) := by
  unfold join
  rw [Action.exec_bind, htext.exec_value]
  dsimp only
  rw [Action.exec_bind, exec_resolveArray_of_holdsItems hn hitems]
  dsimp only
  rw [Action.exec_bind, hseparator.exec_value]
  rfl

end Readers

/-- An array given as `n` is that of the variable `n`: it is read if that holds one, with the same
items, and a shuffle does what a write to that variable does. -/
structure Services.ArrayFollows (svc : Services) (eval : Eval) (n : String) (t : Activation) :
    Prop where
  found : ∀ items, (∃ name?, ((resolveArray n).exec svc eval t).1 = .ok ⟨items, name?⟩) ↔
    svc.HoldsItems t.state n items
  kept : ((resolveArray n).exec svc eval t).2 = t
  shuffled : t.args.Holds 0 [n] → ∀ items, svc.HoldsItems t.state n items → ∀ c,
    let written := svc.setVariable n (.list (svc.plugins.random.shuffle t.state.draws items))
      t.state.drawn
    ∃ journal, (shuffle c).exec svc eval t =
      (written.1.map fun _ ↦ none, ⟨t.args, { written.2 with journal }⟩)

section Following

variable {svc : Services} {eval : Eval} {n : String} (hn : Value.items? n = none)

include hn

theorem Subtags.found_iff {t : Activation} {items : List Value} :
    (∃ name?, ((resolveArray n).exec svc eval t).1 = .ok ⟨items, name?⟩) ↔
      svc.HoldsItems t.state (Text.trim n) items := by
  simp only [exec_resolveArray_iff hn, exists_and_left, exists_eq, and_true]

theorem Services.SameVariable.arrayFollows (h : svc.SameVariable n (Text.trim n)) (t : Activation) :
    svc.ArrayFollows eval n t where
  found items := (found_iff hn).trans h.holdsItems_iff.symm
  kept := exec_resolveArray n
  shuffled htext items hitems c := by
    obtain ⟨cell, hcell⟩ := hitems.exists_cell
    rw [exec_shuffle hn htext (h.holdsItems_iff.mp hitems) c]
    unfold setVariable
    rw [assign_congr hcell ((h cell).mp hcell)]
    rcases svc.assign n _ t.state.drawn with e | u
    · exact ⟨_, rfl⟩
    · exact ⟨_, rfl⟩

/-- Where the store never fails, a state in which one cell alone holds an array tells two cells
apart. -/
theorem Services.sameVariable_of_arrayFollows (hstore : svc.faults.IsReliable)
    (h : ∀ t, svc.ArrayFollows eval n t) : svc.SameVariable n (Text.trim n) := by
  intro cell
  have hfound := (h ⟨⟨[], []⟩, ({} : State).poke (some (.list [])) cell⟩).found []
  rw [found_iff hn] at hfound
  constructor
  · intro hcell
    exact locate_of_holdsItems hstore (hfound.mpr (holdsItems_poke hstore hcell []))
  · intro hcell
    exact locate_of_holdsItems hstore (hfound.mp (holdsItems_poke hstore hcell []))

end Following

section Calls

def Subtags.setSignature (description : String) : Signature Handler where
  parameters := [⟨"name", .eager, .required⟩, ⟨"values", .eager, .repeated 0⟩]
  description
  handler := .script set
  least := 1

def Subtags.joinSignature (description : String) : Signature Handler where
  parameters := [⟨"array", .eager, .required⟩, ⟨"separator", .eager, .required⟩]
  description
  handler := .script join
  least := 2

theorem Subtags.declares_set : Declares setDeclaration setSignature :=
  ⟨by simp [standardDeclarations, dataDeclarations], _, _, _, rfl, rfl⟩

theorem Subtags.declares_join : Declares joinDeclaration joinSignature :=
  ⟨by simp [standardDeclarations, dataDeclarations], _, _, _, rfl, rfl⟩

theorem Subtags.allRequired_join (description : String) :
    (joinSignature description).AllRequired := by
  simp [Signature.AllRequired, joinSignature]

variable {e : Engine} {r : Request} {s : State} {span : Span}

theorem BoundCall.getVariable_opening {place : Span} {name : String} {args : List Statement}
    (c : BoundCall (e.env r) s (.plain place name) args span) (hplain : c.resolved.2 = c.entered)
    (raw : String) : (e.env r).services.getVariable raw c.opening.state =
      (e.env r).services.getVariable raw s := by
  obtain ⟨hstore, hframe⟩ := tick_variables (e.env r).services s
  have hopening : c.opening.state = _ := BoundCall.opening_of_plain c hplain
  rw [hopening]
  refine Services.getVariable_congr raw hstore ?_
  exact congrArg Frame.temporaries hframe

variable (he : e.Standard)

include he

namespace BoundCall

theorem eval_set_pair (hstore : e.faults.IsReliable) {place : Span} {name n a b : String}
    (c : BoundCall (e.env r) s (.plain place name) ([n, a, b].map (.plain place)) span)
    (hid : c.definition.id = "set") {cell : Cell} (hcell : (e.env r).services.locate n = .ok cell)
    (span' : Span) :
    c.resolved.2 = c.entered ∧
    (e.env r).eval (.mk [.call (.plain place name) ([n, a, b].map (.plain place)) span] span') s =
      ("", ((c.opening.state.poke (some (.list [.text a, .text b])) cell).note
        (.wrote n false)).popCall) := by
  obtain ⟨description, hsignature⟩ := c.signature_of_declares he declares_set hid
  have hslots : c.bound.slots =
      [[.supplied ⟨"name", .eager, .required⟩ (.plain place n)],
        [.supplied ⟨"values", .eager, .repeated 0⟩ (.plain place a),
          .supplied ⟨"values", .eager, .repeated 0⟩ (.plain place b)]] := by
    rw [(Binding.eq_of_bind c.binds).2, hsignature]
    rfl
  have hcode : Argument.codeOf .eager c.bound.slots.flatten = [n, a, b].map (.plain place) := by
    rw [hslots]
    rfl
  have hplain : c.resolved.2 = c.entered := c.resolved_of_plain hcode
  have hstarts : c.resolved.2.isRunning = true := by
    rw [hplain]
    exact c.isRunning_entered
  have heager : ∀ x ∈ c.bound.slots.flatten, x.isEager = true := by
    rw [hslots]
    simp [Argument.isEager, Argument.isSupplied, Argument.statement?, Argument.supplied]
  have hall : c.bound.slots.flatten.filterMap Argument.statement? =
      [n, a, b].map (.plain place) := by
    rw [hslots]
    rfl
  obtain ⟨lists, heach, hlengths, hholds⟩ := c.exists_texts heager hall hstarts
  rw [Env.evalEach_plain _ c.isRunning_entered] at heach
  have hlists : lists = [[n], [a, b]] := by
    rw [List.eq_iff_flatten_eq]
    refine ⟨(Prod.mk.inj heach).1.symm, ?_⟩
    rw [hlengths, hslots]
    rfl
  rw [hlists] at hholds
  refine ⟨hplain, ?_⟩
  rw [c.eval_eq he.scripted, if_pos hstarts,
    c.handled_of_script (congrArg Signature.handler hsignature),
    exec_set_pair hstore (hholds 0) (hholds 1) hcell]
  rfl

theorem eval_join {place : Span} {name n separator : String} (hn : Value.items? n = none)
    (c : BoundCall (e.env r) s (.plain place name) ([n, separator].map (.plain place)) span)
    (hid : c.definition.id = "join") (span' : Span) :
    c.resolved.2 = c.entered ∧
    ∀ items, (e.env r).services.HoldsItems c.opening.state (Text.trim n) items →
      ((e.env r).eval (.mk [.call (.plain place name) ([n, separator].map (.plain place)) span]
        span') s).1 = separator.intercalate (items.map Value.render) := by
  obtain ⟨description, hsignature⟩ := c.signature_of_declares he declares_join hid
  have hrequired : c.signature.AllRequired := hsignature ▸ allRequired_join description
  have heach := Env.evalEach_plain (e.env r) c.isRunning_entered place [n, separator]
  have hplain : c.resolved.2 = c.entered := by rw [c.resolved_of_required hrequired, heach]
  have hstarts : c.resolved.2.isRunning = true := by
    rw [hplain]
    exact c.isRunning_entered
  obtain ⟨texts, htexts, -, hholds⟩ := c.texts_of_required hrequired hstarts
  obtain ⟨rfl, -⟩ := Prod.mk.inj (heach.symm.trans htexts)
  refine ⟨hplain, fun items hitems ↦ ?_⟩
  rw [c.eval_eq he.scripted, if_pos hstarts,
    c.handled_of_script (congrArg Signature.handler hsignature),
    exec_join hn (hholds 0 n rfl) (hholds 1 separator rfl) hitems]
  rfl

end BoundCall

end Calls

/-- Arrays given by name are those of the variable so called just if the name and the trimmed name
lead to the same cell: the trimmed name is what is read. So two texts that a variable is set to are
joined by its name, or else the trimmed name is left as it was. -/
theorem Engine.arrays_named_iff {e : Engine} (he : e.Standard) (r : Request) {n : String}
    (hn : Value.items? n = none) :
    let svc := (e.env r).services
    (∀ t items, (∃ name?, ((resolveArray n).exec svc (e.env r).eval t).1 = .ok ⟨items, name?⟩) ↔
      svc.HoldsItems t.state (Text.trim n) items) ∧
    (svc.SameVariable n (Text.trim n) → ∀ t, svc.ArrayFollows (e.env r).eval n t) ∧
    (e.faults.IsReliable →
      ((∀ t, svc.ArrayFollows (e.env r).eval n t) ↔ svc.SameVariable n (Text.trim n)) ∧
      ∀ (s : State) (setName joinName a b separator : String) (place : Span)
        (c : BoundCall (e.env r) s (.plain place setName) ([n, a, b].map (.plain place)) place),
        c.definition.id = "set" → ∀ cell, svc.locate n = .ok cell →
        let after := ((e.env r).eval
          (.ofCall setName ([n, a, b].map (.plain place)) place place) s).2
        ∀ c' : BoundCall (e.env r) after (.plain place joinName)
            ([n, separator].map (.plain place)) place,
          c'.definition.id = "join" →
          (svc.SameVariable n (Text.trim n) →
            ((e.env r).eval (.ofCall joinName ([n, separator].map (.plain place)) place place)
              after).1 = a ++ separator ++ b) ∧
          (¬svc.SameVariable n (Text.trim n) → svc.getVariable (Text.trim n) c'.opening.state =
            svc.getVariable (Text.trim n) s)) := by
  intro svc
  refine ⟨fun t items ↦ found_iff hn, fun hsame t ↦ hsame.arrayFollows hn t, ?_⟩
  intro hstore
  refine ⟨⟨Services.sameVariable_of_arrayFollows hn hstore, fun hsame t ↦ hsame.arrayFollows hn t⟩,
    ?_⟩
  intro s setName joinName a b separator place c hset cell hcell after c' hjoin
  obtain ⟨hplain, hwritten⟩ := c.eval_set_pair he hstore hset hcell place
  obtain ⟨hplain', hjoined⟩ := c'.eval_join he hn hjoin place
  have hafter (raw : String) : svc.getVariable raw c'.opening.state = svc.getVariable raw
      ((c.opening.state.poke (some (.list [.text a, .text b])) cell).note (.wrote n false)) := by
    rw [c'.getVariable_opening hplain']
    have hstate : after = (((c.opening.state.poke (some (.list [.text a, .text b])) cell).note
        (.wrote n false))).popCall := congrArg Prod.snd hwritten
    rw [hstate]
    exact Services.getVariable_congr raw rfl rfl
  constructor
  · intro hsame
    have hitems : svc.HoldsItems c'.opening.state (Text.trim n) [.text a, .text b] := by
      refine ⟨_, ?_, Or.inl rfl⟩
      rw [hafter]
      exact Services.getVariable_poke hstore _ ((hsame cell).mp hcell) _ _
    exact hjoined _ hitems
  · intro hdiffer
    have hother : svc.locate (Text.trim n) ≠ .ok cell := by
      intro htrim
      refine hdiffer fun d ↦ ?_
      rw [hcell, htrim]
    rw [hafter, Services.getVariable_poke_of_locate_ne hstore hother,
      c.getVariable_opening hplain]

/-- A name with a blank inside: what it is set to is joined. -/
theorem Engine.arrays_named_inner_blank :
    let place : Span := ⟨⟨0, 1, 1⟩, ⟨0, 1, 1⟩⟩
    let plain := Statement.plain place
    ∃ e : Engine, e.Standard ∧ e.faults.IsReliable ∧ Value.items? "my list" = none ∧
      (e.env (.patient {})).services.SameVariable "my list" (Text.trim "my list") ∧
      ∃ after, ((e.env (.patient {})).eval
          (.ofCall "set" (["my list", "a", "b"].map plain) place place) {}).2 = after ∧
        ((e.env (.patient {})).eval
          (.ofCall "join" (["my list", ", "].map plain) place place) after).1 = "a, b" := by
  intro place plain
  obtain ⟨e, hbuild, he, hrun⟩ := exists_standard_of_any (b := { providers := [⟨"", .tag⟩] }) rfl rfl
    (p := fun e ↦
      let after := ((e.env (.patient {})).eval
        (.ofCall "set" (["my list", "a", "b"].map plain) place place) {}).2
      e.scopes.providers == [⟨"", .tag⟩] && after.isRunning && !after.tripped &&
        decide (after.usage.used .calls < 2) && decide (after.calls.length < 1))
    (by decide +kernel)
  simp only [Bool.and_eq_true, decide_eq_true_eq, Bool.not_eq_true'] at hrun
  obtain ⟨⟨⟨⟨hscopes, hrunning⟩, htripped⟩, hused⟩, hcalls⟩ := hrun
  have hstore : e.faults.IsReliable := isReliable_of_build rfl rfl hbuild
  obtain ⟨c, hid, -, -⟩ := he.exists_boundCall (["my list", "a", "b"].map plain) declares_set.mem
    rfl rfl rfl (by decide +kernel : normalize (normalize "set") ∈ _)
    (by decide : 0 < ({} : Limits).maxCalls) (by decide : 0 < ({} : Limits).maxDepth) [] place place
  have hn : Value.items? "my list" = none := by decide +kernel
  have htrim : Text.trim "my list" = "my list" := by decide +kernel
  have hlocate : (e.env (.patient {})).services.locate "my list" =
      .ok (some (.tag ""), "my list") := Services.locate_of_tag (beq_iff_eq.mp hscopes) "my list"
  have hsame : (e.env (.patient {})).services.SameVariable "my list" (Text.trim "my list") := by
    rw [htrim]
    exact .refl _ _
  have hjoined := ((arrays_named_iff he (.patient {}) hn).2.2 hstore).2 {} "set" "join" "a" "b" ", "
    place c hid _ hlocate
  dsimp only at hjoined
  generalize hafter : ((e.env (.patient {})).eval
    (.ofCall "set" (["my list", "a", "b"].map plain) place place) {}).2 = after at *
  have hmay : after.MayCall {} :=
    ⟨Nat.lt_of_lt_of_le hused (by decide), Nat.lt_of_lt_of_le hcalls (by decide)⟩
  obtain ⟨c', hid', -, -⟩ := he.exists_boundCall_at (["my list", ", "].map plain) declares_join.mem
    rfl rfl rfl (by decide +kernel : normalize (normalize "join") ∈ _) hrunning htripped hmay place place
  exact ⟨e, he, hstore, hn, hsame, after, hafter, (hjoined c' hid').1 hsame⟩

/-- The blank before the name is part of it when it is set. -/
theorem Engine.array_not_found_by_name :
    ∃ e : Engine, e.Standard ∧
      (e.execute "\x7bset; n;a;b\x7d\x7bjoin; n;,\x7d" {} []).1.output = "`Not an array`" := by
  obtain ⟨e, -, he, hrun⟩ := exists_standard_of_any (b := { providers := [⟨"", .tag⟩] }) rfl rfl
    (p := fun e ↦ decide ((e.execute "\x7bset; n;a;b\x7d\x7bjoin; n;,\x7d" {} []).1.output =
      "`Not an array`"))
    (by decide +kernel)
  exact ⟨e, he, of_decide_eq_true hrun⟩

end BraceScript
