import BraceScript.Proofs.Run.Derivation
import BraceScript.Proofs.Source.Excerpts

namespace BraceScript

def Statement.IsArgumentIn (a document : Statement) : Prop :=
  ∃ name args span, (Part.call name args span).Within document ∧ a ∈ args

theorem Part.Within.of_mem {document name statement : Statement} {args : List Statement}
    {span : Span} (h : (Part.call name args span).Within document)
    (hstatement : statement ∈ name :: args) {p : Part} (hp : p ∈ statement.parts) :
    p.Within document := by
  obtain ⟨s, hs, hcall⟩ := h
  have hoccurs : statement.OccursIn s := by
    cases s with
    | mk parts span =>
      rcases List.mem_cons.mp hstatement with rfl | hmem
      · exact .name hcall .self
      · exact .arg hcall hmem .self
  exact ⟨statement, hoccurs.trans hs, hp⟩

theorem Statement.IsArgumentIn.within {a document : Statement} (h : a.IsArgumentIn document)
    {p : Part} (hp : p ∈ a.parts) : p.Within document := by
  obtain ⟨name, args, span, hcall, ha⟩ := h
  exact hcall.of_mem (List.mem_cons_of_mem name ha) hp

/-- The functions are code of the document, and the reported errors are those of its calls. -/
structure State.From (document : Statement) (s : State) : Prop where
  functions : ∀ f ∈ s.functions, f.2.IsArgumentIn document
  errors : ∀ err ∈ s.errors, ∃ name args, (Part.call name args err.span).Within document

namespace State.From

variable {document : Statement} {s t : State}

theorem of_eq (h : s.From document) (hfunctions : t.functions = s.functions)
    (herrors : t.errors = s.errors) : t.From document :=
  ⟨hfunctions ▸ h.functions, herrors ▸ h.errors⟩

theorem tick (h : s.From document) (svc : Services) : (svc.tick s).2.From document := by
  obtain ⟨hfunctions, -, herrors, -⟩ := tick_counts svc s
  exact h.of_eq hfunctions herrors

theorem exit (h : s.From document) : s.exit.From document := by
  refine h.of_eq ?_ ?_ <;> unfold State.exit State.popFrame <;> split <;> dsimp only <;> split <;> rfl

theorem conclude (h : s.From document) {name : Statement} {args : List Statement} {span : Span}
    (hcall : (Part.call name args span).Within document) (svc : Services) (text : String)
    (outcome : Outcome) : (conclude svc text span outcome s).2.From document := by
  cases outcome with
  | ok text => exact h
  | error e =>
    change (fail svc text span e s).2.From document
    rw [fail_eq]
    rcases record_cases _ ⟨span, text, e, s.stack⟩ with hrecord | ⟨c, rest, -, -, hrecord⟩
    · rw [hrecord]
      exact ⟨h.functions, List.forall_mem_cons.mpr ⟨⟨name, args, hcall⟩, h.errors⟩⟩
    · rw [hrecord]
      exact ⟨h.functions, h.errors⟩

end State.From

theorem Arguments.supplies_iff {args : Arguments} {statement : Statement} :
    args.Supplies statement ↔ ∃ slot ∈ args.slots, ∃ a ∈ slot, a.source = .code statement := by
  simp [Supplies, sources]

theorem Binding.source_of_assign {parameters : List Parameter} {surplus : Nat}
    {supplied : List Statement} {slot : List Argument}
    (hslot : slot ∈ Binding.assign parameters surplus supplied) {a : Argument} (ha : a ∈ slot)
    {statement : Statement} (hsource : a.source = .code statement) : statement ∈ supplied := by
  have htaken (n : Nat) (list : List Statement) (p : Parameter)
      (h : a ∈ (list.take n).map (Argument.supplied p)) : statement ∈ list := by
    obtain ⟨s, hs, rfl⟩ := List.mem_map.mp h
    cases hsource
    exact List.mem_of_mem_take hs
  induction parameters generalizing surplus supplied with
  | nil => cases hslot
  | cons p parameters ih =>
    unfold Binding.assign at hslot
    split at hslot
    · rcases List.mem_cons.mp hslot with rfl | hslot
      · exact htaken 1 supplied p ha
      · exact List.mem_of_mem_drop (ih hslot)
    · split at hslot
      · rcases List.mem_cons.mp hslot with rfl | hslot
        · exact htaken 1 supplied p ha
        · exact List.mem_of_mem_drop (ih hslot)
      · rcases List.mem_cons.mp hslot with rfl | hslot
        · rw [List.mem_singleton.mp ha] at hsource
          cases hsource
        · exact ih hslot
    · rcases List.mem_cons.mp hslot with rfl | hslot
      · exact htaken _ supplied p ha
      · exact List.mem_of_mem_drop (ih hslot)

theorem Binding.supplied_of_bind {η : Type} {signatures : List (Signature η)}
    {args : List Statement} {signature : Signature η} {bound : Arguments}
    (hbind : Binding.bind signatures args = .ok (signature, bound)) {statement : Statement}
    (h : bound.Supplies statement) : statement ∈ args := by
  obtain ⟨slot, hslot, a, ha, hsource⟩ := Arguments.supplies_iff.mp h
  unfold Binding.bind at hbind
  split at hbind
  · cases hbind
  · cases hbind
    exact source_of_assign hslot ha hsource

theorem Ends.supplied {env : Env} {signatures : List (Signature Handler)} {args : List Statement}
    {signature : Signature Handler} {bound : Arguments} {s : State}
    {a : List (List Argument) × State} (h : Ends env (.slots bound.slots s) a)
    (hbind : Binding.bind signatures args = .ok (signature, bound)) {statement : Statement}
    (hsupplies : Arguments.Supplies { bound with slots := a.1 } statement) : statement ∈ args := by
  have hsources : Arguments.sources { bound with slots := a.1 } = bound.sources := h.keepsSources
  rw [Arguments.Supplies, hsources] at hsupplies
  exact Binding.supplied_of_bind hbind hsupplies

def Task.From (document : Statement) : Task → Prop
  | .parts ps _ => ∀ p ∈ ps, p.Within document
  | .part p _ => p.Within document
  | .invocation _ args span _ => ∃ name, (Part.call name args span).Within document
  | .slot args _ => ∀ a ∈ args, ∀ statement, a.source = .code statement →
      statement.IsArgumentIn document
  | .slots list _ => ∀ slot ∈ list, ∀ a ∈ slot, ∀ statement, a.source = .code statement →
      statement.IsArgumentIn document
  | .script _ t => ∀ statement, t.args.Supplies statement → statement.IsArgumentIn document

theorem Ends.from_document {env : Env} {document : Statement} {k : Task} {r : k.Result}
    (h : Ends env k r) (hk : k.From document) (hs : k.before.From document) :
    (k.after r).From document := by
  induction h with
  | nil | stopped | literal | unknown | slotNil | slotsNil | done => exact hs
  | cons _ _ _ ih ih' =>
    obtain ⟨hpart, hparts⟩ := List.forall_mem_cons.mp hk
    exact ih' hparts (ih hpart hs)
  | cancelled => exact hs.tick _
  | unnamed _ _ _ _ _ ih => exact ih (fun p hp ↦ hk.of_mem List.mem_cons_self hp) (hs.tick _)
  | named _ _ _ _ ih ih' =>
    have hname := ih (fun p hp ↦ hk.of_mem List.mem_cons_self hp) (hs.tick _)
    exact (ih' ⟨_, hk⟩ hname).conclude hk _ _ _
  | uncounted | deep | unbound => exact hs.of_eq rfl rfl
  | unstarted _ _ hbind _ _ ih =>
    obtain ⟨name, hcall⟩ := hk
    refine (ih ?_ (hs.of_eq rfl rfl)).of_eq rfl rfl
    intro slot hslot a ha statement hsource
    have hmem := Binding.supplied_of_bind hbind
      (Arguments.supplies_iff.mpr ⟨slot, hslot, a, ha, hsource⟩)
    exact ⟨name, _, _, hcall, hmem⟩
  | started _ _ hbind hslots _ _ _ ih ih' =>
    obtain ⟨name, hcall⟩ := hk
    have hresolved := ih
      (fun slot hslot a ha statement hsource ↦ ⟨name, _, _, hcall, Binding.supplied_of_bind hbind
        (Arguments.supplies_iff.mpr ⟨slot, hslot, a, ha, hsource⟩)⟩) (hs.of_eq rfl rfl)
    exact (ih' (fun statement hsupplies ↦ ⟨name, _, _, hcall, hslots.supplied hbind hsupplies⟩)
      (hresolved.of_eq rfl rfl)).of_eq rfl rfl
  | eager _ _ hsource _ _ ih ih' =>
    obtain ⟨ha, hargs⟩ := List.forall_mem_cons.mp hk
    exact ih' hargs (ih (fun p hp ↦ (ha _ hsource).within hp) hs)
  | deferred _ _ ih => exact ih (List.forall_mem_cons.mp hk).2 hs
  | slotsCons _ _ ih ih' =>
    obtain ⟨hslot, hslots⟩ := List.forall_mem_cons.mp hk
    exact ih' hslots (ih hslot hs)
  | answered hneed _ ih =>
    have hsettles := Query.settles_of_need hneed
    refine ih (fun statement h ↦ hk statement ?_) ⟨fun f hf ↦ ?_, ?_⟩
    · rwa [Arguments.Supplies, hsettles.sources] at h
    · rcases hsettles.functions f hf with hf | hf
      · exact hs.functions f hf
      · exact hk f.2 hf
    · rw [hsettles.level.errors]
      exact hs.errors
  | evaluated hneed _ _ ih ih' =>
    obtain ⟨leave, hdetour, hresume⟩ := Query.detour_of_need hneed
    refine ih' (fun statement h ↦ hk statement ?_) ?_
    · rwa [Arguments.Supplies, (hresume _ _).2] at h
    · dsimp only [Task.before]
      rw [(hresume _ _).1]
      cases hdetour with
      | reading h => exact ih (fun p hp ↦ (hk _ h).within hp) hs
      | iteration h => exact ih (fun p hp ↦ (hk _ h).within hp) (hs.of_eq rfl rfl)
      | interception h =>
        exact (ih (fun p hp ↦ (hk _ h).within hp) (hs.of_eq rfl rfl)).of_eq rfl rfl
      | activation name params h =>
        -- The body was an argument of the call that defined the function.
        have hbody := hs.functions _ (Table.mem_of_get? h)
        exact (ih (fun p hp ↦ hbody.within hp) (hs.of_eq rfl rfl)).exit

namespace Engine

variable {e : Engine}

theorem run_from_document (he : e.Standard) (document : Statement) (r : Request) (store : Store) :
    (e.run document r store).2.From document :=
  ((e.env r).ends_eval he.scripted document (initial r store)).from_document
    (fun _ hp ↦ ⟨document, .self, hp⟩) ⟨by simp [initial], by simp [initial]⟩

/-- Every reported error has the place of a call of the document, whose text there is a single call
in braces. -/
theorem errors_located (he : e.Standard) (source : String) (r : Request) (store : Store) :
    ∀ err ∈ (e.execute source r store).1.errors,
      (∃ name args, (Part.call name args err.span).Within (parse source)) ∧
      ∃ inner, err.span.Covers source ("\x7b" ++ inner ++ "\x7d") ∧
        ∃ name args span, (parse ("\x7b" ++ inner ++ "\x7d")).parts = [.call name args span] := by
  intro err herr
  have hmem : err ∈ (e.run (parse source) r store).2.errors := List.mem_reverse.mp herr
  obtain ⟨name, args, hwithin⟩ := (run_from_document he (parse source) r store).errors err hmem
  exact ⟨⟨name, args, hwithin⟩, excerpt_of_within hwithin⟩

/-- Errors of a function body in a loop, of a catch branch, of a computed name and of the call that
has this name. -/
theorem errors_located_everywhere :
    let source := "\x7bfunction;f;\x7bthrow;x\x7d\x7d\x7brepeat;\x7bfunc.f\x7d;2\x7d" ++
      "\x7btry;\x7bthrow\x7d;\x7bthrow;y\x7d\x7d\x7b\x7bthrow;z\x7d\x7d"
    ∃ e : Engine, e.Standard ∧ (e.execute source {} []).1.errors.length = 5 ∧
      ∀ err ∈ (e.execute source {} []).1.errors,
        ∃ inner, err.span.Covers source ("\x7b" ++ inner ++ "\x7d") := by
  intro source
  obtain ⟨e, -, he, hrun⟩ := exists_standard_of_any (b := { providers := [⟨"", .tag⟩] }) rfl rfl
    (p := fun e ↦ decide ((e.execute source {} []).1.errors.length = 5)) (by decide +kernel)
  refine ⟨e, he, of_decide_eq_true hrun, fun err herr ↦ ?_⟩
  obtain ⟨-, inner, hcovers, -⟩ := errors_located he source {} [] err herr
  exact ⟨inner, hcovers⟩

end Engine

end BraceScript
