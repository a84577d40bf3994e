import BraceScript.Proofs.Run.Conduct
import BraceScript.Proofs.Table

namespace BraceScript

namespace Arguments

def sources (args : Arguments) : List (List ArgumentSource) :=
  args.slots.map (·.map Argument.source)

def Supplies (args : Arguments) (statement : Statement) : Prop :=
  ∃ slot ∈ args.sources, .code statement ∈ slot

theorem sources_keep (args : Arguments) (i j : Nat) (value : String) :
    (args.keep i j value).sources = args.sources := by
  have hslot (slot : List Argument) :
      (slot.modify j fun a ↦ { a with value? := some value }).map Argument.source =
        slot.map Argument.source := by
    refine List.ext_getElem? fun k ↦ ?_
    rw [List.getElem?_map, List.getElem?_modify, List.getElem?_map]
    cases slot[k]? with
    | none => rfl
    | some a => by_cases hk : j = k <;> simp [hk]
  refine List.ext_getElem? fun k ↦ ?_
  rw [sources, sources, keep, List.getElem?_map, List.getElem?_modify, List.getElem?_map]
  cases args.slots[k]? with
  | none => rfl
  | some slot => by_cases hk : i = k <;> simp [hk, hslot]

theorem exists_slot_of_at? {args : Arguments} {i j : Nat} {a : Argument} (h : args.at? i j = some a) :
    ∃ slot ∈ args.slots, a ∈ slot := by
  have hmem : a ∈ args.all i := mem_all_of_at? h
  unfold all at hmem
  rw [List.getD_eq_getElem?_getD] at hmem
  cases hslot : args.slots[i]? with
  | none => simp [hslot] at hmem
  | some slot =>
    rw [hslot, Option.getD_some] at hmem
    exact ⟨slot, List.mem_of_getElem? hslot, hmem⟩

theorem supplies_of_at? {args : Arguments} {i j : Nat} {a : Argument} (h : args.at? i j = some a)
    {statement : Statement} (hsource : a.source = .code statement) : args.Supplies statement := by
  obtain ⟨slot, hslot, ha⟩ := exists_slot_of_at? h
  exact ⟨slot.map Argument.source, List.mem_map_of_mem hslot, hsource ▸ List.mem_map_of_mem ha⟩

end Arguments

/-- Whether as many calls and functions are in progress after the event as before it. -/
def Event.isLevel : Event → Bool
  | called _ | finished | entered _ | exited => false
  | _ => true

/-- `t` comes after `s` on the same level: no call was counted as a step or against its ceiling,
entered or left, and no error was reported. -/
structure State.Level (s t : State) : Prop where
  calls : t.calls = s.calls
  outer : t.outer = s.outer
  errors : t.errors = s.errors
  steps : t.steps = s.steps
  counted : t.usage.calls = s.usage.calls
  stopped : s.isRunning = false → t.isRunning = false
  journal : ∃ new, t.journal = new ++ s.journal ∧ ∀ ev ∈ new, ev.isLevel = true

namespace State.Level

theorem refl (s : State) : s.Level s := ⟨rfl, rfl, rfl, rfl, rfl, id, [], rfl, by simp⟩

theorem note (s : State) {ev : Event} (h : ev.isLevel = true) : s.Level (s.note ev) :=
  ⟨rfl, rfl, rfl, rfl, rfl, id, [ev], rfl, by simpa using h⟩

theorem charge (svc : Services) {r : Resource} (hr : r ≠ .calls) (s : State) :
    s.Level (svc.charge r s).2 := by
  rw [Services.charge_eq]
  split
  · exact note s rfl
  · cases r with
    | calls => exact absurd rfl hr
    | loops => exact ⟨rfl, rfl, rfl, rfl, rfl, id, [.charged .loops], rfl, by simp [Event.isLevel]⟩
    | requests =>
      exact ⟨rfl, rfl, rfl, rfl, rfl, id, [.charged .requests], rfl, by simp [Event.isLevel]⟩

theorem leave (forced : Bool) (s : State) : s.Level (Services.leave forced s) := by
  refine ⟨rfl, rfl, rfl, rfl, rfl, fun _ ↦ ?_, [.left forced s.outer.length], rfl,
    by simp [Event.isLevel]⟩
  cases forced <;> rfl

theorem define (name : String) (body : Statement) (s : State) :
    s.Level (Services.define name body s) :=
  ⟨rfl, rfl, rfl, rfl, rfl, id, [.defined (Text.lower name) body], rfl, by simp [Event.isLevel]⟩

theorem noteWrite {svc : Services} {raw : String} {w : State → Except Error State}
    (h : svc.Writes raw w) (restoring : Bool) (s : State) :
    s.Level (Services.noteWrite raw restoring s (w s)).2 := by
  rcases h s with ⟨e, hw, -⟩ | ⟨store, temporaries, hw⟩
  · rw [hw]
    exact refl s
  · rw [hw]
    exact ⟨rfl, rfl, rfl, rfl, rfl, id, [.wrote raw restoring], rfl, by simp [Event.isLevel]⟩

theorem request {α : Type} {svc : Services} (look : Directory → Except Error α) (s : State) :
    s.Level (svc.request look s).2 := by
  rcases @Leads.request_cases svc _ look s with ⟨e, h⟩ | ⟨e, -, h⟩ | ⟨r, -, h⟩
  · rw [h]
    exact refl s
  · rw [h]
    exact note s rfl
  · rw [h]
    exact ⟨rfl, rfl, rfl, rfl, rfl, id, [.requested, .charged .requests], rfl,
      by simp [Event.isLevel]⟩

end State.Level

/-- A question has been answered without the evaluation of a statement. Only code of the call itself
may have become a function. -/
structure Activation.Settles (t u : Activation) : Prop where
  level : t.state.Level u.state
  sources : u.args.sources = t.args.sources
  functions : ∀ f ∈ u.state.functions, f ∈ t.state.functions ∨ t.args.Supplies f.2

namespace Activation.Settles

variable {svc : Services}

theorem of_state {t : Activation} {s : State} (h : t.state.Level s)
    (hfunctions : s.functions = t.state.functions) : t.Settles ⟨t.args, s⟩ :=
  ⟨h, rfl, fun _ hf ↦ Or.inl (hfunctions ▸ hf)⟩

theorem refl (t : Activation) : t.Settles t := of_state (.refl _) rfl

theorem noteWrite {raw : String} {w : State → Except Error State} (h : svc.Writes raw w)
    (restoring : Bool) (t : Activation) :
    t.Settles ⟨t.args, (Services.noteWrite raw restoring t.state (w t.state)).2⟩ := by
  refine of_state (.noteWrite h restoring t.state) ?_
  rcases h t.state with ⟨e, hw, -⟩ | ⟨store, temporaries, hw⟩ <;> rw [hw] <;> rfl

theorem request {α : Type} (look : Directory → Except Error α) (t : Activation) :
    t.Settles ⟨t.args, (svc.request look t.state).2⟩ := by
  refine of_state (.request look t.state) ?_
  rcases @Leads.request_cases svc _ look t.state with ⟨e, h⟩ | ⟨e, -, h⟩ | ⟨r, -, h⟩ <;>
    exact congrArg (·.2.functions) h

end Activation.Settles

/-- What is evaluated for a question, from where, and what is done to the state afterwards. -/
inductive Detour (t : Activation) : Query → Statement → State → (State → State) → Prop
  | reading {q : Query} {statement : Statement} (h : t.args.Supplies statement) :
    Detour t q statement t.state id
  | iteration {q : Query} {statement : Statement} (h : t.args.Supplies statement) :
    Detour t q statement (t.state.note .iterated) id
  | interception {q : Query} {statement : Statement} (h : t.args.Supplies statement) :
    Detour t q statement t.state.pushCatch State.popCatch
  | activation {body : Statement} (name : String) (params : List String)
    (h : Services.function? name t.state = some body) :
    Detour t (.activate name params) body (t.state.enter name params) State.exit

theorem Detour.stacks_eq {t : Activation} {q : Query} {statement : Statement} {s u : State}
    {leave : State → State} (h : Detour t q statement s leave) (hcalls : u.calls = s.calls)
    (houter : u.outer = s.outer) :
    (leave u).calls = t.state.calls ∧ (leave u).outer = t.state.outer := by
  cases h with
  | reading | iteration | interception => exact ⟨hcalls, houter⟩
  | activation name params h =>
    -- The frame that is left is the one that was entered.
    rw [State.exit_eq houter]
    exact ⟨hcalls, rfl⟩

namespace Query

/-- What it takes to answer a question: nothing, or the evaluation of a statement. -/
inductive Need (q : Query) where
  | answered (a : q.Answer) (t : Activation)
  | evaluates (statement : Statement) (s : State) (resume : String → State → q.Answer × Activation)

def Need.meet {q : Query} (eval : Eval) : q.Need → q.Answer × Activation
  | answered a t => (a, t)
  | evaluates statement s resume => resume (eval statement s).1 (eval statement s).2

/-- What it takes to answer a question in a call. -/
def need (svc : Services) : (q : Query) → Activation → q.Need
  | value slot index, t =>
    match t.args.at? slot index with
    | none => .answered "" t
    | some a =>
      match a.value?, a.source with
      | some text, _ => .answered text t
      | none, .default text => .answered text (t.keep slot index text t.state)
      | none, .code statement =>
        .evaluates statement t.state fun text s ↦ (text, t.keep slot index text s)
  | again slot, t =>
    match t.args.at? slot 0 with
    | none => .answered "" t
    | some a =>
      match a.source with
      | .default text => .answered text ⟨t.args, t.state.note .iterated⟩
      | .code statement =>
        .evaluates statement (t.state.note .iterated) fun text s ↦ (text, ⟨t.args, s⟩)
  | attempt slot, t =>
    match t.args.at? slot 0 with
    | none => .answered (some "") t
    | some a =>
      match a.value?, a.source with
      | some text, _ => .answered (some text) t
      | none, .default text => .answered (some text) (t.keep slot 0 text t.state)
      | none, .code statement => .evaluates statement t.state.pushCatch fun text s ↦
          if s.caught.isEmpty then (some text, t.keep slot 0 text s.popCatch)
          else (none, ⟨t.args, s.popCatch⟩)
  | activate name params, t =>
    match Services.function? name t.state with
    | none => .answered "" t
    | some body =>
      .evaluates body (t.state.enter name params) fun text s ↦ (text, ⟨t.args, s.exit⟩)
  | q, t => .answered (q.answer svc (fun _ s ↦ ("", s)) t).1 (q.answer svc (fun _ s ↦ ("", s)) t).2

variable {svc : Services} {t : Activation}

theorem answer_eq_meet (svc : Services) (eval : Eval) (q : Query) (t : Activation) :
    q.answer svc eval t = (q.need svc t).meet eval := by
  cases q with
  | value slot index =>
    simp only [answer, need, Activation.value]
    cases t.args.at? slot index with
    | none => rfl
    | some a =>
      obtain ⟨p, source, value?⟩ := a
      cases value? with
      | some text => rfl
      | none => cases source <;> rfl
  | again slot =>
    simp only [answer, need, Activation.again]
    cases t.args.at? slot 0 with
    | none => rfl
    | some a =>
      obtain ⟨p, source, value?⟩ := a
      cases source <;> rfl
  | attempt slot =>
    cases hat : t.args.at? slot 0 with
    | none => simp only [answer, need, Activation.attempt, hat, Need.meet]
    | some a =>
      obtain ⟨p, source, value?⟩ := a
      cases value? with
      | some text => simp only [answer, need, Activation.attempt, hat, Need.meet]
      | none =>
        rw [answer_attempt svc eval slot hat rfl]
        simp only [need, hat]
        cases source <;> rfl
  | activate name params =>
    simp only [answer, need]
    cases Services.function? name t.state <;> rfl
  | _ => rfl

theorem settles_of_need {q : Query} {a : q.Answer} {u : Activation}
    (h : q.need svc t = .answered a u) : t.Settles u := by
  have hkeep (i j : Nat) (text : String) : t.Settles (t.keep i j text t.state) :=
    ⟨.refl _, Arguments.sources_keep _ _ _ _, fun _ ↦ Or.inl⟩
  cases q with
  | value slot index =>
    simp only [need] at h
    split at h
    · cases h
      exact .refl t
    · split at h <;> cases h
      · exact .refl t
      · exact hkeep _ _ _
  | again slot =>
    simp only [need] at h
    split at h
    · cases h
      exact .refl t
    · split at h <;> cases h
      exact .of_state (.note _ rfl) rfl
  | attempt slot =>
    simp only [need] at h
    split at h
    · cases h
      exact .refl t
    · split at h <;> cases h
      · exact .refl t
      · exact hkeep _ _ _
  | activate name params =>
    simp only [need] at h
    split at h <;> cases h
    exact .refl t
  | define name slot =>
    simp only [need, answer] at h
    cases hbody : (t.args.get? slot).bind Argument.statement? with
    | none =>
      rw [hbody] at h
      cases h
      exact .refl t
    | some body =>
      rw [hbody] at h
      cases h
      obtain ⟨b, hb, hstatement⟩ := Option.bind_eq_some_iff.mp hbody
      have hsource : b.source = .code body := by
        unfold Argument.statement? at hstatement
        split at hstatement <;> cases hstatement
        assumption
      refine ⟨.define name body _, rfl, fun f hf ↦ ?_⟩
      rcases Table.eq_of_mem_set hf with hf | hf
      · exact Or.inl hf
      · exact Or.inr (hf ▸ Arguments.supplies_of_at? hb hsource)
  | leave forced =>
    cases h
    exact .of_state (.leave forced _) rfl
  | iterate =>
    cases h
    refine .of_state (.charge svc Resource.noConfusion _) ?_
    change (svc.charge .loops t.state).2.functions = _
    rw [Services.charge_eq]
    split <;> rfl
  | setVariable name value =>
    cases h
    exact .noteWrite (svc.writes_assign name value) false t
  | resetVariable name =>
    cases h
    exact .noteWrite (svc.writes_unset name) false t
  | restoreVariable name previous =>
    cases h
    cases previous with
    | none => exact .noteWrite (svc.writes_unset name) true t
    | some value => exact .noteWrite (svc.writes_assign name value) true t
  | findEntity kind query byId =>
    cases h
    exact .request (fun d ↦ d.find svc.origin kind query byId) t
  | listEntities kind =>
    cases h
    exact .request (fun d ↦ d.list svc.origin kind) t
  | setQuiet | setFallback | pick | shuffle =>
    cases h
    exact .of_state ⟨rfl, rfl, rfl, rfl, rfl, id, [], rfl, by simp⟩ rfl
  | _ =>
    cases h
    exact .refl t

/-- An evaluation for a question is a detour, and afterwards the arguments still come from where
they came from. -/
theorem detour_of_need {q : Query} {statement : Statement} {s : State}
    {resume : String → State → q.Answer × Activation}
    (h : q.need svc t = .evaluates statement s resume) :
    ∃ leave, Detour t q statement s leave ∧ ∀ text u,
      (resume text u).2.state = leave u ∧ (resume text u).2.args.sources = t.args.sources := by
  have hkeep (i j : Nat) (text : String) (u : State) :
      (t.keep i j text u).args.sources = t.args.sources := Arguments.sources_keep _ _ _ _
  cases q with
  | value slot index =>
    simp only [need] at h
    split at h
    · cases h
    · rename_i a hat
      split at h <;> cases h
      rename_i hsource
      exact ⟨id, .reading (Arguments.supplies_of_at? hat hsource), fun _ _ ↦ ⟨rfl, hkeep _ _ _ _⟩⟩
  | again slot =>
    simp only [need] at h
    split at h
    · cases h
    · rename_i a hat
      split at h <;> cases h
      rename_i hsource
      exact ⟨id, .iteration (Arguments.supplies_of_at? hat hsource), fun _ _ ↦ ⟨rfl, rfl⟩⟩
  | attempt slot =>
    simp only [need] at h
    split at h
    · cases h
    · rename_i a hat
      split at h <;> cases h
      rename_i hsource
      refine ⟨_, .interception (Arguments.supplies_of_at? hat hsource), fun text u ↦ ?_⟩
      dsimp only
      split
      · exact ⟨rfl, hkeep _ _ _ _⟩
      · exact ⟨rfl, rfl⟩
  | activate name params =>
    simp only [need] at h
    split at h <;> cases h
    rename_i hbody
    exact ⟨_, .activation name params hbody, fun _ _ ↦ ⟨rfl, rfl⟩⟩
  | _ => cases h

end Query

end BraceScript
