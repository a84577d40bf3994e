import BraceScript.Proofs.Run.Pairing

namespace BraceScript

section

variable {σ τ α : Type} {R : State → State → Prop} {f g : State → α × State}

def Coupled (R : σ → τ → Prop) (f : σ → α × σ) (g : τ → α × τ) : Prop :=
  ∀ s t, R s t → (f s).1 = (g t).1 ∧ R (f s).2 (g t).2

def Alike (R : State → State → Prop) (t u : Activation) : Prop :=
  t.args = u.args ∧ R t.state u.state

theorem Coupled.onState (h : Coupled R f g) : Coupled (Alike R)
    (fun t ↦ Query.onState t (f t.state)) (fun u ↦ Query.onState u (g u.state)) := by
  rintro ⟨args, s⟩ ⟨_, t⟩ ⟨rfl, hst⟩
  obtain ⟨hres, hR⟩ := h s t hst
  exact ⟨hres, rfl, hR⟩

theorem Coupled.meets (h : Coupled R f g) (Q : State → State → Prop) : Meets Q R f g :=
  fun s t hst ↦ Or.inl (h s t hst)

theorem Paired.coupled (h : Paired (fun _ _ ↦ False) R f g) : Coupled R f g := by
  intro s t hst
  rcases h.meets s t hst with hmeets | ⟨_, _, hparted, -⟩
  · exact hmeets
  · exact hparted.elim

end

variable {ι : Type} {R : ι → State → State → Prop}

/-- The relations couple all that evaluation does to its state. Calls, functions and interceptions
may use another relation of the family for what is inside of them. -/
structure Coupling (svc svc' : Services) (R : ι → State → State → Prop) : Prop where
  plugins : svc.plugins = svc'.plugins
  origin : svc.origin = svc'.origin
  depth : ∀ i, Coupled (R i) (Services.refuse (α := Option String) svc.limits.depthExceeded)
    (Services.refuse svc'.limits.depthExceeded)
  running : ∀ i s t, R i s t → s.isRunning = t.isRunning
  function : ∀ i s t, R i s t → ∀ name, Services.function? name s = Services.function? name t
  tick : ∀ i, Coupled (R i) svc.tick svc'.tick
  charge : ∀ i, Coupled (R i) (svc.charge .calls) (svc'.charge .calls)
  fail : ∀ i name span e, Coupled (R i) (fail svc name span e) (fail svc' name span e)
  started : ∀ i s t name span, R i s t →
    R i (s.note (.started name span s.calls.length)) (t.note (.started name span t.calls.length))
  iterated : ∀ i s t, R i s t → R i (s.note .iterated) (t.note .iterated)
  call : ∀ frame, Encloses R (·.pushCall frame) State.popCall
  activation : ∀ name params, Encloses R (State.enter name params) State.exit
  interception : ∀ i s t, R i s t → ∃ j, R j s.pushCatch t.pushCatch ∧
    ∀ s' t', R j s' t' → s'.caught.isEmpty = t'.caught.isEmpty ∧ R i s'.popCatch t'.popCatch
  define : ∀ i s t name body, R i s t →
    R i (Services.define name body s) (Services.define name body t)
  answer : ∀ i (q : Query) eval eval', q.isPlain = true →
    Coupled (Alike (R i)) (q.answer svc eval) (q.answer svc' eval')

namespace Coupling

variable {svc svc' : Services} (C : Coupling svc svc' R)

include C

theorem pairing : Pairing svc svc' (fun _ _ ↦ False) R where
  plugins := C.plugins
  origin := C.origin
  depth i := (C.depth i).meets _
  running := C.running
  function := C.function
  tick i := (C.tick i).meets _
  charge i := (C.charge i).meets _
  fail i name span e := (C.fail i name span e).meets _
  started i s t frame := C.started i s t frame.name frame.span
  iterated := C.iterated
  call := C.call
  activation := C.activation
  interception := C.interception
  define := C.define
  answer i q hq s t hst := by
    obtain ⟨hres, -, hR⟩ := C.answer i q (fun _ s ↦ ("", s)) (fun _ s ↦ ("", s)) hq
      ⟨⟨[], []⟩, s⟩ ⟨⟨[], []⟩, t⟩ ⟨rfl, hst⟩
    exact Or.inl ⟨hres, hR⟩

theorem evalAt {registry : Registry Handler} (hscripts : registry.Scripted) (depth : Nat) (i : ι)
    (statement : Statement) :
    Coupled (R i) (evalAt ⟨svc, registry⟩ depth statement)
      (evalAt ⟨svc', registry⟩ depth statement) :=
  (C.pairing.evalAt hscripts (Nat.le_refl depth) (fun hlt ↦ absurd hlt (Nat.lt_irrefl depth)) i
    statement).coupled

end Coupling

end BraceScript
