import BraceScript.Proofs.Run.Pairing

namespace BraceScript

def Services.untimed (svc : Services) : Services :=
  { svc with yieldInterval := 0, signal? := none, timeout? := none, clock := fun _ ↦ 0 }

/-- Related states have the same bare part and stay related when the same is done to both. -/
structure IsResemblance (R : State → State → Prop) : Prop where
  bare : ∀ {s t}, R s t → s.bare = t.bare
  absorb : ∀ {s t}, R s t → ∀ u, R (s.absorb u) (t.absorb u)

namespace IsResemblance

variable {Q R : State → State → Prop} (hR : IsResemblance R)

include hR

theorem change {f : State → State} (hf : IsLocalChange f) {s t : State} (hst : R s t) :
    R (f s) (f t) := by
  rw [hf s, hf t, hR.bare hst]
  exact hR.absorb hst _

theorem meets {α : Type} {f : State → α × State} (hf : IsLocal f) : Meets Q R f f := by
  intro s t hst
  rw [hf s, hf t, hR.bare hst]
  exact Or.inl ⟨rfl, hR.absorb hst _⟩

theorem fail {svc svc' : Services} (hplugins : svc.plugins = svc'.plugins)
    (hrecord : ∀ s t err, R s t → R (s.record err) (t.record err)) (name : String) (span : Span)
    (e : Error) : Meets Q R (fail svc name span e) (fail svc' name span e) := by
  intro s t hst
  have hbare := hR.bare hst
  have hframe : s.frame = t.frame := (congrArg State.frame hbare :)
  have hstack : s.stack = t.stack := (congrArg State.stack hbare :)
  have htext : placeholder svc e s = placeholder svc' e t := by
    rw [placeholder, placeholder, hplugins, hframe]
  refine Or.inl ⟨htext, ?_⟩
  rw [fail_eq, fail_eq, hstack]
  have hphase := hR.change (isLocalChange_phase fun phase ↦ if e.isTerminal then .aborted else phase)
    hst
  exact hrecord _ _ _ hphase

end IsResemblance

theorem Query.effect_untimed (svc : Services) {q : Query} (hq : q.isPlain = true) :
    q.effect svc.untimed = q.effect svc := by
  cases q with
  | value | again | attempt | activate | raw | count | supplied | define => cases hq
  | _ => rfl

theorem Pairing.of_resemblance {ι : Type} {svc svc' : Services} {Q : State → State → Prop}
    {R : ι → State → State → Prop} (hsvc : svc.untimed = svc'.untimed)
    (hR : ∀ i, IsResemblance (R i)) (htick : ∀ i, Meets Q (R i) svc.tick svc'.tick)
    (hrecord : ∀ i s t err, R i s t → R i (s.record err) (t.record err))
    (hinterception : ∀ i s t, R i s t → ∃ j, R j s.pushCatch t.pushCatch ∧
      ∀ s' t', R j s' t' → s'.caught.isEmpty = t'.caught.isEmpty ∧ R i s'.popCatch t'.popCatch) :
    Pairing svc svc' Q R where
  plugins := (congrArg Services.plugins hsvc :)
  origin := (congrArg Services.origin hsvc :)
  depth i := by
    have hlimits : svc.limits = svc'.limits := (congrArg Services.limits hsvc :)
    rw [hlimits]
    exact (hR i).meets (isLocal_refuse _)
  running i s t hst := (congrArg State.isRunning ((hR i).bare hst) :)
  function i s t hst name := (congrArg (Services.function? name) ((hR i).bare hst) :)
  tick := htick
  charge i := by
    have hcharge : svc.charge .calls = svc'.charge .calls :=
      (congrArg (Services.charge · .calls) hsvc :)
    rw [hcharge]
    exact (hR i).meets (isLocal_charge svc' .calls)
  fail i := (hR i).fail (congrArg Services.plugins hsvc :) (hrecord i)
  started i s t frame := (hR i).change (isLocalChange_started frame)
  iterated i s t := (hR i).change (isLocalChange_note .iterated)
  call frame i s t hst := ⟨i, (hR i).change (isLocalChange_pushCall frame) hst,
    fun _ _ ↦ (hR i).change isLocalChange_popCall⟩
  activation name params i s t hst := ⟨i, (hR i).change (isLocalChange_enter name params) hst,
    fun _ _ ↦ (hR i).change isLocalChange_exit⟩
  interception := hinterception
  define i s t name body := (hR i).change (isLocalChange_define name body)
  answer i q hq := by
    rw [← Query.effect_untimed svc hq, hsvc, Query.effect_untimed svc' hq]
    exact (hR i).meets (isLocal_effect svc' hq)

end BraceScript
