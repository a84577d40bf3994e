import BraceScript.Proofs.Run.Places
import BraceScript.Proofs.Run.Unrolling

namespace BraceScript

def Limits.callsExceeded (l : Limits) : Error := .limitExceeded "subtag calls" l.maxCalls

inductive Event.Stops (l : Limits) : Event → Prop
  | calls : Stops l (.refused l.callsExceeded)
  | depth : Stops l (.refused l.depthExceeded)
  | cancelled : Stops l .cancelled

namespace State

/-- The state without its journal and what is counted at each call. -/
def uncalled (s : State) : State :=
  { s with
    usage := { s.usage with calls := 0 }
    tripped := false
    steps := 0
    yields := 0
    journal := [] }

/-- A call has been refused since the state was `s`, or the run has been cancelled. -/
def StoppedSince (l : Limits) (s t : State) : Prop := ∃ ev, Event.Stops l ev ∧ s.NotedSince ev t

theorem StoppedSince.later {l : Limits} {s t u : State} (h : s.StoppedSince l t)
    (h' : t.Precedes u) : s.StoppedSince l u := by
  obtain ⟨ev, hev, hnoted⟩ := h
  exact ⟨ev, hev, hnoted.later h'⟩

theorem StoppedSince.earlier {l : Limits} {s t u : State} (h : t.StoppedSince l u)
    (h' : s.Precedes t) : s.StoppedSince l u := by
  obtain ⟨ev, hev, hnoted⟩ := h
  exact ⟨ev, hev, hnoted.earlier h'⟩

theorem uncalled_yieldIfDue (svc : Services) (s : State) :
    (svc.yieldIfDue s).uncalled = s.uncalled := by
  unfold Services.yieldIfDue
  split <;> rfl

theorem uncalled_tick {svc : Services} {s : State} (h : (svc.tick s).1 = true) :
    (svc.tick s).2.uncalled = s.uncalled := by
  rcases tick_cases svc s with htick | htick
  · rw [htick]
    exact uncalled_yieldIfDue svc s.stepped
  · rw [htick] at h
    cases h

theorem StoppedSince.tick {svc : Services} {s : State} (h : (svc.tick s).1 = false) :
    s.StoppedSince svc.limits (svc.tick s).2 := by
  rcases tick_cases svc s with htick | htick
  · rw [htick] at h
    cases h
  · have hstepped : s.Precedes s.stepped := .of_journal [.stepped] rfl rfl
    have hyielded := hstepped.trans (.yieldIfDue svc s.stepped)
    rw [htick]
    exact ⟨.cancelled, .cancelled, hyielded.notedSince rfl⟩

end State

/-- Two states of runs that started in `start`, the same but for what is counted at each call. -/
structure Recounted (start s t : State) : Prop where
  left : start.Precedes s
  right : start.Precedes t
  same : s.uncalled = t.uncalled

def Recounted.Parts (l : Limits) (start s t : State) : Prop :=
  start.StoppedSince l s ∨ start.StoppedSince l t

namespace Recounted

variable {start s t : State}

theorem isMetering (start : State) : IsMetering (Recounted start) where
  same h := (congrArg State.unmetered h.same :)
  later {s t u v} h hu hv hsame hmeters hmeters' := by
    have huncalled (s : State) : s.uncalled = s.unmetered.metered
        ⟨{ s.meters.usage with calls := 0 }, false, 0, 0⟩ := rfl
    refine ⟨h.left.trans hu, h.right.trans hv, ?_⟩
    rw [huncalled u, huncalled v, hsame, hmeters, hmeters']
    exact (congrArg (v.unmetered.metered ·.meters) h.same :)

theorem meets_tick (svc : Services) :
    Meets (Parts svc.limits start) (Recounted start) svc.tick svc.tick := by
  intro s t h
  cases hs : (svc.tick s).1 with
  | false => exact Or.inr (.of (Or.inl ((State.StoppedSince.tick hs).earlier h.left)))
  | true =>
    cases ht : (svc.tick t).1 with
    | false => exact Or.inr (.of (Or.inr ((State.StoppedSince.tick ht).earlier h.right)))
    | true =>
      refine Or.inl ⟨rfl, h.left.trans (.tick svc s), h.right.trans (.tick svc t), ?_⟩
      rw [State.uncalled_tick hs, State.uncalled_tick ht, h.same]

theorem charged (h : Recounted start s t) (r : Resource) :
    Recounted start (s.charged r) (t.charged r) where
  left := h.left.trans (.of_journal [.charged r] rfl rfl)
  right := h.right.trans (.of_journal [.charged r] rfl rfl)
  same := by
    have huncalled (s : State) : (s.uncalled.charged r).uncalled = (s.charged r).uncalled := by
      cases r <;> rfl
    rw [← huncalled s, ← huncalled t, h.same]

theorem meets_call (svc : Services) :
    Meets (Parts svc.limits start) (Recounted start) (svc.charge .calls) (svc.charge .calls) := by
  intro s t h
  have hrefused {s : State} (hs : start.Precedes s) : start.StoppedSince svc.limits
      (Services.refuse (α := Unit) svc.limits.callsExceeded s).2 :=
    ⟨_, .calls, hs.notedSince rfl⟩
  rw [Services.charge_eq, Services.charge_eq]
  by_cases hs : svc.limits.ceiling .calls ≤ s.usage.used .calls
  · rw [if_pos hs]
    exact Or.inr (.of (Or.inl (hrefused h.left)))
  · by_cases ht : svc.limits.ceiling .calls ≤ t.usage.used .calls
    · rw [if_pos ht]
      exact Or.inr (.of (Or.inr (hrefused h.right)))
    · rw [if_neg hs, if_neg ht]
      exact Or.inl ⟨rfl, h.charged .calls⟩

theorem meets_charge (svc : Services) {r : Resource} (hr : r ≠ .calls) {Q : State → State → Prop} :
    Meets Q (Recounted start) (svc.charge r) (svc.charge r) := by
  intro s t h
  have hused : s.usage.used r = t.usage.used r := by
    cases r with
    | calls => exact absurd rfl hr
    | loops => exact (congrArg (·.usage.loops) h.same :)
    | requests => exact (congrArg (·.usage.requests) h.same :)
  rw [Services.charge_eq, Services.charge_eq, hused]
  split
  · exact Or.inl ⟨rfl, (isMetering start).change (isLocalChange_note _).precedes
      (fun _ ↦ ⟨rfl, rfl, rfl⟩) h⟩
  · exact Or.inl ⟨rfl, h.charged r⟩

theorem pairing (svc : Services) (start : State) :
    Pairing svc svc (Parts svc.limits start) fun _ : Unit ↦ Recounted start := by
  refine .of_metering (isMetering start) (meets_tick svc) fun r ↦ ?_
  by_cases hcalls : r = .calls
  · subst hcalls
    exact meets_call svc
  · exact meets_charge svc hcalls

theorem eval {env : Env} (hscripted : env.registry.Scripted) (start : State)
    (statement : Statement) : Paired (Parts env.services.limits start) (Recounted start)
      (env.eval statement) (env.eval statement) where
  left := env.precedes_eval hscripted statement
  right := env.precedes_eval hscripted statement
  meets s t h := by
    have hcalls : s.calls = t.calls := (congrArg State.calls h.same :)
    unfold Env.eval
    rw [← hcalls]
    exact ((pairing env.services start).evalAt hscripted (Nat.le_refl _)
      (fun h ↦ absurd h (Nat.lt_irrefl _)) () statement).meets s t h

theorem parts_of_parted {l : Limits} (h : Parted (Parts l start) s t) : Parts l start s t := by
  obtain ⟨s₀, t₀, hstopped | hstopped, hs, ht⟩ := h
  · exact Or.inl (hstopped.later hs)
  · exact Or.inr (hstopped.later ht)

end Recounted

end BraceScript
