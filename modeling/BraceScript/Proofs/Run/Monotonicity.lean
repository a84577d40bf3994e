import BraceScript.Proofs.Run.Ceilings
import BraceScript.Proofs.Run.Pairing

namespace BraceScript

/-- All ceilings of `l` are at most those of `l'`. -/
structure Limits.AtMost (l l' : Limits) : Prop where
  loops : l.maxLoops ≤ l'.maxLoops
  calls : l.maxCalls ≤ l'.maxCalls
  depth : l.maxDepth ≤ l'.maxDepth
  requests : l.maxRequests ≤ l'.maxRequests

theorem Limits.AtMost.ceiling {l l' : Limits} (h : l.AtMost l') (r : Resource) :
    l.ceiling r ≤ l'.ceiling r := by
  cases r with
  | loops => exact h.loops
  | calls => exact h.calls
  | requests => exact h.requests

def Services.withLimits (svc : Services) (l : Limits) : Services := { svc with limits := l }

def HasRefused (s _t : State) : Prop := ∃ e, e.kind = .resourceLimit ∧ .refused e ∈ s.journal

namespace HasRefused

variable {svc : Services} {l : Limits}

theorem parted {e : Error} (he : e.kind = .resourceLimit) (s t : State) :
    Parted HasRefused (s.note (.refused e)) t :=
  .of ⟨e, he, List.mem_cons_self⟩

theorem charge_cases (h : svc.limits.AtMost l) (r : Resource) (s : State) :
    (∃ e, e.kind = .resourceLimit ∧ svc.charge r s = Services.refuse e s) ∨
    (svc.withLimits l).charge r s = svc.charge r s := by
  rw [Services.charge_eq, Services.charge_eq]
  by_cases hfull : svc.limits.ceiling r ≤ s.usage.used r
  · exact Or.inl ⟨_, rfl, if_pos hfull⟩
  · have hceiling := h.ceiling r
    have hbelow : ¬(svc.withLimits l).limits.ceiling r ≤ s.usage.used r := by
      change ¬l.ceiling r ≤ s.usage.used r
      omega
    exact Or.inr (by rw [if_neg hbelow, if_neg hfull])

theorem meets_charge (h : svc.limits.AtMost l) (r : Resource) :
    Meets HasRefused Eq (svc.charge r) ((svc.withLimits l).charge r) := by
  rintro s _ rfl
  rcases charge_cases h r s with ⟨e, he, hrefused⟩ | hsame
  · rw [hrefused]
    exact Or.inr (parted he s _)
  · rw [hsame]
    exact Or.inl ⟨rfl, rfl⟩

theorem meets_request {α : Type} (h : svc.limits.AtMost l) (ask : Directory → Except Error α) :
    Meets HasRefused Eq (svc.request ask) ((svc.withLimits l).request ask) := by
  rintro s _ rfl
  have hdirectory : (svc.withLimits l).directory? = svc.directory? := rfl
  unfold Services.request
  rw [hdirectory]
  cases svc.directory? with
  | none => exact Or.inl ⟨rfl, rfl⟩
  | some directory =>
    dsimp only
    rcases charge_cases h .requests s with ⟨e, he, hrefused⟩ | hsame
    · rw [hrefused]
      exact Or.inr (parted he s _)
    · rw [hsame]
      exact Or.inl ⟨rfl, rfl⟩

theorem meets_answer (h : svc.limits.AtMost l) {q : Query} (hq : q.isPlain = true) :
    Meets HasRefused Eq (q.effect svc) (q.effect (svc.withLimits l)) := by
  cases q with
  | value | again | attempt | activate | raw | count | supplied | define => cases hq
  | iterate => exact meets_charge h .loops
  | findEntity => exact meets_request h _
  | listEntities => exact meets_request h _
  | _ =>
    rintro s _ rfl
    exact Or.inl ⟨rfl, rfl⟩

theorem pairing (h : svc.limits.AtMost l) :
    Pairing svc (svc.withLimits l) HasRefused fun _ : Unit ↦ Eq where
  plugins := rfl
  origin := rfl
  depth _ s t _ := Or.inr (parted rfl s _)
  running _ _ _ hst := by rw [hst]
  function _ _ _ hst _ := by rw [hst]
  tick _ := by
    rintro s _ rfl
    exact Or.inl ⟨rfl, rfl⟩
  charge _ := meets_charge h .calls
  fail _ name span e := by
    rintro s _ rfl
    exact Or.inl ⟨rfl, rfl⟩
  started _ _ _ _ hst := by rw [hst]
  iterated _ _ _ hst := by rw [hst]
  call frame i s t hst := ⟨i, by rw [hst], fun _ _ hst ↦ by rw [hst]⟩
  activation name params i s t hst := ⟨i, by rw [hst], fun _ _ hst ↦ by rw [hst]⟩
  interception i s t hst := ⟨i, by rw [hst], fun _ _ hst ↦ by rw [hst]; exact ⟨rfl, rfl⟩⟩
  define _ _ _ _ _ hst := by rw [hst]
  answer _ _ hq := meets_answer h hq

end HasRefused

namespace Engine

variable {e : Engine}

theorem exists_reported_of_refused (he : e.Standard) (statement : Statement) (r : Request)
    (store : Store) {error : Error} (h : .refused error ∈ (e.run statement r store).2.journal) :
    ∃ err ∈ (e.run statement r store).2.errors, err.error = error := by
  obtain ⟨-, ⟨hpending, -⟩ | ⟨-, -, hreported⟩⟩ := (run_refusals he statement r store).told error h
  · cases hpending
  · exact hreported

theorem run_withLimits (he : e.Standard) (statement : Statement) (r : Request) (store : Store)
    {l : Limits} (hle : (e.env r).services.limits.AtMost l)
    (hnone : ∀ err ∈ (e.run statement r store).2.errors, err.error.kind ≠ .resourceLimit) :
    e.run statement { r with limits? := some l } store = e.run statement r store := by
  have hpaired := (HasRefused.pairing hle).evalAt he.scripted hle.depth
    (fun _ _ s t _ ↦ ⟨_, rfl, List.mem_cons_self⟩) () statement
  rcases hpaired.meets _ _ (Eq.refl (initial r store)) with ⟨htext, hstate⟩ | hparted
  · exact (Prod.ext htext hstate).symm
  · obtain ⟨s₀, t₀, ⟨error, hkind, hrefused⟩, hlater, -⟩ := hparted
    obtain ⟨err, herr, rfl⟩ := exists_reported_of_refused he statement r store
      (hlater.mem_journal hrefused)
    exact absurd hkind (hnone err herr)

/-- An execution that reports no refusal is the same under higher ceilings, whether they come with
the request or with the engine. -/
theorem execute_limits_monotone (he : e.Standard) (source : String) (r : Request) (store : Store)
    {l : Limits} (hle : (e.env r).services.limits.AtMost l)
    (hnone : ∀ err ∈ (e.execute source r store).1.errors, err.error.kind ≠ .resourceLimit) :
    e.execute source { r with limits? := some l } store = e.execute source r store ∧
    { e with config := { e.config with limits := l } }.execute source { r with limits? := none }
      store = e.execute source r store := by
  have hreported : ∀ err ∈ (e.run (parse source) r store).2.errors,
      err.error.kind ≠ .resourceLimit := fun err herr ↦ hnone err (List.mem_reverse.mpr herr)
  have hrun := run_withLimits he (parse source) r store hle hreported
  have hsame : e.execute source { r with limits? := some l } store = e.execute source r store := by
    unfold execute
    rw [hrun]
  exact ⟨hsame, hsame⟩

/-- A loop that fails three times and reaches the ceilings of loops, calls and depth. -/
theorem execute_limits_monotone_reached :
    let source := "\x7brepeat;\x7bthrow;no\x7d,;3\x7d"
    let r : Request :=
      { limits? := some { maxLoops := 3, maxCalls := 4, maxDepth := 2, maxRequests := 0 } }
    ∃ e : Engine, e.Standard ∧ (e.env r).services.limits.AtMost {} ∧
      (e.execute source r []).1.errors.length = 3 ∧
      (∀ err ∈ (e.execute source r []).1.errors, err.error.kind ≠ .resourceLimit) ∧
      e.execute source { r with limits? := some {} } [] = e.execute source r [] := by
  intro source r
  obtain ⟨e, -, he, hrun⟩ := exists_standard_of_any (b := { providers := [⟨"", .tag⟩] }) rfl rfl
    (p := fun e ↦ decide ((e.execute source r []).1.errors.length = 3 ∧
      ∀ err ∈ (e.execute source r []).1.errors, err.error.kind ≠ .resourceLimit))
    (by decide +kernel)
  obtain ⟨hlength, hnone⟩ := of_decide_eq_true hrun
  have hle : (e.env r).services.limits.AtMost {} := by
    change Limits.AtMost { maxLoops := 3, maxCalls := 4, maxDepth := 2, maxRequests := 0 } {}
    constructor <;> decide
  exact ⟨e, he, hle, hlength, hnone, (execute_limits_monotone he source r [] hle hnone).1⟩

end Engine

end BraceScript
