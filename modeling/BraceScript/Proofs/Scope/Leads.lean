import BraceScript.Scope
import Mathlib.Data.List.Nodup

namespace BraceScript.Scopes

/-- Two providers have the same lead, and no provider between them has a lead of that length. -/
def Repeats (providers : List Provider) : Prop :=
  ∃ xs p ys q zs, providers = xs ++ p :: (ys ++ q :: zs) ∧ p.lead = q.lead ∧
    ∀ r ∈ ys, r.width ≠ p.width

def Neighbours (providers : List Provider) : Prop :=
  ∃ xs p q zs, providers = xs ++ p :: q :: zs ∧ p.lead = q.lead

theorem arrange_perm (providers : List Provider) : (arrange providers).Perm providers :=
  List.mergeSort_perm ..

theorem width_trans (p q r : Provider) (h : decide (q.width ≤ p.width) = true)
    (h' : decide (r.width ≤ q.width) = true) : decide (r.width ≤ p.width) = true := by
  simp only [decide_eq_true_eq] at h h' ⊢
  omega

theorem width_total (p q : Provider) :
    (decide (q.width ≤ p.width) || decide (p.width ≤ q.width)) = true := by
  simp only [Bool.or_eq_true, decide_eq_true_eq]
  omega

theorem arrange_pairwise (providers : List Provider) :
    (arrange providers).Pairwise fun p q ↦ q.width ≤ p.width := by
  have h := List.pairwise_mergeSort width_trans width_total providers
  exact h.imp fun hpq ↦ by simpa using hpq

theorem filter_arrange (providers : List Provider) (w : Nat) :
    (arrange providers).filter (·.width = w) = providers.filter (·.width = w) := by
  have hsorted : (providers.filter (·.width = w)).Pairwise
      fun p q ↦ decide (q.width ≤ p.width) = true := by
    refine List.pairwise_of_forall_mem_list fun p hp q hq ↦ ?_
    have hpw := of_decide_eq_true (List.mem_filter.mp hp).2
    have hqw := of_decide_eq_true (List.mem_filter.mp hq).2
    simp [hpw, hqw]
  have hsub : (providers.filter (·.width = w)).Sublist (arrange providers) :=
    List.sublist_mergeSort width_trans width_total hsorted List.filter_sublist
  have hfilter := hsub.filter (·.width = w)
  rw [List.filter_filter] at hfilter
  simp only [Bool.and_self] at hfilter
  exact (hfilter.eq_of_length ((arrange_perm providers).filter _).length_eq.symm).symm

theorem repeats_iff {providers : List Provider} :
    Repeats providers ↔ ∃ w, Neighbours (providers.filter (·.width = w)) := by
  constructor
  · rintro ⟨xs, p, ys, q, zs, rfl, hlead, hys⟩
    have hq : q.width = p.width := by rw [Provider.width, Provider.width, hlead]
    have hnone : ys.filter (·.width = p.width) = [] := by simpa using hys
    refine ⟨p.width, xs.filter (·.width = p.width), p, q, zs.filter (·.width = p.width), ?_, hlead⟩
    simp [hq, hnone]
  · rintro ⟨w, xs, p, q, zs, hfilter, hlead⟩
    obtain ⟨us, vs, rfl, -, hv⟩ := List.filter_eq_append_iff.mp hfilter
    obtain ⟨us', vs, rfl, -, hp, hv⟩ := List.filter_eq_cons_iff.mp hv
    obtain ⟨ys, vs, rfl, hys, -, -⟩ := List.filter_eq_cons_iff.mp hv
    refine ⟨us ++ us', p, ys, q, vs, by simp, hlead, fun r hr hw ↦ hys r hr ?_⟩
    simpa [hw] using hp

theorem repeats_arrange (providers : List Provider) :
    Repeats (arrange providers) ↔ Repeats providers := by
  simp only [repeats_iff, filter_arrange]

theorem neighbours_iff_repeats {providers : List Provider}
    (h : providers.Pairwise fun p q ↦ q.width ≤ p.width) :
    Neighbours providers ↔ Repeats providers := by
  constructor
  · rintro ⟨xs, p, q, zs, rfl, hlead⟩
    exact ⟨xs, p, [], q, zs, rfl, hlead, by simp⟩
  · rintro ⟨xs, p, ys, q, zs, rfl, hlead, hys⟩
    have hq : q.width = p.width := by rw [Provider.width, Provider.width, hlead]
    cases ys with
    | nil => exact ⟨xs, p, q, zs, rfl, hlead⟩
    | cons r ys =>
      -- A provider between the two would have a lead of their length.
      rw [List.pairwise_append, List.pairwise_cons, List.cons_append, List.pairwise_cons] at h
      have hpr := h.2.1.1 r (by simp)
      have hrq := h.2.1.2.1 q (by simp)
      exact absurd (by omega) (hys r (by simp))

theorem neighbours_cons_cons {p q : Provider} {rest : List Provider} :
    Neighbours (p :: q :: rest) ↔ p.lead = q.lead ∨ Neighbours (q :: rest) := by
  constructor
  · rintro ⟨xs, a, b, zs, heq, hlead⟩
    cases xs with
    | nil =>
      cases heq
      exact Or.inl hlead
    | cons x xs => exact Or.inr ⟨xs, a, b, zs, (List.cons.inj heq).2, hlead⟩
  · rintro (hlead | ⟨xs, a, b, zs, heq, hlead⟩)
    · exact ⟨[], p, q, rest, rfl, hlead⟩
    · exact ⟨p :: xs, a, b, zs, by rw [heq, List.cons_append], hlead⟩

theorem repeatedLead?_eq_none_iff (providers : List Provider) :
    repeatedLead? providers = none ↔ ¬Neighbours providers := by
  fun_induction repeatedLead? providers with
  | case1 p q rest h => simp [neighbours_cons_cons, h]
  | case2 p q rest h ih => simp [neighbours_cons_cons, h, ih]
  | case3 providers h =>
    simp only [true_iff]
    rintro ⟨xs, p, q, zs, rfl, -⟩
    cases xs with
    | nil => exact h p q zs rfl
    | cons x xs =>
      cases xs with
      | nil => exact h x p (q :: zs) rfl
      | cons y xs => exact h x y (xs ++ p :: q :: zs) rfl

theorem two_le_count_of_repeatedLead? {providers : List Provider} {lead : String}
    (h : repeatedLead? providers = some lead) : 2 ≤ (providers.map Provider.lead).count lead := by
  fun_induction repeatedLead? providers with
  | case1 p q rest hlead =>
    cases h
    simp [hlead]
  | case2 p q rest _ ih =>
    have hcount := ih h
    simp only [List.map_cons, List.count_cons] at hcount ⊢
    omega
  | case3 => cases h

theorem exists_lead_empty_iff (providers : List Provider) :
    (arrange providers).any (·.lead.isEmpty) = true ↔ ∃ p ∈ providers, p.lead = "" := by
  simp [(arrange_perm providers).mem_iff]

theorem repeatedLead?_arrange (providers : List Provider) :
    repeatedLead? (arrange providers) = none ↔ ¬Repeats providers := by
  rw [repeatedLead?_eq_none_iff, neighbours_iff_repeats (arrange_pairwise providers),
    repeats_arrange]

theorem ofProviders_cases (providers : List Provider) :
    (Repeats providers ∧ ∃ lead, ofProviders providers = .error (.duplicateScopePrefix lead) ∧
      2 ≤ (providers.map Provider.lead).count lead) ∨
    (¬Repeats providers ∧ (∃ p ∈ providers, p.lead = "") ∧
      ofProviders providers = .ok ⟨arrange providers⟩) ∨
    (¬Repeats providers ∧ (¬∃ p ∈ providers, p.lead = "") ∧
      ofProviders providers = .error .missingFallbackScope) := by
  have hnone := repeatedLead?_arrange providers
  unfold ofProviders
  cases hlead : repeatedLead? (arrange providers) with
  | some lead =>
    have hcount := two_le_count_of_repeatedLead? hlead
    rw [((arrange_perm providers).map _).count_eq] at hcount
    have hrep : Repeats providers := by
      by_contra hrep
      simp [hnone.mpr hrep] at hlead
    exact Or.inl ⟨hrep, lead, by simp [hlead], hcount⟩
  | none =>
    have hrep := hnone.mp hlead
    by_cases hempty : ∃ p ∈ providers, p.lead = ""
    · have hany := (exists_lead_empty_iff providers).mpr hempty
      exact Or.inr (Or.inl ⟨hrep, hempty, by simp only [hlead, hany, ↓reduceIte]⟩)
    · have hany : ¬(arrange providers).any (·.lead.isEmpty) = true :=
        fun h ↦ hempty ((exists_lead_empty_iff providers).mp h)
      exact Or.inr (Or.inr ⟨hrep, hempty, by simp only [hlead, hany]; rfl⟩)

theorem Repeats.not_nodup {providers : List Provider} (h : Repeats providers) :
    ¬(providers.map Provider.lead).Nodup := by
  obtain ⟨xs, p, ys, q, zs, rfl, hlead, -⟩ := h
  simp [List.nodup_append, hlead]

theorem ofProviders_of_nodup {providers : List Provider} (hempty : ∃ p ∈ providers, p.lead = "")
    (hnodup : (providers.map Provider.lead).Nodup) :
    ofProviders providers = .ok ⟨arrange providers⟩ := by
  obtain ⟨hrep, -⟩ | ⟨-, -, heq⟩ | ⟨-, hnone, -⟩ := ofProviders_cases providers
  · exact absurd hnodup hrep.not_nodup
  · exact heq
  · exact absurd hempty hnone

theorem eq_arrange_of_ofProviders {providers : List Provider} {scopes : Scopes}
    (h : ofProviders providers = .ok scopes) :
    (∃ p ∈ providers, p.lead = "") ∧ scopes = ⟨arrange providers⟩ := by
  obtain ⟨-, lead, heq, -⟩ | ⟨-, hempty, heq⟩ | ⟨-, -, heq⟩ := ofProviders_cases providers
  · simp [heq] at h
  · rw [heq] at h
    exact ⟨hempty, (Except.ok.inj h).symm⟩
  · simp [heq] at h

/-- Scopes are made from distinct leads of which one is empty and from nothing else, and of leads
that are not distinct one that stands twice is named. -/
def Distinguishes (providers : List Provider) : Prop :=
  ((∃ scopes, ofProviders providers = .ok scopes) ↔
    (∃ p ∈ providers, p.lead = "") ∧ (providers.map Provider.lead).Nodup) ∧
  (¬(providers.map Provider.lead).Nodup → ∃ lead,
    ofProviders providers = .error (.duplicateScopePrefix lead) ∧
      2 ≤ (providers.map Provider.lead).count lead)

/-- A repeated lead is noticed when no other lead of its length stands between the two. -/
theorem ofProviders_spec (providers : List Provider) :
    ((∃ scopes, ofProviders providers = .ok scopes) ↔
      (∃ p ∈ providers, p.lead = "") ∧ ¬Repeats providers) ∧
    ((∃ lead, ofProviders providers = .error (.duplicateScopePrefix lead)) ↔ Repeats providers) ∧
    (∀ lead, ofProviders providers = .error (.duplicateScopePrefix lead) →
      2 ≤ (providers.map Provider.lead).count lead) ∧
    (Distinguishes providers ↔ ((providers.map Provider.lead).Nodup ∨ Repeats providers)) := by
  unfold Distinguishes
  obtain ⟨hrep, lead, heq, hcount⟩ | ⟨hrep, hempty, heq⟩ | ⟨hrep, hempty, heq⟩ :=
    ofProviders_cases providers
  · have hnodup := hrep.not_nodup
    simp [heq, hrep, hnodup, hcount]
  · simp [heq, hrep, hempty]
  · simp [heq, hrep, hempty]

/-- A lead of the same length hides the repetition. -/
theorem ofProviders_repeated_lead :
    let providers : List Provider := [⟨"", .tag⟩, ⟨"a", .global⟩, ⟨"b", .guild⟩, ⟨"a", .author⟩]
    (∃ scopes, ofProviders providers = .ok scopes) ∧ ¬Distinguishes providers := by
  intro providers
  have hnone : ∀ w, repeatedLead? (providers.filter (·.width = w)) = none
    | 0 => by decide
    | 1 => by decide
    | w + 2 => rfl
  have hrep : ¬Repeats providers := by
    rintro h
    obtain ⟨w, hw⟩ := repeats_iff.mp h
    exact (repeatedLead?_eq_none_iff _).mp (hnone w) hw
  obtain ⟨h, -⟩ | ⟨-, -, hok⟩ | ⟨-, hempty, -⟩ := ofProviders_cases providers
  · exact absurd h hrep
  · refine ⟨⟨_, hok⟩, fun h ↦ ?_⟩
    obtain ⟨-, hnodup⟩ := h.1.mp ⟨_, hok⟩
    exact absurd hnodup (by decide)
  · exact absurd ⟨⟨"", .tag⟩, List.mem_cons_self, rfl⟩ hempty

end BraceScript.Scopes
