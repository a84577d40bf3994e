import BraceScript.Proofs.Scope.Leads
import BraceScript.Proofs.Text.Lead

namespace BraceScript

namespace Provider

theorem matchesName_iff (p : Provider) (raw : String) :
    p.matchesName raw = true ↔ p.lead.toList <+: raw.toList :=
  List.isPrefixOf_iff_prefix

theorem lead_append_bareName {p : Provider} {raw : String} (h : p.lead.toList <+: raw.toList) :
    p.lead ++ p.bareName raw = raw := by
  obtain ⟨rest, rfl⟩ := exists_append_of_toList h
  rw [bareName, String.toList_append, List.drop_left, String.ofList_toList]

end Provider

namespace Scopes

structure Owns (providers : List Provider) (p : Provider) (raw : String) : Prop where
  mem : p ∈ providers
  starts : p.lead.toList <+: raw.toList
  longest : ∀ q ∈ providers, q.lead.toList <+: raw.toList → q.width ≤ p.width

section Owns

variable {providers order : List Provider} {p q : Provider} {raw : String}

theorem Owns.perm (h : Owns providers p raw) (hperm : order.Perm providers) : Owns order p raw :=
  ⟨hperm.mem_iff.mpr h.mem, h.starts, fun q hq ↦ h.longest q (hperm.mem_iff.mp hq)⟩

theorem Owns.unique (hnodup : (providers.map Provider.lead).Nodup) (h : Owns providers p raw)
    (h' : Owns providers q raw) : p = q := by
  have hle := h'.longest p h.mem h.starts
  have hle' := h.longest q h'.mem h'.starts
  have hlead := eq_of_prefix_of_size h.starts h'.starts (Nat.le_antisymm hle hle')
  exact List.inj_on_of_nodup_map hnodup h.mem h'.mem hlead

theorem owns_of_find? (h : (arrange providers).find? (·.matchesName raw) = some p) :
    Owns providers p raw := by
  have hperm := arrange_perm providers
  have hmatches : p.matchesName raw = true := (List.find?_some h :)
  refine ⟨hperm.mem_iff.mp (List.mem_of_find?_eq_some h), ?_, ?_⟩
  · exact (p.matchesName_iff raw).mp hmatches
  · intro q hq hstarts
    apply le_of_find? (arrange_pairwise providers) h q (hperm.mem_iff.mpr hq)
    exact (q.matchesName_iff raw).mpr hstarts

theorem exists_owns (hempty : ∃ p ∈ providers, p.lead = "") (raw : String) :
    ∃ p, Owns providers p raw ∧
      resolve ⟨arrange providers⟩ raw = .ok (p.kind, p.bareName raw) := by
  obtain ⟨q, hq, hlead⟩ := hempty
  unfold resolve
  cases hfind : (arrange providers).find? (·.matchesName raw) with
  | some p => exact ⟨p, owns_of_find? hfind, rfl⟩
  | none =>
    have hmatches : q.matchesName raw = true := by
      rw [q.matchesName_iff, hlead]
      exact List.nil_prefix
    have hmem := (arrange_perm providers).mem_iff.mpr hq
    exact absurd hmatches (List.find?_eq_none.mp hfind q hmem)

theorem resolve_of_owns (hempty : ∃ p ∈ providers, p.lead = "")
    (hnodup : (providers.map Provider.lead).Nodup) (h : Owns providers p raw) :
    resolve ⟨arrange providers⟩ raw = .ok (p.kind, p.bareName raw) := by
  obtain ⟨q, hq, hresolve⟩ := exists_owns hempty raw
  rw [h.unique hnodup hq]
  exact hresolve

theorem resolve_perm (hempty : ∃ p ∈ providers, p.lead = "")
    (hnodup : (providers.map Provider.lead).Nodup) (hperm : order.Perm providers) (raw : String) :
    resolve ⟨arrange order⟩ raw = resolve ⟨arrange providers⟩ raw := by
  obtain ⟨p, hp, hresolve⟩ := exists_owns hempty raw
  obtain ⟨q, hq, hlead⟩ := hempty
  rw [hresolve]
  apply resolve_of_owns ⟨q, hperm.mem_iff.mpr hq, hlead⟩ _ (hp.perm hperm)
  exact (hperm.map Provider.lead).nodup_iff.mpr hnodup

/-- Where kinds are distinct, the kind tells the lead, and lead and bare name make the name. -/
theorem resolve_injective (hempty : ∃ p ∈ providers, p.lead = "")
    (hkinds : (providers.map Provider.kind).Nodup) :
    Function.Injective (resolve ⟨arrange providers⟩) := by
  intro raw raw' hsame
  obtain ⟨p, hp, hresolve⟩ := exists_owns hempty raw
  obtain ⟨q, hq, hresolve'⟩ := exists_owns hempty raw'
  rw [hresolve, hresolve', Except.ok.injEq, Prod.mk.injEq] at hsame
  obtain ⟨hkind, hbare⟩ := hsame
  obtain rfl : p = q := List.inj_on_of_nodup_map hkinds hp.mem hq.mem hkind
  calc raw = p.lead ++ p.bareName raw := (Provider.lead_append_bareName hp.starts).symm
    _ = p.lead ++ p.bareName raw' := by rw [hbare]
    _ = raw' := Provider.lead_append_bareName hq.starts

/-- With distinct leads of which one is empty every name is resolved, by the longest lead that
starts it, to the rest of the name. The order of the providers does not matter, and if their kinds
are distinct no two names are resolved to the same. -/
theorem resolve_longest_lead (hempty : ∃ p ∈ providers, p.lead = "")
    (hnodup : (providers.map Provider.lead).Nodup) :
    ∃ scopes, ofProviders providers = .ok scopes ∧
      (∀ raw, ∃ p ∈ providers, ∃ bare, scopes.resolve raw = .ok (p.kind, bare) ∧
        p.lead ++ bare = raw ∧
        ∀ q ∈ providers, p.width < q.width → ∀ rest, q.lead ++ rest ≠ raw) ∧
      (∀ order : List Provider, order.Perm providers → ∃ scopes', ofProviders order = .ok scopes' ∧
        ∀ raw, scopes'.resolve raw = scopes.resolve raw) ∧
      ((providers.map Provider.kind).Nodup → Function.Injective scopes.resolve) := by
  refine ⟨_, ofProviders_of_nodup hempty hnodup, ?_, ?_, resolve_injective hempty⟩
  · intro raw
    obtain ⟨p, hp, hresolve⟩ := exists_owns hempty raw
    refine ⟨p, hp.mem, _, hresolve, Provider.lead_append_bareName hp.starts, ?_⟩
    rintro q hq hlonger rest rfl
    have hle := hp.longest q hq (toList_prefix_append q.lead rest)
    omega
  · intro order hperm
    obtain ⟨q, hq, hlead⟩ := hempty
    refine ⟨_, ofProviders_of_nodup ⟨q, hperm.mem_iff.mpr hq, hlead⟩ ?_, ?_⟩
    · exact (hperm.map Provider.lead).nodup_iff.mpr hnodup
    · exact resolve_perm ⟨q, hq, hlead⟩ hnodup hperm

end Owns

/-- Leads that start each other, and the standard ones. -/
theorem resolve_longest_lead_nested :
    let nested : List Provider := [⟨"", .tag⟩, ⟨"é", .author⟩, ⟨"é~", .temporary⟩, ⟨"~", .guild⟩]
    (nested.map Provider.lead).Nodup ∧ (nested.map Provider.kind).Nodup ∧
    (∃ scopes, ofProviders nested = .ok scopes ∧ scopes.resolve "é~x" = .ok (.temporary, "x") ∧
      scopes.resolve "éx" ≠ scopes.resolve "~x") ∧
    ∃ scopes, ofProviders Provider.standard = .ok scopes ∧ Function.Injective scopes.resolve := by
  intro nested
  have hempty : ∃ p ∈ nested, p.lead = "" := ⟨⟨"", .tag⟩, List.mem_cons_self, rfl⟩
  have hnodup : (nested.map Provider.lead).Nodup := by decide
  have hkinds : (nested.map Provider.kind).Nodup := by decide
  refine ⟨hnodup, hkinds, ?_, ?_⟩
  · obtain ⟨scopes, hok, hnames, -, hinjective⟩ := resolve_longest_lead hempty hnodup
    have hlongest : ∀ p ∈ nested, ¬p.width < 3 → p = ⟨"é~", .temporary⟩ := by decide
    have hmem : ⟨"é~", .temporary⟩ ∈ nested := by decide
    refine ⟨scopes, hok, ?_, (hinjective hkinds).ne (by decide)⟩
    obtain ⟨p, hp, bare, hresolve, hbare, hother⟩ := hnames "é~x"
    obtain rfl := hlongest p hp fun hlt ↦ hother _ hmem hlt "x" rfl
    have hrest : bare = "x" := (String.append_right_inj "é~").mp hbare
    rw [hresolve, hrest]
  · have hstandard : ∃ p ∈ Provider.standard, p.lead = "" := ⟨⟨"", .tag⟩, List.mem_cons_self, rfl⟩
    obtain ⟨scopes, hok, -, -, hinjective⟩ := resolve_longest_lead hstandard (by decide)
    exact ⟨scopes, hok, hinjective (by decide)⟩

end Scopes

end BraceScript
