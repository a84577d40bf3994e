import BraceScript.Proofs.Call.Acceptance
import BraceScript.Proofs.Registry
import BraceScript.Proofs.Text.NormalForm

namespace BraceScript

namespace Registry

variable {η : Type} {r : Registry η} {d : Definition η} {ds : List (Definition η)}

section Order

theorem Holds.mem_ids (h : r.Holds ds) (id : String) :
    id ∈ r.ids ↔ ∃ d ∈ ds, id ∈ keys d ∧ d.id = id := by
  rw [r.perm_ids.mem_iff, List.mem_map]
  constructor
  · rintro ⟨⟨key, d⟩, hentry, rfl⟩
    obtain ⟨hentry, hid⟩ := List.mem_filter.mp hentry
    obtain ⟨hd, hkey⟩ := (h.found key d).mp (Table.get?_of_mem h.once hentry)
    exact ⟨d, hd, hkey, (of_decide_eq_true hid).symm⟩
  · rintro ⟨d, hd, hkey, hid⟩
    have hentry := Table.mem_of_get? ((h.found id d).mpr ⟨hd, hkey⟩)
    exact ⟨(id, d), List.mem_filter.mpr ⟨hentry, decide_eq_true hid.symm⟩, rfl⟩

theorem Holds.nodup_ids (h : r.Holds ds) : r.ids.Nodup := by
  apply r.perm_ids.nodup_iff.mpr
  exact h.once.sublist (List.filter_sublist.map _)

theorem Holds.pairwise_ids (h : r.Holds ds) : r.ids.Pairwise (· < ·) := by
  apply (r.sorted_ids.and h.nodup_ids).imp
  rintro a b ⟨hle, hne⟩
  by_contra hlt
  exact hne (String.le_antisymm hle (String.not_lt.mp hlt))

end Order

section Built

theorem accepted_subset (r : Registry η) (offered : List (Definition η)) :
    accepted r offered ⊆ offered := by
  induction offered generalizing r with
  | nil => exact List.Subset.refl _
  | cons d offered ih =>
    rw [accepted]
    rcases r.register d with ⟨e | _, r'⟩
    · exact List.subset_cons_of_subset d (ih r')
    · exact List.cons_subset_cons d (ih r')

/-- Names of definitions are in lower case, so that an id is normalized by trimming it. -/
theorem normalize_id {declaration : Declaration η} (h : Definition.ofDeclaration declaration = .ok d) :
    normalize d.id = Text.trim d.id := by
  rw [(Definition.of_declaration h).1]
  exact normalize_lower declaration.id

/-- The id of a definition is one of the names it is held under just if it is trimmed. -/
theorem id_mem_keys_iff {declaration : Declaration η}
    (h : Definition.ofDeclaration declaration = .ok d) : d.id ∈ keys d ↔ Text.trim d.id = d.id := by
  constructor
  · intro hkey
    obtain ⟨name, -, hname⟩ := List.mem_map.mp hkey
    rw [← hname]
    exact trim_normalize name
  · intro htrim
    have hmem := normalize_id_mem_keys d
    rwa [normalize_id h, htrim] at hmem

theorem Holds.normalize_id_mem_ids (h : r.Holds ds) (hd : d ∈ ds) {declaration : Declaration η}
    (hdeclaration : Definition.ofDeclaration declaration = .ok d) :
    normalize d.id ∈ r.ids ↔ Text.trim d.id = d.id := by
  rw [h.mem_ids]
  constructor
  · rintro ⟨x, hx, hkey, hid⟩
    obtain rfl := eq_of_apart h.apart hx hd hkey (normalize_id_mem_keys d)
    exact ((normalize_id hdeclaration).symm.trans hid.symm)
  · intro htrim
    exact ⟨d, hd, normalize_id_mem_keys d, ((normalize_id hdeclaration).trans htrim).symm⟩

theorem nodup_normalize_ids (h : ds.Pairwise Apart) : (ds.map fun d ↦ normalize d.id).Nodup := by
  apply List.pairwise_map.mpr
  apply h.imp
  intro x y hapart hid
  apply hapart _ (normalize_id_mem_keys x)
  rw [hid]
  exact normalize_id_mem_keys y

def trimmed (ds : List (Definition η)) : List (Definition η) :=
  ds.filter fun d ↦ Text.trim d.id = d.id

theorem mem_trimmed : d ∈ trimmed ds ↔ d ∈ ds ∧ Text.trim d.id = d.id := by
  simp [trimmed]

theorem Holds.perm_ids_trimmed (h : r.Holds ds)
    (hbuilt : ∀ d ∈ ds, ∃ declaration, Definition.ofDeclaration declaration = .ok d) :
    r.ids.Perm ((trimmed ds).map fun d ↦ normalize d.id) := by
  have hnodup : ((trimmed ds).map fun d ↦ normalize d.id).Nodup :=
    nodup_normalize_ids (h.apart.sublist List.filter_sublist)
  apply (List.perm_ext_iff_of_nodup h.nodup_ids hnodup).mpr
  intro id
  rw [h.mem_ids, List.mem_map]
  constructor
  · rintro ⟨d, hd, hkey, rfl⟩
    obtain ⟨declaration, hdeclaration⟩ := hbuilt d hd
    have htrim := (id_mem_keys_iff hdeclaration).mp hkey
    exact ⟨d, mem_trimmed.mpr ⟨hd, htrim⟩, (normalize_id hdeclaration).trans htrim⟩
  · rintro ⟨d, hd, rfl⟩
    obtain ⟨hd, htrim⟩ := mem_trimmed.mp hd
    obtain ⟨declaration, hdeclaration⟩ := hbuilt d hd
    exact ⟨d, hd, normalize_id_mem_keys d, ((normalize_id hdeclaration).trans htrim).symm⟩

theorem length_trimmed_eq_iff : (trimmed ds).length = ds.length ↔ ∀ d ∈ ds, Text.trim d.id = d.id := by
  rw [trimmed, List.length_filter_eq_length_iff]
  simp

end Built

/-- After any definitions have been offered, the ids of those that were accepted are listed in order
and each once, if they have no blanks around them, and nothing else is listed. So a definition is
missing just if it has a padded id, and the listing is as long as it should be just if none is
missing. -/
theorem ids_listed (offered : List (Definition η))
    (hbuilt : ∀ d ∈ offered, ∃ declaration, Definition.ofDeclaration declaration = .ok d) :
    let r := offered.foldl offer {}
    let ds := accepted {} offered
    r.ids.Pairwise (· < ·) ∧
    (∀ id ∈ r.ids, ∃ d ∈ ds, normalize d.id = id) ∧
    (∀ d ∈ ds, normalize d.id ∈ r.ids ↔ Text.trim d.id = d.id) ∧
    (r.ids.Perm (ds.map fun d ↦ normalize d.id) ↔ ∀ d ∈ ds, Text.trim d.id = d.id) ∧
    (r.ids.length = ds.length ↔ ∀ d ∈ ds, Text.trim d.id = d.id) := by
  intro r ds
  have hholds : r.Holds ds := holds_nil.offers offered
  have hperm := hholds.perm_ids_trimmed fun d hd ↦ hbuilt d (accepted_subset _ _ hd)
  have hlength : r.ids.length = ds.length ↔ ∀ d ∈ ds, Text.trim d.id = d.id := by
    rw [hperm.length_eq, List.length_map]
    exact length_trimmed_eq_iff
  refine ⟨hholds.pairwise_ids, ?_, ?_, ?_, hlength⟩
  · intro id hid
    obtain ⟨d, hd, hid⟩ := List.mem_map.mp (hperm.mem_iff.mp hid)
    exact ⟨d, (mem_trimmed.mp hd).1, hid⟩
  · intro d hd
    obtain ⟨declaration, hdeclaration⟩ := hbuilt d (accepted_subset _ _ hd)
    exact hholds.normalize_id_mem_ids hd hdeclaration
  · constructor
    · intro hall
      apply hlength.mp
      rw [hall.length_eq, List.length_map]
    · intro hall
      have hsame : trimmed ds = ds := List.filter_eq_self.mpr fun d hd ↦ decide_eq_true (hall d hd)
      rwa [hsame] at hperm

/-- A definition with one signature, which takes no arguments. -/
def plain (id : String) (aliases : List String) : Definition Unit :=
  ⟨Text.lower id, aliases.map Text.lower, .text, "", [⟨[], "", (), 0, rfl⟩], false⟩

theorem ofDeclaration_plain (id : String) (aliases : List String) :
    Definition.ofDeclaration { id, aliases, category := .text, signatures := [([], "", ())] } =
      .ok (plain id aliases) :=
  rfl

/-- Of three definitions the first has a padded id, and the last one is refused for its alias. -/
theorem ids_listed_two_of_three :
    let offered := [plain " Get" ["Fetch "], plain "set" [], plain "FETCH" []]
    (∀ d ∈ offered, ∃ declaration, Definition.ofDeclaration declaration = .ok d) ∧
    (accepted {} offered).map Definition.id = [" get", "set"] ∧
    "set" ∈ (offered.foldl offer {}).ids ∧ "get" ∉ (offered.foldl offer {}).ids ∧
    (offered.foldl offer {}).ids.length ≠ 2 := by
  intro offered
  have hbuilt : ∀ d ∈ offered, ∃ declaration, Definition.ofDeclaration declaration = .ok d := by
    intro d hd
    simp only [offered, List.mem_cons, List.not_mem_nil, or_false] at hd
    rcases hd with rfl | rfl | rfl
    · exact ⟨_, ofDeclaration_plain _ _⟩
    · exact ⟨_, ofDeclaration_plain _ _⟩
    · exact ⟨_, ofDeclaration_plain _ _⟩
  have haccepted : (accepted {} offered).map Definition.id = [" get", "set"] := by decide +kernel
  have hnames : normalize " get" = "get" ∧ normalize "set" = "set" := by decide +kernel
  have htrims : Text.trim " get" ≠ " get" ∧ Text.trim "set" = "set" := by decide +kernel
  obtain ⟨-, -, hlisted, -, hlength⟩ := ids_listed offered hbuilt
  have hmem (id : String) (hid : id ∈ [" get", "set"]) : ∃ d ∈ accepted {} offered, d.id = id := by
    rwa [← haccepted, List.mem_map] at hid
  obtain ⟨get, hget, hgetid⟩ := hmem " get" (by simp)
  obtain ⟨set, hset, hsetid⟩ := hmem "set" (by simp)
  have hgetlisted := hlisted get hget
  have hsetlisted := hlisted set hset
  rw [hgetid, hnames.1] at hgetlisted
  rw [hsetid, hnames.2] at hsetlisted
  refine ⟨hbuilt, haccepted, hsetlisted.mpr htrims.2, fun h ↦ htrims.1 (hgetlisted.mp h), ?_⟩
  intro htwo
  have hcount : (accepted {} offered).length = 2 := by
    rw [← List.length_map, haccepted]
    rfl
  have htrim := hlength.mp (htwo.trans hcount.symm) get hget
  rw [hgetid] at htrim
  exact htrims.1 htrim

/-- A definition with a padded id is accepted and found, but not listed. -/
theorem ids_omit_padded :
    let d := plain " x" []
    let r := [d].foldl offer {}
    (∃ declaration, Definition.ofDeclaration declaration = .ok d) ∧ accepted {} [d] = [d] ∧
    normalize d.id = "x" ∧ r.lookup "x" = some d ∧ r.ids = [] := by
  intro d r
  have hbuilt := ofDeclaration_plain " x" []
  have haccepted : accepted {} [d] = [d] := by
    rw [accepted, holds_nil.register_of_apart (by simp)]
    rfl
  have hholds : r.Holds [d] := by
    have hoffers := holds_nil.offers [d]
    rwa [haccepted] at hoffers
  have htrim : ¬Text.trim d.id = d.id := by decide +kernel
  have hname : normalize d.id = "x" ∧ normalize "x" = "x" := by decide +kernel
  have hperm := hholds.perm_ids_trimmed (by
    intro x hx
    rw [List.mem_singleton.mp hx]
    exact ⟨_, hbuilt⟩)
  rw [trimmed, List.filter_cons_of_neg (by simpa using htrim)] at hperm
  have hkey : normalize "x" ∈ keys d := by
    rw [hname.2, ← hname.1]
    exact normalize_id_mem_keys d
  have hmeans : Means [d] "x" (some d) := .called List.mem_cons_self hkey
  exact ⟨⟨_, hbuilt⟩, haccepted, hname.1, (hholds.lookup "x").unique hholds.apart hmeans,
    List.Perm.eq_nil hperm⟩

end Registry

end BraceScript
