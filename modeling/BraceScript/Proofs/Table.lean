import BraceScript.Table

namespace BraceScript

namespace Table

variable {κ α : Type} [DecidableEq κ]

theorem get?_set (t : Table κ α) (key k : κ) (value : α) :
    (t.set key value).get? k = if key = k then some value else t.get? k := by
  fun_induction Table.set t key value with
  | case1 => rfl
  | case2 v rest => simp only [get?]; split <;> rfl
  | case3 k' v rest h ih =>
    simp only [get?, ih]
    split
    · rename_i hk
      rw [if_neg fun hkey ↦ h (hk.trans hkey.symm)]
    · rfl

theorem get?_erase (t : Table κ α) (key k : κ) :
    (t.erase key).get? k = if key = k then none else t.get? k := by
  induction t with
  | nil => simp [erase, get?]
  | cons e rest ih =>
    simp only [erase] at ih ⊢
    by_cases he : e.1 = key
    · rw [List.filter_cons_of_neg (by simpa using he), ih]
      simp only [get?, he]
      split <;> rfl
    · rw [List.filter_cons_of_pos (by simpa using he)]
      simp only [get?, ih]
      split
      · rename_i hk
        rw [if_neg fun hkey ↦ he (hk.trans hkey.symm)]
      · rfl

theorem set_of_get? {t : Table κ α} {key : κ} {value : α} (h : t.get? key = some value) :
    t.set key value = t := by
  fun_induction Table.set t key value with
  | case1 => cases h
  | case2 v rest =>
    rw [get?, if_pos rfl] at h
    rw [Option.some.inj h]
  | case3 k v rest hk ih =>
    rw [get?, if_neg hk] at h
    rw [ih h]

theorem mem_of_get? {t : Table κ α} {key : κ} {value : α} (h : t.get? key = some value) :
    (key, value) ∈ t := by
  fun_induction get? t key with
  | case1 => cases h
  | case2 v rest =>
    cases h
    exact List.mem_cons_self
  | case3 k v rest _ ih => exact List.mem_cons_of_mem _ (ih h)

theorem eq_of_mem_set {t : Table κ α} {key : κ} {value : α} {e : κ × α}
    (h : e ∈ t.set key value) : e ∈ t ∨ e.2 = value := by
  fun_induction Table.set t key value with
  | case1 =>
    cases List.mem_singleton.mp h
    exact Or.inr rfl
  | case2 v rest =>
    rcases List.mem_cons.mp h with rfl | h
    · exact Or.inr rfl
    · exact Or.inl (List.mem_cons_of_mem _ h)
  | case3 k v rest _ ih =>
    rcases List.mem_cons.mp h with rfl | h
    · exact Or.inl List.mem_cons_self
    · exact (ih h).imp_left (List.mem_cons_of_mem _)

theorem keys_set (t : Table κ α) (key : κ) (value : α) :
    (t.set key value).map Prod.fst =
      if key ∈ t.map Prod.fst then t.map Prod.fst else t.map Prod.fst ++ [key] := by
  fun_induction Table.set t key value with
  | case1 => rfl
  | case2 v rest => simp
  | case3 k v rest h ih =>
    rw [List.map_cons, ih]
    simp only [List.map_cons, List.mem_cons, Ne.symm h, false_or]
    split <;> rfl

theorem nodup_set {t : Table κ α} (h : (t.map Prod.fst).Nodup) (key : κ) (value : α) :
    ((t.set key value).map Prod.fst).Nodup := by
  rw [keys_set]
  split
  · exact h
  · rename_i hkey
    rw [List.nodup_append]
    refine ⟨h, List.pairwise_singleton _ key, fun a ha b hb ↦ ?_⟩
    rw [List.mem_singleton.mp hb]
    intro hab
    exact hkey (hab ▸ ha)

theorem get?_of_mem {t : Table κ α} (h : (t.map Prod.fst).Nodup) {key : κ} {value : α}
    (hmem : (key, value) ∈ t) : t.get? key = some value := by
  induction t with
  | nil => cases hmem
  | cons e rest ih =>
    obtain ⟨hnot, hrest⟩ := List.nodup_cons.mp h
    rcases List.mem_cons.mp hmem with rfl | hmem
    · exact if_pos rfl
    · have hne : e.1 ≠ key := by
        intro heq
        exact hnot (heq ▸ List.mem_map_of_mem hmem)
      exact (if_neg hne).trans (ih hrest hmem)

theorem mem_iff_get? {t : Table κ α} (h : (t.map Prod.fst).Nodup) {e : κ × α} :
    e ∈ t ↔ t.get? e.1 = some e.2 :=
  ⟨get?_of_mem h, mem_of_get?⟩

end Table

end BraceScript
