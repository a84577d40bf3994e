namespace BraceScript

theorem between_eq_isDigit (c : Char) : (decide ('0' ≤ c) && decide (c ≤ '9')) = c.isDigit := by
  simp [Char.isDigit, Char.le_def]

theorem span_append {p : Char → Bool} {run : List Char} (hrun : ∀ c ∈ run, p c = true)
    (rest : List Char) (hrest : ∀ c ∈ rest.head?, p c = false) :
    (run ++ rest).takeWhile p = run ∧ (run ++ rest).dropWhile p = rest := by
  rw [List.takeWhile_append_of_pos hrun, List.dropWhile_append_of_pos hrun]
  cases rest with
  | nil => simp
  | cons c rest =>
    have hc := hrest c rfl
    simp [hc]

theorem exists_append_of_toList {lead name : String} (h : lead.toList <+: name.toList) :
    ∃ rest, name = lead ++ rest := by
  obtain ⟨rest, hrest⟩ := h
  refine ⟨String.ofList rest, ?_⟩
  rw [← String.ofList_toList (s := name), ← hrest, String.ofList_append, String.ofList_toList]

theorem toList_prefix_append (lead rest : String) : lead.toList <+: (lead ++ rest).toList := by
  rw [String.toList_append]
  exact List.prefix_append _ _

theorem prefix_of_size_le {lead lead' name : String} (h : lead.toList <+: name.toList)
    (h' : lead'.toList <+: name.toList) (hsize : lead.utf8ByteSize ≤ lead'.utf8ByteSize) :
    lead.toList <+: lead'.toList := by
  rcases List.prefix_or_prefix_of_prefix h h' with hlead | hlead
  · exact hlead
  · -- The other start is no larger, so that nothing follows it.
    obtain ⟨rest, rfl⟩ := exists_append_of_toList hlead
    rw [String.utf8ByteSize_append] at hsize
    have hempty : rest = "" := String.utf8ByteSize_eq_zero_iff.mp (by omega)
    simp [hempty]

theorem eq_of_prefix_of_size {lead lead' name : String} (h : lead.toList <+: name.toList)
    (h' : lead'.toList <+: name.toList) (hsize : lead.utf8ByteSize = lead'.utf8ByteSize) :
    lead = lead' := by
  have hlead := prefix_of_size_le h h' (Nat.le_of_eq hsize)
  have hlead' := prefix_of_size_le h' h (Nat.le_of_eq hsize.symm)
  apply String.toList_injective
  exact hlead.eq_of_length (Nat.le_antisymm hlead.length_le hlead'.length_le)

/-- The first of those that fit is the largest of them if the larger ones stand first. -/
theorem le_of_find? {α : Type} {size : α → Nat} {fits : α → Bool} {xs : List α} {a : α}
    (hsorted : xs.Pairwise fun x y ↦ size y ≤ size x) (hfind : xs.find? fits = some a) :
    ∀ x ∈ xs, fits x = true → size x ≤ size a := by
  induction xs with
  | nil => cases hfind
  | cons y ys ih =>
    obtain ⟨hy, hys⟩ := List.pairwise_cons.mp hsorted
    intro x hx hfits
    by_cases hfirst : fits y = true
    · rw [List.find?_cons_of_pos hfirst] at hfind
      cases hfind
      rcases List.mem_cons.mp hx with rfl | hx
      · exact Nat.le_refl _
      · exact hy x hx
    · rw [List.find?_cons_of_neg hfirst] at hfind
      rcases List.mem_cons.mp hx with rfl | hx
      · exact absurd hfits hfirst
      · exact ih hys hfind x hx hfits

end BraceScript
