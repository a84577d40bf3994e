import BraceScript.Proofs.Text.Lowering
import BraceScript.Registry

namespace BraceScript

namespace Text

section Table

/-- No image of the one range lies in the other: they stand apart, or the other holds every second
code point and all images fall between these. -/
def CaseRange.skips (r s : CaseRange) : Bool :=
  Nat.blt (r.apply r.hi) s.lo || Nat.blt s.hi (r.apply r.lo) ||
    ((r.stride == 2 || r.lo == r.hi) && s.stride == 2 && (r.lo + r.shift + s.lo) % 2 == 1)

theorem CaseRange.contains_apply_of_skips {r s : CaseRange} {n : Nat} (hskips : r.skips s = true)
    (hn : r.contains n = true) (hpos : 0 ≤ r.lo + r.shift) : s.contains (r.apply n) = false := by
  apply Bool.eq_false_iff.mpr
  intro hs
  simp only [skips, Nat.blt_eq, Bool.and_eq_true, Bool.or_eq_true, beq_iff_eq] at hskips
  simp only [contains, Bool.and_eq_true, decide_eq_true_eq, beq_iff_eq] at hn hs
  unfold apply at hskips hs
  rcases hskips with hapart | ⟨⟨hr, hstride⟩, hdistance⟩
  · omega
  · have hsame : (n - r.lo) % 2 = 0 := by
      rcases hr with hr | hr
      · rw [← hr]
        exact hn.2
      · omega
    rw [hstride] at hs
    omega

theorem lowerRanges_start : ∀ r ∈ lowerRanges, 0 ≤ r.lo + r.shift ∧ r.avoids 0x130 0x130 = true := by
  decide +kernel

theorem lowerRanges_skip : (lowerRanges.all fun r ↦ lowerRanges.all r.skips) = true := by
  decide +kernel

theorem lowerChar_of_find? {c : Char} (hascii : 128 ≤ c.toNat) (hdotted : c.toNat ≠ 0x130)
    (hnone : lowerRanges.find? (·.contains c.toNat) = none) : lowerChar c = [c] := by
  rw [lowerChar, if_neg (by omega), if_neg hdotted, hnone]

theorem lowerChar_special {c : Char} (hc : c.toNat ∈ [0x3C2, 0x3C3, 0x307]) : lowerChar c = [c] := by
  have hnone : ([0x3C2, 0x3C3, 0x307].all fun n ↦ lowerRanges.all fun r ↦ !r.contains n) = true := by
    decide +kernel
  have hbounds : ∀ n ∈ [0x3C2, 0x3C3, 0x307], 128 ≤ n ∧ n ≠ 0x130 := by decide
  obtain ⟨hascii, hdotted⟩ := hbounds _ hc
  apply lowerChar_of_find? hascii hdotted
  apply List.find?_eq_none.mpr
  intro r hr
  have hr := List.all_eq_true.mp (List.all_eq_true.mp hnone _ hc) r hr
  simpa using hr

theorem lowerChar_of_ascii {c : Char} (hascii : c.toNat < 128) : lowerChar c.toLower = [c.toLower] := by
  have hlower : ∀ n : Fin 128, lowerChar (Char.ofNat n).toLower = [(Char.ofNat n).toLower] := by
    decide +kernel
  have hc := hlower ⟨c.toNat, hascii⟩
  rwa [Char.ofNat_toNat] at hc

theorem lowerChar_of_mem {c x : Char} (hx : x ∈ lowerChar c) : lowerChar x = [x] := by
  by_cases hascii : c.toNat < 128
  · rw [lowerChar, if_pos hascii, List.mem_singleton] at hx
    rw [hx]
    exact lowerChar_of_ascii hascii
  by_cases hdotted : c.toNat = 0x130
  · rw [lowerChar, if_neg hascii, if_pos hdotted] at hx
    rcases List.mem_cons.mp hx with rfl | hx
    · rfl
    · rw [List.mem_singleton.mp hx]
      exact lowerChar_special (by decide)
  cases hfind : lowerRanges.find? (·.contains c.toNat) with
  | none =>
    have hself := lowerChar_of_find? (Nat.le_of_not_lt hascii) hdotted hfind
    rw [hself, List.mem_singleton] at hx
    rw [hx]
    exact hself
  | some r =>
    have hmem := List.mem_of_find?_eq_some hfind
    have hcontains : r.contains c.toNat = true := (List.find?_some hfind :)
    obtain ⟨hpos, havoid⟩ := lowerRanges_start r hmem
    rw [lowerChar, if_neg hascii, if_neg hdotted, hfind, List.mem_singleton] at hx
    obtain ⟨hcode, happly⟩ := toNat_apply hmem hcontains
    rw [← hx] at hcode
    rw [← hcode] at happly
    by_cases hsmall : x.toNat < 128
    · -- Only one letter of ASCII comes up.
      simp only [reserved, List.forall_mem_cons] at happly
      have hk : x.toNat = 'k'.toNat := by
        change x.toNat = 0x6B
        omega
      rw [Char.toNat_inj.mp hk]
      rfl
    · apply lowerChar_of_find? (Nat.le_of_not_lt hsmall)
      · have hother := CaseRange.apply_of_avoids havoid hcontains
        omega
      · apply List.find?_eq_none.mpr
        intro s hs
        have hskips := List.all_eq_true.mp (List.all_eq_true.mp lowerRanges_skip r hmem) s hs
        rw [hcode, CaseRange.contains_apply_of_skips hskips hcontains hpos]
        exact Bool.false_ne_true

end Table

section Lowering

theorem lowerChar_of_mem_lowerFrom {before text : List Char} {x : Char}
    (hx : x ∈ lowerFrom before text) : lowerChar x = [x] := by
  induction text generalizing before with
  | nil => cases hx
  | cons c text ih =>
    rw [lowerFrom_cons, List.mem_append] at hx
    rcases hx with hx | hx
    · by_cases hsigma : c = capitalSigma
      · rw [if_pos hsigma] at hx
        split at hx
        · rw [List.mem_singleton.mp hx]
          exact lowerChar_special (by decide)
        · rw [List.mem_singleton.mp hx]
          exact lowerChar_special (by decide)
      · rw [if_neg hsigma] at hx
        exact lowerChar_of_mem hx
    · exact ih hx

theorem lowerFrom_of_subset {before text part : List Char} (hpart : part ⊆ lowerFrom before text) :
    lowerFrom [] part = part := by
  have hsigma : capitalSigma ∉ part :=
    fun hmem ↦ capitalSigma_notMem_lowerFrom before text (hpart hmem)
  have hown : part.map lowerChar = part.map fun x ↦ [x] :=
    List.map_congr_left fun x hx ↦ lowerChar_of_mem_lowerFrom (hpart hx)
  rw [lowerFrom_of_notMem hsigma, List.flatMap_def, hown, ← List.flatMap_def]
  exact List.flatMap_singleton' part

end Lowering

section Trimming

structure IsTrimmed (text : List Char) : Prop where
  head : ∀ c ∈ text.head?, isBlank c = false
  last : ∀ c ∈ text.getLast?, isBlank c = false

theorem trimEnd_subset (text : List Char) : trimEnd text ⊆ text := by
  intro c hc
  rw [trimEnd, List.mem_reverse] at hc
  exact List.mem_reverse.mp ((List.dropWhile_sublist _).subset hc)

theorem trimChars_subset (text : List Char) : trimChars text ⊆ text :=
  List.Subset.trans (trimEnd_subset _) (List.dropWhile_sublist _).subset

theorem trimEnd_eq_self {text : List Char} (h : ∀ c ∈ text.getLast?, isBlank c = false) :
    trimEnd text = text := by
  rcases List.eq_nil_or_concat text with rfl | ⟨start, c, rfl⟩
  · rfl
  · rw [List.concat_eq_append] at h ⊢
    exact trimEnd_of_last (h c (by simp))

theorem IsTrimmed.trimChars_eq {text : List Char} (h : IsTrimmed text) : trimChars text = text := by
  have hhead : text.dropWhile isBlank = text := by
    cases text with
    | nil => rfl
    | cons c text => exact List.dropWhile_cons_of_neg (by simp [h.head c rfl])
  rw [trimChars, hhead]
  exact trimEnd_eq_self h.last

theorem trimEnd_prefix (text : List Char) : trimEnd text <+: text := by
  apply List.reverse_suffix.mp
  rw [trimEnd, List.reverse_reverse]
  exact List.dropWhile_suffix isBlank

theorem isTrimmed_trimChars (text : List Char) : IsTrimmed (trimChars text) := by
  constructor
  · intro c hc
    have hhead := List.head?_dropWhile_not isBlank text
    obtain ⟨rest, hrest⟩ := trimEnd_prefix (text.dropWhile isBlank)
    rw [trimChars] at hc
    rw [← hrest, List.head?_append, hc] at hhead
    exact hhead
  · intro c hc
    have hlast := List.head?_dropWhile_not isBlank (text.dropWhile isBlank).reverse
    rw [trimChars, trimEnd, List.getLast?_reverse] at hc
    rw [hc] at hlast
    exact hlast

theorem IsTrimmed.lowerFrom {text : List Char} (h : IsTrimmed text) (before : List Char) :
    IsTrimmed (lowerFrom before text) := by
  constructor
  · intro x hx
    cases text with
    | nil => cases hx
    | cons c text =>
      have hc := h.head c rfl
      rw [lowerFrom_cons] at hx
      by_cases hsigma : c = capitalSigma
      · rw [if_pos hsigma] at hx
        split at hx
        · cases hx
          decide
        · cases hx
          decide
      · obtain ⟨y, rest, hy⟩ := List.exists_cons_of_ne_nil (lowerChar_ne_nil c)
        have hmem : y ∈ lowerChar c := hy ▸ List.mem_cons_self
        rw [if_neg hsigma, hy] at hx
        cases hx
        apply Bool.eq_false_iff.mpr
        intro hblank
        rw [isBlank_of_mem_lowerChar hmem hblank] at hc
        cases hc
  · intro x hx
    rcases List.eq_nil_or_concat text with rfl | ⟨start, c, rfl⟩
    · cases hx
    · rw [List.concat_eq_append] at h hx
      obtain ⟨start', c', hlower, hc'⟩ := exists_last_lowerFrom before start (h.last c (by simp))
      rw [hlower, List.getLast?_concat] at hx
      cases hx
      exact hc'

end Trimming

end Text

theorem trim_normalize (name : String) : Text.trim (normalize name) = normalize name := by
  have htrimmed := (Text.isTrimmed_trimChars name.toList).lowerFrom []
  rw [normalize, Text.trim, Text.lower, Text.trim, String.toList_ofList, String.toList_ofList,
    htrimmed.trimChars_eq]

theorem normalize_lower (name : String) : normalize (Text.lower name) = Text.trim (Text.lower name) := by
  rw [normalize, Text.trim, Text.lower, String.toList_ofList]
  apply congrArg String.ofList
  rw [Text.lower, String.toList_ofList]
  exact Text.lowerFrom_of_subset (Text.trimChars_subset _)

end BraceScript
