import BraceScript.Text.Blank
import BraceScript.Text.Case
import Mathlib.Data.List.TakeWhile

namespace BraceScript.Text

section Table

def CaseRange.avoids (r : CaseRange) (lo hi : Nat) : Bool :=
  decide (r.apply r.hi < lo) || decide (hi < r.apply r.lo)

theorem CaseRange.apply_of_avoids {r : CaseRange} {n lo hi : Nat} (h : r.avoids lo hi = true)
    (hn : r.contains n = true) : r.apply n < lo ∨ hi < r.apply n := by
  simp only [avoids, contains, Bool.or_eq_true, Bool.and_eq_true, decide_eq_true_eq] at h hn
  unfold apply at *
  omega

/-- Code points that nothing outside ASCII is mapped to: those of ASCII but for `k`, the blank ones,
the capital sigma and those that are no characters. -/
def reserved : List (Nat × Nat) :=
  [(0, 0x6A), (0x6C, 0x85), (0xA0, 0xA0), (0x3A3, 0x3A3), (0x1680, 0x1680), (0x2000, 0x200A),
    (0x2028, 0x2029), (0x202F, 0x202F), (0x205F, 0x205F), (0x3000, 0x3000), (0xD800, 0xDFFF)]

theorem lowerRanges_avoid : ∀ r ∈ lowerRanges, r.apply r.hi < 0x110000 ∧
    ∀ p ∈ reserved, r.avoids p.1 p.2 = true := by
  decide +kernel

theorem toNat_apply {r : CaseRange} {n : Nat} (hr : r ∈ lowerRanges) (hn : r.contains n = true) :
    (Char.ofNat (r.apply n)).toNat = r.apply n ∧
      ∀ p ∈ reserved, r.apply n < p.1 ∨ p.2 < r.apply n := by
  obtain ⟨hbound, havoid⟩ := lowerRanges_avoid r hr
  have happly (p : Nat × Nat) (hp : p ∈ reserved) := CaseRange.apply_of_avoids (havoid p hp) hn
  have hvalid : (r.apply n).isValidChar := by
    have hle : r.apply n ≤ r.apply r.hi := by
      simp only [CaseRange.contains, CaseRange.apply, Bool.and_eq_true, decide_eq_true_eq] at hn ⊢
      omega
    have hpair := happly (0xD800, 0xDFFF) (by simp [reserved])
    unfold Nat.isValidChar
    omega
  refine ⟨?_, happly⟩
  unfold Char.ofNat
  rw [dif_pos hvalid]
  rfl

/-- A character outside ASCII is mapped to itself, is the dotted capital, or avoids what is
reserved. -/
theorem lowerChar_cases {c : Char} (h : 128 ≤ c.toNat) :
    lowerChar c = [c] ∨ lowerChar c = ['i', Char.ofNat 0x307] ∨
      ∃ x : Char, lowerChar c = [x] ∧ ∀ p ∈ reserved, x.toNat < p.1 ∨ p.2 < x.toNat := by
  unfold lowerChar
  rw [if_neg (by omega)]
  split
  · exact Or.inr (Or.inl rfl)
  · cases hfind : lowerRanges.find? (·.contains c.toNat) with
    | none => exact Or.inl rfl
    | some r =>
      refine Or.inr (Or.inr ⟨_, rfl, ?_⟩)
      obtain ⟨hcode, happly⟩ := toNat_apply (List.mem_of_find?_eq_some hfind)
        (List.find?_some hfind :)
      rw [hcode]
      exact happly

theorem capitalSigma_notMem_lowerChar {c : Char} (hc : c ≠ capitalSigma) :
    capitalSigma ∉ lowerChar c := by
  intro hmem
  by_cases hascii : c.toNat < 128
  · rw [lowerChar, if_pos hascii, List.mem_singleton] at hmem
    have hlower : ∀ n : Fin 128, capitalSigma ≠ (Char.ofNat n).toLower := by decide +kernel
    have hc := hlower ⟨c.toNat, hascii⟩
    rw [Char.ofNat_toNat] at hc
    exact hc hmem
  · obtain hself | hdotted | ⟨x, hx, havoid⟩ := lowerChar_cases (Nat.le_of_not_lt hascii)
    · rw [hself, List.mem_singleton] at hmem
      exact hc hmem.symm
    · rw [hdotted] at hmem
      exact absurd hmem (by decide)
    · rw [hx, List.mem_singleton] at hmem
      have hpair := havoid (0x3A3, 0x3A3) (by simp [reserved])
      rw [← hmem] at hpair
      exact absurd hpair (by decide)

theorem isBlank_of_mem_lowerChar {c x : Char} (hx : x ∈ lowerChar c) (hblank : isBlank x = true) :
    isBlank c = true := by
  by_cases hascii : c.toNat < 128
  · rw [lowerChar, if_pos hascii, List.mem_singleton] at hx
    have hlower : ∀ n : Fin 128, isBlank (Char.ofNat n).toLower = true →
        isBlank (Char.ofNat n) = true := by decide +kernel
    have hc := hlower ⟨c.toNat, hascii⟩
    rw [Char.ofNat_toNat] at hc
    exact hc (hx ▸ hblank)
  · obtain hself | hdotted | ⟨y, hy, havoid⟩ := lowerChar_cases (Nat.le_of_not_lt hascii)
    · rw [hself, List.mem_singleton] at hx
      exact hx ▸ hblank
    · rw [hdotted] at hx
      simp only [List.mem_cons, List.not_mem_nil, or_false] at hx
      obtain rfl | rfl := hx <;> cases hblank
    · rw [hy, List.mem_singleton] at hx
      subst hx
      simp only [reserved, List.forall_mem_cons] at havoid
      simp only [isBlank, Bool.or_eq_true, Bool.and_eq_true, decide_eq_true_eq, beq_iff_eq] at hblank
      omega

/-- Letters of ASCII other than `i` and `k` are the lower-case forms of letters of ASCII only. -/
theorem lowerChar_eq_cons {c x : Char} {rest : List Char} (h : lowerChar c = x :: rest)
    (hx : x.toNat < 128) (hi : x ≠ 'i') (hk : x ≠ 'k') : c.toLower = x ∧ rest = [] := by
  by_cases hascii : c.toNat < 128
  · rw [lowerChar, if_pos hascii] at h
    exact ⟨(List.cons.inj h).1, (List.cons.inj h).2.symm⟩
  · exfalso
    obtain hself | hdotted | ⟨y, hy, havoid⟩ := lowerChar_cases (Nat.le_of_not_lt hascii)
    · rw [hself] at h
      exact hascii ((List.cons.inj h).1 ▸ hx)
    · rw [hdotted] at h
      exact hi (List.cons.inj h).1.symm
    · rw [hy] at h
      obtain rfl := (List.cons.inj h).1
      simp only [reserved, List.forall_mem_cons] at havoid
      have hcode : y.toNat = 'k'.toNat := by
        change y.toNat = 0x6B
        omega
      exact hk (Char.toNat_inj.mp hcode)

theorem lowerChar_ne_nil (c : Char) : lowerChar c ≠ [] := by
  unfold lowerChar
  split
  · simp
  · split
    · simp
    · split <;> simp

end Table

section Context

variable {before before' : List Char}

theorem meetsCased_cons (c : Char) (text : List Char) :
    meetsCased (c :: text) = if isCaseIgnorable c then meetsCased text else isCased c := by
  cases h : isCaseIgnorable c <;> simp [meetsCased, h]

theorem lowerFrom_cons (before : List Char) (c : Char) (text : List Char) :
    lowerFrom before (c :: text) =
      (if c = capitalSigma then
        if meetsCased before && !meetsCased text then [finalSigma] else [smallSigma]
      else lowerChar c) ++ lowerFrom (c :: before) text :=
  rfl

/-- Of what stands before a text only the first character that casing does not ignore matters. -/
theorem lowerFrom_congr (h : meetsCased before = meetsCased before') (text : List Char) :
    lowerFrom before text = lowerFrom before' text := by
  induction text generalizing before before' with
  | nil => rfl
  | cons c text ih =>
    have hnext : meetsCased (c :: before) = meetsCased (c :: before') := by
      rw [meetsCased_cons, meetsCased_cons, h]
    rw [lowerFrom_cons, lowerFrom_cons, h, ih hnext]

/-- The first character that casing does not ignore is a capital sigma, and no cased one follows
it. -/
def opensWithSigma (text : List Char) : Bool :=
  match text.dropWhile isCaseIgnorable with
  | [] => false
  | c :: rest => decide (c = capitalSigma) && !meetsCased rest

theorem opensWithSigma_cons (c : Char) (text : List Char) :
    opensWithSigma (c :: text) = if isCaseIgnorable c then opensWithSigma text
      else decide (c = capitalSigma) && !meetsCased text := by
  cases h : isCaseIgnorable c <;> simp [opensWithSigma, h]

theorem ne_capitalSigma_of_ignorable {c : Char} (h : isCaseIgnorable c = true) :
    c ≠ capitalSigma := by
  rintro rfl
  have hsigma : isCaseIgnorable capitalSigma = false := by decide +kernel
  rw [hsigma] at h
  cases h

/-- Behind a cased character such a letter becomes the final form, and otherwise it does not; all
else is the same. -/
theorem lowerFrom_of_meetsCased (text : List Char) (h : meetsCased before = true)
    (h' : meetsCased before' = false) :
    if opensWithSigma text then
      ∃ start rest, lowerFrom before text = start ++ finalSigma :: rest ∧
        lowerFrom before' text = start ++ smallSigma :: rest
    else lowerFrom before text = lowerFrom before' text := by
  induction text generalizing before before' with
  | nil => rfl
  | cons c text ih =>
    rw [opensWithSigma_cons, lowerFrom_cons, lowerFrom_cons]
    cases hc : isCaseIgnorable c with
    | true =>
      have hnext : meetsCased (c :: before) = true := by rw [meetsCased_cons, hc, if_pos rfl, h]
      have hnext' : meetsCased (c :: before') = false := by rw [meetsCased_cons, hc, if_pos rfl, h']
      have hrest := ih hnext hnext'
      have hplain := ne_capitalSigma_of_ignorable hc
      rw [if_neg hplain, if_neg hplain, if_pos rfl]
      split
      · rename_i hopens
        rw [if_pos hopens] at hrest
        obtain ⟨start, rest, hfinal, hsmall⟩ := hrest
        refine ⟨lowerChar c ++ start, rest, ?_, ?_⟩
        · rw [hfinal, List.append_assoc]
        · rw [hsmall, List.append_assoc]
      · rename_i hopens
        rw [if_neg hopens] at hrest
        rw [hrest]
    | false =>
      -- What follows sees this character and nothing behind it.
      have hnext : meetsCased (c :: before) = meetsCased (c :: before') := by
        rw [meetsCased_cons, meetsCased_cons, hc]
        rfl
      rw [lowerFrom_congr hnext, h, h']
      by_cases hsigma : c = capitalSigma
      · cases hmeets : meetsCased text with
        | true => simp [hsigma]
        | false =>
          simp only [hsigma]
          exact ⟨[], lowerFrom (capitalSigma :: before') text, rfl, rfl⟩
      · simp [hsigma]

end Context

section Images

theorem capitalSigma_notMem_lowerFrom (before text : List Char) :
    capitalSigma ∉ lowerFrom before text := by
  induction text generalizing before with
  | nil => exact List.not_mem_nil
  | cons c text ih =>
    rw [lowerFrom_cons, List.mem_append, not_or]
    refine ⟨?_, ih _⟩
    by_cases hc : c = capitalSigma
    · rw [if_pos hc]
      split <;> decide
    · rw [if_neg hc]
      exact capitalSigma_notMem_lowerChar hc

theorem lowerFrom_of_notMem {text : List Char} (h : capitalSigma ∉ text) (before : List Char) :
    lowerFrom before text = text.flatMap lowerChar := by
  induction text generalizing before with
  | nil => rfl
  | cons c text ih =>
    rw [List.mem_cons, not_or] at h
    rw [lowerFrom_cons, if_neg (Ne.symm h.1), ih h.2, List.flatMap_cons]

theorem lower_lowerFrom_eq_iff {before : List Char} (h : meetsCased before = true)
    (text : List Char) :
    lower (String.ofList (lowerFrom before text)) = lower (String.ofList (lowerFrom [] text)) ↔
      opensWithSigma text = false := by
  have hmet := lowerFrom_of_meetsCased text h (rfl : meetsCased [] = false)
  cases hopens : opensWithSigma text with
  | false =>
    rw [hopens, if_neg Bool.false_ne_true] at hmet
    simp [hmet]
  | true =>
    rw [hopens, if_pos rfl] at hmet
    obtain ⟨start, rest, hfinal, hsmall⟩ := hmet
    simp only [Bool.true_eq_false, iff_false]
    intro heq
    have hclear := capitalSigma_notMem_lowerFrom before text
    have hclear' := capitalSigma_notMem_lowerFrom [] text
    have hlists := String.ofList_injective heq
    rw [String.toList_ofList, String.toList_ofList, lowerFrom_of_notMem hclear,
      lowerFrom_of_notMem hclear', hfinal, hsmall, List.flatMap_append, List.flatMap_append,
      List.append_cancel_left_eq, List.flatMap_cons, List.flatMap_cons] at hlists
    have hforms : lowerChar finalSigma = [finalSigma] ∧ lowerChar smallSigma = [smallSigma] := ⟨rfl, rfl⟩
    rw [hforms.1, hforms.2] at hlists
    exact absurd (List.cons.inj hlists).1 (by decide)

theorem exists_last_lowerFrom (before start : List Char) {c : Char} (hc : isBlank c = false) :
    ∃ start' c', lowerFrom before (start ++ [c]) = start' ++ [c'] ∧ isBlank c' = false := by
  induction start generalizing before with
  | nil =>
    rw [List.nil_append, lowerFrom_cons, lowerFrom, List.append_nil]
    by_cases hsigma : c = capitalSigma
    · rw [if_pos hsigma]
      split
      · exact ⟨[], finalSigma, rfl, by decide⟩
      · exact ⟨[], smallSigma, rfl, by decide⟩
    · rw [if_neg hsigma]
      have hlast := List.getLast_mem (lowerChar_ne_nil c)
      refine ⟨_, _, (List.dropLast_concat_getLast (lowerChar_ne_nil c)).symm, ?_⟩
      rw [Bool.eq_false_iff]
      intro hblank
      rw [isBlank_of_mem_lowerChar hlast hblank] at hc
      cases hc
  | cons d start ih =>
    obtain ⟨start', c', hrest, hc'⟩ := ih (d :: before)
    rw [List.cons_append, lowerFrom_cons, hrest, ← List.append_assoc]
    exact ⟨_, c', rfl, hc'⟩

/-- A start in letters that only ASCII is mapped to is there before lower-casing as well. -/
theorem map_toLower_of_prefix {lead text before : List Char}
    (hlead : ∀ x ∈ lead, x.toNat < 128 ∧ x ≠ 'i' ∧ x ≠ 'k') (h : lead <+: lowerFrom before text) :
    (text.take lead.length).map Char.toLower = lead := by
  induction lead generalizing text before with
  | nil => rfl
  | cons x lead ih =>
    obtain ⟨⟨hascii, hi, hk⟩, hlead⟩ := List.forall_mem_cons.mp hlead
    cases text with
    | nil => exact absurd h (by simp [lowerFrom])
    | cons c text =>
      rw [lowerFrom_cons] at h
      by_cases hsigma : c = capitalSigma
      · -- Neither form of the letter is one of ASCII.
        exfalso
        rw [if_pos hsigma] at h
        split at h
        · rw [(List.cons_prefix_cons.mp h).1] at hascii
          exact absurd hascii (by decide)
        · rw [(List.cons_prefix_cons.mp h).1] at hascii
          exact absurd hascii (by decide)
      · rw [if_neg hsigma] at h
        obtain ⟨y, rest, hy⟩ := List.exists_cons_of_ne_nil (lowerChar_ne_nil c)
        rw [hy, List.cons_append, List.cons_prefix_cons] at h
        obtain ⟨rfl, h⟩ := h
        obtain ⟨hlower, rfl⟩ := lowerChar_eq_cons hy hascii hi hk
        simp only [List.length_cons, List.take_succ_cons, List.map_cons, hlower, ih hlead h]

end Images

section Trimming

theorem trimEnd_of_last {start : List Char} {c : Char} (hc : isBlank c = false) :
    trimEnd (start ++ [c]) = start ++ [c] := by
  simp [trimEnd, hc]

theorem isBlank_last {start : List Char} {c : Char} (h : trimChars (start ++ [c]) = start ++ [c]) :
    isBlank c = false := by
  have hreverse : (((start ++ [c]).dropWhile isBlank).reverse).dropWhile isBlank =
      c :: start.reverse := by
    have hsame := congrArg List.reverse h
    simpa [trimChars, trimEnd] using hsame
  have hhead := List.head?_dropWhile_not isBlank ((start ++ [c]).dropWhile isBlank).reverse
  rw [hreverse] at hhead
  exact hhead

end Trimming

end BraceScript.Text
