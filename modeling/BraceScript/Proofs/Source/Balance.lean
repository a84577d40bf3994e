import BraceScript.Proofs.Source.Depth
import BraceScript.Proofs.Source.Enclosure
import BraceScript.Proofs.Source.Grammar
import BraceScript.Proofs.Source.Matching

namespace BraceScript

namespace Braces

section Fixed

variable {n : Nat} {text : List Char}

theorem maskFrom_of_balanced (hb : Balanced n text) (hs : Shallow n text) :
    maskFrom text (List.replicate n true) n = (text, List.replicate n true) := by
  induction text generalizing n with
  | nil =>
    obtain rfl : n = 0 := hb
    rfl
  | cons c text ih =>
    unfold Balanced at hb
    have hs := hs.2
    by_cases ho : c = opening
    · subst ho
      rw [if_pos rfl] at hb hs
      have hkept : decide (n < maxNesting) = true := decide_eq_true hs.le
      exact maskFrom_opening hkept (ih hb hs)
    · rw [if_neg ho] at hb hs
      by_cases hc : c = closing
      · subst hc
        rw [if_pos rfl] at hb hs
        obtain ⟨k, rfl, hb⟩ := hb
        exact maskFrom_closing (ih hb hs)
      · rw [if_neg hc] at hb hs
        exact maskFrom_other ho hc (ih hb hs)

theorem mask_mask (text : List Char) : mask (mask text) = mask text := by
  have h := maskFrom_of_balanced (mask_balanced text) (mask_shallow text)
  rw [List.replicate_zero] at h
  rw [mask, h]

theorem Shallow.count_le (hs : Shallow n text) {u : List Char} (hu : u <+: text) :
    n + u.count opening ≤ u.count closing + maxNesting := by
  induction text generalizing n u with
  | nil =>
    rw [List.prefix_nil.mp hu]
    simpa using hs.le
  | cons c text ih =>
    rcases List.prefix_cons_iff.mp hu with rfl | ⟨v, rfl, hv⟩
    · simpa using hs.le
    have hs := hs.2
    by_cases ho : c = opening
    · subst ho
      rw [if_pos rfl] at hs
      have hle := ih hs hv
      rw [List.count_cons_self, List.count_cons_of_ne closing_ne_opening.symm]
      omega
    · rw [if_neg ho] at hs
      rw [List.count_cons_of_ne ho]
      by_cases hc : c = closing
      · subst hc
        rw [if_pos rfl] at hs
        have hle := ih hs hv
        rw [List.count_cons_self]
        omega
      · rw [if_neg hc] at hs
        rw [List.count_cons_of_ne hc]
        exact ih hs hv

end Fixed

section Bytes

/-- The first byte is the second, or the control character in the place of a brace. -/
def MasksByte (b b' : UInt8) : Prop := b = b' ∨ b = 0x01 ∧ (b' = 0x7b ∨ b' = 0x7d)

theorem StandsFor.bytes {shape c : Char} (h : StandsFor shape c) :
    List.Forall₂ MasksByte (String.utf8EncodeChar shape) (String.utf8EncodeChar c) := by
  cases h with
  | same => exact List.forall₂_same.mpr fun _ _ ↦ Or.inl rfl
  | opening => exact .cons (Or.inr ⟨rfl, Or.inl rfl⟩) .nil
  | closing => exact .cons (Or.inr ⟨rfl, Or.inr rfl⟩) .nil

theorem bytes_standsFor {shapes text : List Char} (h : List.Forall₂ StandsFor shapes text) :
    List.Forall₂ MasksByte (shapes.flatMap String.utf8EncodeChar)
      (text.flatMap String.utf8EncodeChar) := by
  induction h with
  | nil => exact .nil
  | cons hc _ ih => exact List.rel_append hc.bytes ih

theorem bytes_ofList (text : List Char) :
    (String.ofList text).toByteArray.data.toList = text.flatMap String.utf8EncodeChar := by
  rw [String.toByteArray_ofList]
  exact List.toList_data_toByteArray

end Bytes

section Pairs

variable {i : Nat} {opens : List Nat} {text : List Char}

theorem fst_mem {p : Nat × Nat} (hp : p ∈ (matchFrom i opens text).1) : p.1 ∈ opens ∨ i ≤ p.1 := by
  fun_induction matchFrom i opens text with
  | case1 => simp at hp
  | case2 i opens text ih =>
    rcases ih hp with hmem | hle
    · rcases List.mem_cons.mp hmem with heq | hmem
      · exact Or.inr heq.ge
      · exact Or.inl hmem
    · exact Or.inr (by omega)
  | case3 i text _ ih => exact Or.inr (by simpa using Nat.le_of_lt ((ih hp).resolve_left (by simp)))
  | case4 i text j opens _ ih =>
    rcases List.mem_cons.mp hp with rfl | hp
    · exact Or.inl List.mem_cons_self
    · rcases ih hp with hmem | hle
      · exact Or.inl (List.mem_cons_of_mem j hmem)
      · exact Or.inr (by omega)
  | case5 i opens c text _ _ ih =>
    rcases ih hp with hmem | hle
    · exact Or.inl hmem
    · exact Or.inr (by omega)

theorem snd_unique (hnodup : opens.Nodup) (hlt : ∀ a ∈ opens, a < i) {a j j' : Nat}
    (hj : (a, j) ∈ (matchFrom i opens text).1) (hj' : (a, j') ∈ (matchFrom i opens text).1) :
    j = j' := by
  fun_induction matchFrom i opens text with
  | case1 => simp at hj
  | case2 i opens text ih =>
    refine ih (List.nodup_cons.mpr ⟨fun hmem ↦ Nat.lt_irrefl i (hlt i hmem), hnodup⟩) ?_ hj hj'
    exact List.forall_mem_cons.mpr ⟨i.lt_succ_self, fun b hb ↦ Nat.lt_succ_of_lt (hlt b hb)⟩
  | case3 i text _ ih => exact ih .nil (by simp) hj hj'
  | case4 i text k opens _ ih =>
    obtain ⟨hk, hnodup⟩ := List.nodup_cons.mp hnodup
    obtain ⟨hki, hlt⟩ := List.forall_mem_cons.mp hlt
    -- What is closed here is no longer open after.
    have hgone (l : Nat) : (k, l) ∉ (matchFrom (i + 1) opens text).1 := by
      intro hl
      rcases fst_mem hl with hmem | hle
      · exact hk hmem
      · exact absurd hle (by dsimp only; omega)
    rcases List.mem_cons.mp hj with heq | hlater
    · cases heq
      rcases List.mem_cons.mp hj' with heq | hlater
      · exact (Prod.mk.inj heq).2.symm
      · exact absurd hlater (hgone j')
    · rcases List.mem_cons.mp hj' with heq | hlater'
      · cases heq
        exact absurd hlater (hgone j)
      · exact ih hnodup (fun b hb ↦ Nat.lt_succ_of_lt (hlt b hb)) hlater hlater'
  | case5 i opens c text _ _ ih => exact ih hnodup (fun b hb ↦ Nat.lt_add_right _ (hlt b hb)) hj hj'

theorem Balanced.rest {u v : List Char} (h : Balanced opens.length (u ++ v)) :
    Balanced (matchFrom i opens u).2.length v := by
  fun_induction matchFrom i opens u with
  | case1 => exact h
  | case2 i opens u ih =>
    apply ih
    simpa [Balanced] using h
  | case3 i u _ ih => simp [Balanced, closing_ne_opening] at h
  | case4 i u j opens _ ih =>
    apply ih
    simpa [Balanced, closing_ne_opening] using h
  | case5 i opens c u ho hc ih =>
    apply ih
    simpa [Balanced, ho, hc] using h

theorem Balanced.exists_pair (h : Balanced opens.length text) {a : Nat} (ha : a ∈ opens) :
    ∃ j, (a, j) ∈ (matchFrom i opens text).1 := by
  fun_induction matchFrom i opens text with
  | case1 i opens =>
    rw [List.length_eq_zero_iff.mp h] at ha
    cases ha
  | case2 i opens text ih =>
    apply ih
    · simpa [Balanced] using h
    · exact List.mem_cons_of_mem i ha
  | case3 => cases ha
  | case4 i text j opens _ ih =>
    rcases List.mem_cons.mp ha with rfl | ha
    · exact ⟨i, List.mem_cons_self⟩
    · obtain ⟨k, hk⟩ := ih (by simpa [Balanced, closing_ne_opening] using h) ha
      exact ⟨k, List.mem_cons_of_mem _ hk⟩
  | case5 i opens c text ho hc ih =>
    apply ih
    · simpa [Balanced, ho, hc] using h
    · exact ha

/-- An opening brace that survives masking is closed by the same brace before and after. -/
theorem exists_closing {source : String} {u v : List Char}
    (h : mask source.toList = u ++ opening :: v) :
    ∃ j, ∀ k, ((width u, k) ∈ (matchFrom 0 [] (mask source.toList)).1 ↔ k = j) ∧
      ((width u, k) ∈ pairs source ↔ k = j) := by
  have hbalanced : Balanced (List.length ([] : List Nat)) (u ++ opening :: v) := h ▸ mask_balanced _
  have hrest := hbalanced.rest (i := 0)
  have hopened : Balanced (width u :: (matchFrom 0 [] u).2).length v := by simpa [Balanced] using hrest
  obtain ⟨j, hj⟩ := hopened.exists_pair (i := width u + 1) List.mem_cons_self
  have hmasked : (width u, j) ∈ (matchFrom 0 [] (mask source.toList)).1 := by
    rw [h, matchFrom_append, Nat.zero_add, matchFrom_opening]
    exact List.mem_append_right _ hj
  have hsource := (mem_matchFrom_mask.mp hmasked).1
  refine ⟨j, fun k ↦ ⟨⟨?_, ?_⟩, ⟨?_, ?_⟩⟩⟩
  · intro hk
    exact snd_unique .nil (by simp) hk hmasked
  · rintro rfl
    exact hmasked
  · intro hk
    exact snd_unique .nil (by simp) hk hsource
  · rintro rfl
    exact hsource

end Pairs

/-- `source` with every brace that is ordinary text masked. -/
def maskText (source : String) : String := String.ofList (mask source.toList)

@[simp] theorem toList_maskText (source : String) : (maskText source).toList = mask source.toList :=
  String.toList_ofList

theorem pairs_maskText (source : String) :
    pairs (maskText source) = (matchFrom 0 [] (mask source.toList)).1 := by
  rw [pairs, toList_maskText]

theorem bytes_maskText (source : String) :
    List.Forall₂ MasksByte (maskText source).toByteArray.data.toList
      source.toByteArray.data.toList := by
  have h := bytes_standsFor (mask_standsFor source.toList)
  rwa [← bytes_ofList, ← bytes_ofList, String.ofList_toList] at h

theorem utf8ByteSize_maskText (source : String) :
    (maskText source).utf8ByteSize = source.utf8ByteSize := by
  rw [← width_toList, ← width_toList, toList_maskText]
  exact width_eq_of_standsFor (mask_standsFor source.toList)

/-- Masked text is as long as its source and differs from it only in braces that became control
characters. Its braces are balanced, within the limit, and are the pairs of the source that lie
within it. It masks to itself, and the grammar takes all of it, without stray braces, to the nodes
of the document. -/
theorem maskText_spec (source : String) :
    (maskText source).utf8ByteSize = source.utf8ByteSize ∧
    List.Forall₂ MasksByte (maskText source).toByteArray.data.toList
      source.toByteArray.data.toList ∧
    (∀ u, u <+: (maskText source).toList →
      u.count closing ≤ u.count opening ∧ u.count opening ≤ u.count closing + 256) ∧
    (maskText source).toList.count closing = (maskText source).toList.count opening ∧
    (∀ u v, (maskText source).toList = u ++ opening :: v →
      ∃ j, ∀ k, ((width u, k) ∈ pairs (maskText source) ↔ k = j) ∧
        ((width u, k) ∈ pairs source ↔ k = j)) ∧
    (∀ i j, (i, j) ∈ pairs (maskText source) ↔
      (i, j) ∈ pairs source ∧ pairsAround source i + unclosedBefore source i < 256) ∧
    maskText (maskText source) = maskText source ∧
    (∀ o, Grammar.Yields (.rule .document) 0 (maskText source).toList o ↔
      o = .matched [(parse source).document] source.utf8ByteSize []) ∧
    ¬(parse source).document.Uses .stray := by
  obtain ⟨hbefore, hall⟩ := balanced_iff.mp (mask_balanced source.toList)
  simp only [Nat.zero_add] at hbefore hall
  rw [toList_maskText, pairs_maskText]
  refine ⟨utf8ByteSize_maskText source, bytes_maskText source, ?_, hall, ?_, ?_, ?_, ?_,
    (parse source).document_not_stray⟩
  · intro u hu
    have hle := (mask_shallow source.toList).count_le hu
    rw [Nat.zero_add] at hle
    exact ⟨hbefore u hu, hle⟩
  · intro u v h
    exact exists_closing h
  · intro i j
    exact mem_matchFrom_mask
  · rw [maskText, toList_maskText, mask_mask, maskText]
  · intro o
    constructor
    · intro h
      exact h.unique (document_matched source)
    · rintro rfl
      exact document_matched source

end Braces

end BraceScript
