import BraceScript.Source.Braces
import Mathlib.Data.List.Forall2

namespace BraceScript.Braces

theorem closing_ne_opening : closing ≠ opening := by decide

theorem masked_ne_opening : masked ≠ opening := by decide

theorem masked_ne_closing : masked ≠ closing := by decide

/-- One run of masking: the text, the open braces before it, their number within the limit, the
masked text and the fates of the open braces. -/
inductive MaskRun : List Char → List Bool → Nat → List Char → List Bool → Prop
  | nil (stack : List Bool) (depth : Nat) : MaskRun [] stack depth [] (stack.map fun _ ↦ false)
  | opened {text shapes : List Char} {stack fates : List Bool} {depth : Nat} {kept stays : Bool} :
      kept = decide (depth < maxNesting) →
      MaskRun text (kept :: stack) (if kept then depth + 1 else depth) shapes (stays :: fates) →
      MaskRun (opening :: text) stack depth ((if stays then opening else masked) :: shapes) fates
  | stray {text shapes : List Char} {fates : List Bool} {depth : Nat} :
      MaskRun text [] depth shapes fates →
      MaskRun (closing :: text) [] depth (masked :: shapes) fates
  | closed {text shapes : List Char} {stack fates : List Bool} {depth : Nat} {kept : Bool} :
      MaskRun text stack (if kept then depth - 1 else depth) shapes fates →
      MaskRun (closing :: text) (kept :: stack) depth
        ((if kept then closing else masked) :: shapes) (kept :: fates)
  | other {c : Char} {text shapes : List Char} {stack fates : List Bool} {depth : Nat} :
      c ≠ opening → c ≠ closing → MaskRun text stack depth shapes fates →
      MaskRun (c :: text) stack depth (c :: shapes) fates

theorem MaskRun.length_fates {text shapes : List Char} {stack fates : List Bool} {depth : Nat}
    (h : MaskRun text stack depth shapes fates) : fates.length = stack.length := by
  induction h with
  | nil => simp
  | opened _ _ ih => simpa using ih
  | stray _ ih => exact ih
  | closed _ ih => simpa using ih
  | other _ _ _ ih => exact ih

theorem maskFrom_run (text : List Char) (stack : List Bool) (depth : Nat) :
    MaskRun text stack depth (maskFrom text stack depth).1 (maskFrom text stack depth).2 := by
  induction text generalizing stack depth with
  | nil => exact .nil stack depth
  | cons c text ih =>
    unfold maskFrom
    by_cases ho : c = opening
    · subst ho
      simp only [↓reduceIte]
      have h := ih (decide (depth < maxNesting) :: stack)
        (if decide (depth < maxNesting) then depth + 1 else depth)
      have hlen := h.length_fates
      generalize maskFrom text (decide (depth < maxNesting) :: stack)
        (if decide (depth < maxNesting) then depth + 1 else depth) = r at h hlen ⊢
      obtain ⟨shapes, fates⟩ := r
      cases fates with
      | nil => simp at hlen
      | cons stays fates => exact .opened rfl h
    · by_cases hc : c = closing
      · subst hc
        simp only [closing_ne_opening, ↓reduceIte]
        cases stack with
        | nil => exact .stray (ih [] depth)
        | cons kept stack => exact .closed (ih stack _)
      · simp only [ho, hc, ↓reduceIte]
        exact .other ho hc (ih stack depth)

inductive StandsFor : Char → Char → Prop
  | same (c : Char) : StandsFor c c
  | opening : StandsFor masked opening
  | closing : StandsFor masked closing

theorem StandsFor.eq {shape c : Char} (h : StandsFor shape c) (hs : shape ≠ masked) :
    shape = c := by
  cases h with
  | same => rfl
  | opening | closing => exact absurd rfl hs

theorem StandsFor.utf8Size_eq {shape c : Char} (h : StandsFor shape c) :
    shape.utf8Size = c.utf8Size := by
  cases h <;> rfl

theorem MaskRun.standsFor {text shapes : List Char} {stack fates : List Bool} {depth : Nat}
    (h : MaskRun text stack depth shapes fates) : List.Forall₂ StandsFor shapes text := by
  induction h with
  | nil => exact .nil
  | @opened _ _ _ _ _ _ stays _ _ ih =>
    cases stays
    · exact .cons .opening ih
    · exact .cons (.same _) ih
  | stray _ ih => exact .cons .closing ih
  | @closed _ _ _ _ _ kept _ ih =>
    cases kept
    · exact .cons .closing ih
    · exact .cons (.same _) ih
  | other _ _ _ ih => exact .cons (.same _) ih

def Balanced : Nat → List Char → Prop
  | n, [] => n = 0
  | n, c :: text =>
    if c = opening then Balanced (n + 1) text
    else if c = closing then ∃ k, n = k + 1 ∧ Balanced k text
    else Balanced n text

theorem Balanced.cons_masked {n : Nat} {text : List Char} (h : Balanced n text) :
    Balanced n (masked :: text) := by
  simpa only [Balanced, masked_ne_opening, masked_ne_closing, ↓reduceIte] using h

theorem MaskRun.balanced {text shapes : List Char} {stack fates : List Bool} {depth : Nat}
    (h : MaskRun text stack depth shapes fates) : Balanced (fates.count true) shapes := by
  induction h with
  | nil stack => simp [Balanced, List.count_replicate]
  | @opened _ _ _ _ _ _ stays _ _ ih =>
    cases stays
    · rw [List.count_cons_of_ne (by simp)] at ih
      exact ih.cons_masked
    · rw [List.count_cons_self] at ih
      simpa only [Balanced, ↓reduceIte] using ih
  | stray _ ih => exact ih.cons_masked
  | @closed _ _ _ _ _ kept _ ih =>
    cases kept
    · rw [List.count_cons_of_ne (by simp)]
      exact ih.cons_masked
    · rw [List.count_cons_self]
      simp only [Balanced, closing_ne_opening, ↓reduceIte]
      exact ⟨_, rfl, ih⟩
  | other ho hc _ ih => simpa only [Balanced, ho, hc, ↓reduceIte] using ih

theorem mask_run (text : List Char) : MaskRun text [] 0 (mask text) [] := by
  have h := maskFrom_run text [] 0
  rwa [List.length_eq_zero_iff.mp h.length_fates] at h

theorem mask_standsFor (text : List Char) : List.Forall₂ StandsFor (mask text) text :=
  (mask_run text).standsFor

theorem mask_balanced (text : List Char) : Balanced 0 (mask text) := (mask_run text).balanced

end BraceScript.Braces
