import BraceScript.Proofs.Source.Reading

namespace BraceScript

mutual

def Statement.nesting : Statement → Nat
  | .mk parts _ => nestingParts parts

def nestingParts : List Part → Nat
  | [] => 0
  | part :: parts => max part.nesting (nestingParts parts)

def Part.nesting : Part → Nat
  | .literal _ _ => 0
  | .call name args _ => max name.nesting (nestingArgs args) + 1

def nestingArgs : List Statement → Nat
  | [] => 0
  | arg :: args => max arg.nesting (nestingArgs args)

end

section Nesting

variable {n : Nat}

theorem nestingParts_le {parts : List Part} :
    nestingParts parts ≤ n ↔ ∀ p ∈ parts, p.nesting ≤ n := by
  induction parts with
  | nil => simp [nestingParts]
  | cons p parts ih => rw [nestingParts, Nat.max_le, ih, List.forall_mem_cons]

theorem nestingArgs_le {args : List Statement} :
    nestingArgs args ≤ n ↔ ∀ a ∈ args, a.nesting ≤ n := by
  induction args with
  | nil => simp [nestingArgs]
  | cons a args ih => rw [nestingArgs, Nat.max_le, ih, List.forall_mem_cons]

theorem Statement.nesting_le {s : Statement} : s.nesting ≤ n ↔ ∀ p ∈ s.parts, p.nesting ≤ n := by
  cases s with
  | mk parts span =>
    simp only [Statement.nesting, Statement.parts]
    exact nestingParts_le

theorem Part.nesting_call_le {name : Statement} {args : List Statement} {span : Span} :
    (Part.call name args span).nesting ≤ n ↔ ∀ s ∈ name :: args, s.nesting < n := by
  cases n with
  | zero =>
    refine iff_of_false (by simp [Part.nesting]) ?_
    intro h
    exact Nat.not_lt_zero _ (h name List.mem_cons_self)
  | succ n =>
    simp only [Part.nesting, Nat.succ_le_succ_iff, Nat.max_le, nestingArgs_le, Nat.lt_succ_iff,
      List.forall_mem_cons]

end Nesting

namespace Braces

/-- At no place of `text` are more braces open than the limit, when `n` are open before it. -/
def Shallow : Nat → List Char → Prop
  | n, [] => n ≤ maxNesting
  | n, c :: text => n ≤ maxNesting ∧
    if c = opening then Shallow (n + 1) text
    else if c = closing then Shallow (n - 1) text
    else Shallow n text

theorem MaskRun.fates_kept {text shapes : List Char} {stack fates : List Bool} {depth : Nat}
    (h : MaskRun text stack depth shapes fates) :
    List.Forall₂ (fun stays kept : Bool ↦ stays = true → kept = true) fates stack := by
  induction h with
  | nil stack depth =>
    induction stack with
    | nil => exact .nil
    | cons kept stack ih => exact .cons (fun h ↦ by cases h) ih
  | opened _ _ ih =>
    cases ih with
    | cons _ ih => exact ih
  | stray _ ih => exact ih
  | closed _ ih => exact .cons (fun h ↦ h) ih
  | other _ _ _ ih => exact ih

theorem count_le_of_forall₂ {fates stack : List Bool}
    (h : List.Forall₂ (fun stays kept : Bool ↦ stays = true → kept = true) fates stack) :
    fates.count true ≤ stack.count true := by
  induction h with
  | nil => simp
  | @cons stays kept fates stack hkept _ ih =>
    cases stays with
    | false =>
      rw [List.count_cons_of_ne (by simp)]
      exact Nat.le_trans ih (List.count_le_count_cons ..)
    | true =>
      rw [hkept rfl, List.count_cons_self, List.count_cons_self]
      omega

theorem MaskRun.shallow {text shapes : List Char} {stack fates : List Bool} {depth : Nat}
    (h : MaskRun text stack depth shapes fates) (hdepth : depth = stack.count true)
    (hle : depth ≤ maxNesting) : Shallow (fates.count true) shapes := by
  have hcount : fates.count true ≤ maxNesting := by
    have hfates := count_le_of_forall₂ h.fates_kept
    omega
  induction h with
  | nil stack depth => exact hcount
  | @opened text shapes stack fates depth kept stays hkept h ih =>
    have hinner := count_le_of_forall₂ h.fates_kept
    have hdepth' : (if kept then depth + 1 else depth) = (kept :: stack).count true := by
      cases kept with
      | false => simpa using hdepth
      | true => simpa using hdepth
    have hle' : (if kept then depth + 1 else depth) ≤ maxNesting := by
      cases kept with
      | false => exact hle
      | true => simpa [Nat.succ_le_iff] using hkept
    have hshallow := ih hdepth' hle' (by omega)
    cases stays with
    | false =>
      rw [List.count_cons_of_ne (by simp)] at hshallow
      simpa [Shallow, masked_ne_opening, masked_ne_closing] using ⟨hcount, hshallow⟩
    | true =>
      rw [List.count_cons_self] at hshallow
      simpa [Shallow] using ⟨hcount, hshallow⟩
  | stray _ ih =>
    simpa [Shallow, masked_ne_opening, masked_ne_closing] using ⟨hcount, ih hdepth hle hcount⟩
  | @closed text shapes stack fates depth kept h ih =>
    have hinner := count_le_of_forall₂ h.fates_kept
    cases kept with
    | false =>
      rw [List.count_cons_of_ne (by simp)] at hcount hdepth ⊢
      have hshallow := ih hdepth hle hcount
      simpa [Shallow, masked_ne_opening, masked_ne_closing] using ⟨hcount, hshallow⟩
    | true =>
      rw [List.count_cons_self] at hcount hdepth ⊢
      have hshallow := ih (by simp [hdepth]) (by simp; omega) (by omega)
      simpa [Shallow, closing_ne_opening] using ⟨hcount, hshallow⟩
  | other ho hc _ ih => simpa [Shallow, ho, hc] using ⟨hcount, ih hdepth hle hcount⟩

theorem mask_shallow (text : List Char) : Shallow 0 (mask text) :=
  (mask_run text).shallow rfl (Nat.zero_le _)

theorem Shallow.le {n : Nat} {text : List Char} (h : Shallow n text) : n ≤ maxNesting := by
  cases text with
  | nil => exact h
  | cons c text => exact h.1

end Braces

def CallsFit : List OpenCall → Prop
  | [] => True
  | c :: stack =>
    (∀ s ∈ c.done, s.nesting + (stack.length + 1) ≤ Braces.maxNesting) ∧
    (∀ p ∈ c.outer.parts, p.nesting + stack.length ≤ Braces.maxNesting) ∧ CallsFit stack

namespace Reader

/-- All finished nodes lie within the limit, counting the calls that are open around them. -/
structure Fits (r : Reader) : Prop where
  open_le : r.stack.length ≤ Braces.maxNesting
  draft : ∀ p ∈ r.draft.parts, p.nesting + r.stack.length ≤ Braces.maxNesting
  stack : CallsFit r.stack

theorem nesting_flush {d : Draft} {k n : Nat} (hk : k ≤ n) (h : ∀ p ∈ d.parts, p.nesting + k ≤ n)
    (m : Marker) : ∀ p ∈ d.flush m, p.nesting + k ≤ n := by
  intro p hp
  unfold Draft.flush at hp
  split at hp
  · exact h p hp
  · rcases List.mem_cons.mp hp with rfl | hp
    · simpa [Part.nesting] using hk
    · exact h p hp

theorem nesting_finish {d : Draft} {k n : Nat} (hk : k ≤ n) (h : ∀ p ∈ d.parts, p.nesting + k ≤ n)
    (m : Marker) : (d.finish m).nesting + k ≤ n := by
  have hle : (d.finish m).nesting ≤ n - k := by
    rw [Statement.nesting_le]
    intro p hp
    have hp := nesting_flush hk h m p (List.mem_reverse.mp hp)
    omega
  omega

theorem nesting_closeCall {c : OpenCall} {last : Statement} {stop : Marker} {k n : Nat}
    (h : ∀ s ∈ last :: c.done, s.nesting + (k + 1) ≤ n) : (closeCall c last stop).nesting + k ≤ n := by
  unfold closeCall
  split
  case h_1 heq => simp at heq
  case h_2 name args heq =>
    have hle : (Part.call name args ⟨c.start, stop⟩).nesting ≤ n - k := by
      rw [Part.nesting_call_le]
      intro s hs
      rw [← heq, List.mem_reverse] at hs
      have hs := h s hs
      omega
    have hlast := h last List.mem_cons_self
    omega

theorem Fits.step {r : Reader} (h : r.Fits) {shape c : Char}
    (hle : (r.step shape c).stack.length ≤ Braces.maxNesting) : (r.step shape c).Fits := by
  have hstep := r.step_spec shape c
  generalize r.step shape c = r' at hstep hle ⊢
  obtain ⟨hopen, hdraft, hstack⟩ := h
  cases hstep with
  | text _ _ _ => exact ⟨hopen, hdraft, hstack⟩
  | opened place draft stack _ =>
    exact ⟨hle, by simp, by simp, nesting_flush hopen hdraft place, hstack⟩
  | closed place draft call stack _ =>
    obtain ⟨hdone, houter, hrest⟩ := hstack
    refine ⟨hle, ?_, hrest⟩
    intro p hp
    rcases List.mem_cons.mp hp with rfl | hp
    · apply nesting_closeCall
      exact List.forall_mem_cons.mpr ⟨nesting_finish hopen hdraft place, hdone⟩
    · exact houter p hp
  | separated place draft call stack _ =>
    obtain ⟨hdone, houter, hrest⟩ := hstack
    have hlast := nesting_finish hopen hdraft place
    exact ⟨hle, by simp, List.forall_mem_cons.mpr ⟨hlast, hdone⟩, houter, hrest⟩

theorem Fits.run {r : Reader} (h : r.Fits) {shapes : List Char}
    (hs : Braces.Shallow r.stack.length shapes) (text : List Char) : (r.run shapes text).Fits := by
  induction shapes generalizing r text with
  | nil => simpa [Reader.run] using h
  | cons shape shapes ih =>
    cases text with
    | nil => simpa [Reader.run] using h
    | cons c text =>
      have hnext : Braces.Shallow (r.step shape c).stack.length shapes := by
        rw [length_stack_step]
        have hs := hs.2
        split at hs
        case isTrue ho => simpa [ho] using hs
        case isFalse ho =>
          split at hs
          case isTrue hc => simpa [ho, hc, Braces.closing_ne_opening] using hs
          case isFalse hc => simpa [ho, hc] using hs
      rw [Reader.run]
      exact ih (h.step hnext.le) hnext text

end Reader

theorem nesting_parse (source : String) : (parse source).nesting ≤ Braces.maxNesting := by
  have hstart : Reader.start.Fits := ⟨by simp [Reader.start], by simp [Reader.start], trivial⟩
  have hfits := hstart.run (Braces.mask_shallow source.toList) source.toList
  have hparts : ∀ p ∈ (Reader.start.run (Braces.mask source.toList) source.toList).draft.parts,
      p.nesting + 0 ≤ Braces.maxNesting := by
    intro p hp
    have hp := hfits.draft p hp
    omega
  exact Reader.nesting_finish (Nat.zero_le _) hparts _

end BraceScript
