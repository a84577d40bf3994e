import BraceScript.Proofs.Source.Printing

namespace BraceScript

namespace Braces

/-- The braces of a text are balanced if no part of it that starts it closes more than it opens, and
all of it closes as many. -/
theorem balanced_iff {n : Nat} {text : List Char} :
    Balanced n text ↔ (∀ u, u <+: text → u.count closing ≤ n + u.count opening) ∧
      text.count closing = n + text.count opening := by
  have hstart (c : Char) (text : List Char) (p : List Char → Prop) :
      (∀ u, u <+: c :: text → p u) ↔ p [] ∧ ∀ u, u <+: text → p (c :: u) := by
    refine ⟨fun h ↦ ⟨h [] List.nil_prefix, fun u hu ↦ h _ (List.cons_prefix_cons.mpr ⟨rfl, hu⟩)⟩, ?_⟩
    rintro ⟨hnil, hcons⟩ u hu
    rcases List.prefix_cons_iff.mp hu with rfl | ⟨v, rfl, hv⟩
    · exact hnil
    · exact hcons v hv
  induction text generalizing n with
  | nil => simp [Balanced, eq_comm]
  | cons c text ih =>
    unfold Balanced
    rw [hstart]
    by_cases ho : c = opening
    · simp only [ho, if_true, ih, List.count_cons_self, List.count_nil, Nat.zero_le, true_and,
        List.count_cons_of_ne closing_ne_opening.symm, Nat.add_assoc, Nat.add_comm 1]
    · by_cases hc : c = closing
      · subst hc
        rw [if_neg closing_ne_opening, if_pos rfl]
        cases n with
        | zero =>
          refine iff_of_false (by simp) fun h ↦ ?_
          have hfirst := h.1.2 [] List.nil_prefix
          rw [List.count_cons_self, List.count_cons_of_ne closing_ne_opening] at hfirst
          exact Nat.not_succ_le_zero 0 hfirst
        | succ n =>
          simp only [ih, List.count_cons_self, List.count_nil, Nat.zero_le, true_and,
            Nat.add_left_inj, exists_eq_left', List.count_cons_of_ne closing_ne_opening,
            Nat.add_right_comm n 1, Nat.add_le_add_iff_right]
      · simp only [ho, hc, if_false, ih, List.count_cons_of_ne ho, List.count_cons_of_ne hc,
          List.count_nil, Nat.zero_le, true_and]

section Mask

variable {text shapes : List Char} {stack fates : List Bool} {depth : Nat}

theorem maskFrom_opening {kept stays : Bool} (hkept : decide (depth < maxNesting) = kept)
    (h : maskFrom text (kept :: stack) (if kept then depth + 1 else depth) =
      (shapes, stays :: fates)) :
    maskFrom (opening :: text) stack depth =
      ((if stays then opening else masked) :: shapes, fates) := by
  simp only [maskFrom, if_true, hkept, h]

theorem maskFrom_closing {kept : Bool}
    (h : maskFrom text stack (if kept then depth - 1 else depth) = (shapes, fates)) :
    maskFrom (closing :: text) (kept :: stack) depth =
      ((if kept then closing else masked) :: shapes, kept :: fates) := by
  simp only [maskFrom, closing_ne_opening, if_true, if_false, h]

theorem maskFrom_other {c : Char} (hopening : c ≠ opening) (hclosing : c ≠ closing)
    (h : maskFrom text stack depth = (shapes, fates)) :
    maskFrom (c :: text) stack depth = (c :: shapes, fates) := by
  simp only [maskFrom, hopening, hclosing, if_false, h]

/-- A balanced text is masked on its own, and leaves the braces that were open before it. -/
theorem maskFrom_balanced {n : Nat} (h : Balanced n text) (inner : List Bool)
    (hinner : inner.length = n) (hdepth : inner.count true ≤ depth) (rest : List Char)
    (stack : List Bool) :
    ∃ shapes, Balanced (inner.count true) shapes ∧ List.Forall₂ StandsFor shapes text ∧
      let left := maskFrom rest stack (depth - inner.count true)
      maskFrom (text ++ rest) (inner ++ stack) depth = (shapes ++ left.1, inner ++ left.2) := by
  induction text generalizing n inner depth with
  | nil =>
    obtain rfl := List.eq_nil_of_length_eq_zero (hinner.trans h)
    exact ⟨[], rfl, .nil, rfl⟩
  | cons c text ih =>
    unfold Balanced at h
    by_cases ho : c = opening
    · subst ho
      rw [if_pos rfl] at h
      obtain ⟨kept, hkept⟩ : ∃ kept, decide (depth < maxNesting) = kept := ⟨_, rfl⟩
      have hcount : (kept :: inner).count true ≤ if kept then depth + 1 else depth := by
        cases kept <;> simpa using hdepth
      have hleft : (if kept then depth + 1 else depth) - (kept :: inner).count true =
          depth - inner.count true := by
        cases kept <;> simp
      obtain ⟨shapes, hshapes, hstands, hmask⟩ := ih h _ (congrArg (· + 1) hinner) hcount
      rw [hleft] at hmask
      refine ⟨(if kept then opening else masked) :: shapes, ?_, ?_, maskFrom_opening hkept hmask⟩
      · cases kept with
        | true => simpa [Balanced] using hshapes
        | false => exact Balanced.cons_masked (by simpa using hshapes)
      · cases kept with
        | true => exact .cons (.same _) hstands
        | false => exact .cons .opening hstands
    · by_cases hc : c = closing
      · subst hc
        rw [if_neg closing_ne_opening, if_pos rfl] at h
        obtain ⟨k, rfl, h⟩ := h
        obtain ⟨kept, inner, rfl⟩ := List.exists_cons_of_length_eq_add_one hinner
        have hcount : inner.count true ≤ if kept then depth - 1 else depth := by
          cases kept
          · simpa using hdepth
          · rw [List.count_cons_self] at hdepth
            exact Nat.le_sub_one_of_lt hdepth
        have hleft : (if kept then depth - 1 else depth) - inner.count true =
            depth - (kept :: inner).count true := by
          cases kept
          · simp
          · rw [List.count_cons_self, if_pos rfl]
            omega
        obtain ⟨shapes, hshapes, hstands, hmask⟩ := ih h inner (Nat.succ.inj hinner) hcount
        rw [hleft] at hmask
        refine ⟨(if kept then closing else masked) :: shapes, ?_, ?_, maskFrom_closing hmask⟩
        · cases kept with
          | true => exact ⟨_, List.count_cons_self, hshapes⟩
          | false => exact Balanced.cons_masked (by simpa using hshapes)
        · cases kept with
          | true => exact .cons (.same _) hstands
          | false => exact .cons .closing hstands
      · rw [if_neg ho, if_neg hc] at h
        obtain ⟨shapes, hshapes, hstands, hmask⟩ := ih h inner hinner hdepth
        refine ⟨c :: shapes, ?_, .cons (.same c) hstands, maskFrom_other ho hc hmask⟩
        simpa only [Balanced, ho, hc, if_false] using hshapes

end Mask

end Braces

namespace Reader

variable {r : Reader} {n : Nat} {outer : Draft} {pieces : List Statement}

/-- In the outermost call, which stands in `outer` and of which at least these pieces have been
read, `n` others are open. -/
def Encloses (r : Reader) (n : Nat) (outer : Draft) (pieces : List Statement) : Prop :=
  ∃ inner c more, r.stack = inner ++ [c] ∧ inner.length = n ∧ c.outer = outer ∧
    c.done.map Statement.unplaced = more ++ pieces

theorem InCall.encloses {last : Statement} (h : r.InCall [] outer (last :: pieces)) :
    r.Encloses 0 outer pieces := by
  obtain ⟨c, hstack, houter, hpieces⟩ := h
  exact ⟨[], c, [], hstack, rfl, houter, (List.cons.inj hpieces).2⟩

theorem Encloses.inCall (h : r.Encloses 0 outer pieces) :
    ∃ last more, r.InCall [] outer (last :: (more ++ pieces)) := by
  obtain ⟨inner, c, more, hstack, hinner, houter, hpieces⟩ := h
  obtain rfl := List.eq_nil_of_length_eq_zero hinner
  exact ⟨_, more, c, hstack, houter, by rw [hpieces]⟩

theorem Encloses.opening (h : r.Encloses n outer pieces) (c : Char) :
    (r.step Braces.opening c).Encloses (n + 1) outer pieces := by
  obtain ⟨inner, call, more, hstack, hinner, houter, hpieces⟩ := h
  have hstep : (r.step Braces.opening c).stack =
      ⟨r.place, { r.draft with parts := r.draft.flush r.place, text := [] }, []⟩ :: r.stack := by
    rw [step, if_pos rfl]
  rw [hstack, ← List.cons_append] at hstep
  exact ⟨_, call, more, hstep, congrArg (· + 1) hinner, houter, hpieces⟩

theorem Encloses.closing (h : r.Encloses (n + 1) outer pieces) (c : Char) :
    (r.step Braces.closing c).Encloses n outer pieces := by
  obtain ⟨inner, call, more, hstack, hinner, houter, hpieces⟩ := h
  obtain ⟨first, inner, rfl⟩ := List.exists_cons_of_length_eq_add_one hinner
  refine ⟨inner, call, more, ?_, Nat.succ.inj hinner, houter, hpieces⟩
  rw [step, if_neg Braces.closing_ne_opening, if_pos rfl, hstack]
  rfl

theorem Encloses.other (h : r.Encloses n outer pieces) {shape : Char}
    (hopening : shape ≠ Braces.opening) (hclosing : shape ≠ Braces.closing) (c : Char) :
    (r.step shape c).Encloses n outer pieces := by
  obtain ⟨inner, call, more, hstack, hinner, houter, hpieces⟩ := h
  by_cases hsep : shape = ';'
  · -- The separator ends a piece of the innermost call, which may be the outermost one.
    cases inner with
    | nil =>
      refine ⟨[], { call with done := r.draft.finish r.place :: call.done },
        (r.draft.finish r.place).unplaced :: more, ?_, hinner, houter, ?_⟩
      · rw [step, if_neg hopening, if_neg hclosing, if_pos hsep, hstack]
        rfl
      · rw [List.map_cons, hpieces]
        rfl
    | cons first inner =>
      refine ⟨{ first with done := r.draft.finish r.place :: first.done } :: inner, call, more, ?_,
        hinner, houter, hpieces⟩
      rw [step, if_neg hopening, if_neg hclosing, if_pos hsep, hstack]
      rfl
  · refine ⟨inner, call, more, ?_, hinner, houter, hpieces⟩
    rw [step, if_neg hopening, if_neg hclosing, if_neg hsep, hstack]

/-- Balanced text closes the calls that are open in the outermost one, and not that one. -/
theorem Encloses.run {shapes text : List Char} (hlength : shapes.length = text.length)
    (h : r.Encloses n outer pieces) (hbalanced : Braces.Balanced n shapes) :
    (r.run shapes text).Encloses 0 outer pieces := by
  induction shapes generalizing text r n with
  | nil =>
    cases hbalanced
    exact h
  | cons shape shapes ih =>
    obtain ⟨c, text, rfl⟩ := List.exists_cons_of_length_eq_add_one hlength.symm
    have hrest := Nat.succ.inj hlength
    rw [Reader.run]
    unfold Braces.Balanced at hbalanced
    by_cases ho : shape = Braces.opening
    · subst ho
      rw [if_pos rfl] at hbalanced
      exact ih hrest (h.opening c) hbalanced
    · by_cases hc : shape = Braces.closing
      · subst hc
        rw [if_neg Braces.closing_ne_opening, if_pos rfl] at hbalanced
        obtain ⟨k, rfl, hbalanced⟩ := hbalanced
        exact ih hrest (h.closing c) hbalanced
      · rw [if_neg ho, if_neg hc] at hbalanced
        exact ih hrest (h.other ho hc c) hbalanced

theorem run_append_of_length {u u' : List Char} (h : u.length = u'.length) (r : Reader)
    (v v' : List Char) : r.run (u ++ v) (u' ++ v') = (r.run u u').run v v' := by
  induction u generalizing u' r with
  | nil =>
    obtain rfl := List.eq_nil_of_length_eq_zero h.symm
    rfl
  | cons c u ih =>
    obtain ⟨c', u', rfl⟩ := List.exists_cons_of_length_eq_add_one h.symm
    exact ih (Nat.succ.inj h) (r.step c c')

end Reader

theorem printArgs_cons (arg : Statement) (args : List Statement) :
    printArgs (arg :: args) = ";" ++ ";".intercalate ((arg :: args).map Statement.print) := by
  induction args generalizing arg with
  | nil => simp [printArgs]
  | cons next args ih =>
    rw [printArgs, ih]
    simp only [List.map_cons, String.intercalate_cons_cons, String.append_assoc]

theorem intercalate_of_printArgs {args : List Statement} {text : String}
    (h : printArgs args = ";" ++ text) : ";".intercalate (args.map Statement.print) = text := by
  cases args with
  | nil => exact absurd (congrArg String.toList h) (by simp [printArgs])
  | cons arg args =>
    rw [printArgs_cons, ← String.toList_inj, String.toList_append, String.toList_append] at h
    exact String.toList_inj.mp (List.append_cancel_left h)

section Document

variable {name text : String}

theorem toList_enclosed (name text : String) :
    ("\x7b" ++ name ++ ";" ++ text ++ "\x7d").toList =
      Braces.opening :: (name.toList ++ ';' :: (text.toList ++ [Braces.closing])) := by
  simp [Braces.opening, Braces.closing]

theorem mask_enclosed (hname : IsText true name.toList) (htext : Braces.Balanced 0 text.toList) :
    ∃ shapes, Braces.Balanced 0 shapes ∧ shapes.length = text.toList.length ∧
      Braces.mask ("\x7b" ++ name ++ ";" ++ text ++ "\x7d").toList =
        Braces.opening :: (name.toList ++ ';' :: (shapes ++ [Braces.closing])) := by
  obtain ⟨shapes, hshapes, hstands, hmask⟩ := Braces.maskFrom_balanced htext [] rfl (Nat.zero_le 1)
    [Braces.closing] [true]
  refine ⟨shapes, hshapes, hstands.length_eq, ?_⟩
  have hsep : ';' ≠ Braces.opening ∧ ';' ≠ Braces.closing := by decide
  have hargs : Braces.maskFrom (';' :: (text.toList ++ [Braces.closing])) [true] 1 =
      (';' :: (shapes ++ [Braces.closing]), [true]) :=
    Braces.maskFrom_other hsep.1 hsep.2 hmask
  have hinner := Braces.Whole.of_isText (n := 0) hname (';' :: (text.toList ++ [Braces.closing]))
    [true] 1 (by decide)
  rw [hargs] at hinner
  rw [toList_enclosed, Braces.mask, Braces.maskFrom_opening (by decide) hinner]
  rfl

theorem content_enclosed (hne : name ≠ "") (hname : IsText true name.toList)
    (htext : Braces.Balanced 0 text.toList) :
    ∃ args, (parse ("\x7b" ++ name ++ ";" ++ text ++ "\x7d")).unplaced =
      .mk [.call (.mk [.literal name .nowhere] .nowhere) args .nowhere] .nowhere := by
  obtain ⟨shapes, hshapes, hlength, hmask⟩ := mask_enclosed hname htext
  let opened := Reader.start.step Braces.opening Braces.opening
  let entered := (opened.run name.toList name.toList).step ';' ';'
  let filled := entered.run shapes text.toList
  have hrun : Reader.start.run (Braces.mask ("\x7b" ++ name ++ ";" ++ text ++ "\x7d").toList)
      ("\x7b" ++ name ++ ";" ++ text ++ "\x7d").toList =
        filled.step Braces.closing Braces.closing := by
    rw [hmask, toList_enclosed, Reader.run, Reader.run_append_of_length rfl, Reader.run,
      Reader.run_append_of_length hlength]
    rfl
  have hopened := Reader.start.inCall_opening
  have hnamed := hopened.adds (s := .mk [.literal name .nowhere] .nowhere)
    (Reader.adds_literal rfl hne (hopened.inside ▸ hname))
  obtain ⟨hentered, -⟩ := hnamed.separator
  obtain ⟨last, more, hfilled⟩ := (hentered.encloses.run hlength hshapes).inCall
  have hpieces : (last :: (more ++ [(Statement.mk [.literal name .nowhere] .nowhere).unplaced])).reverse =
      .mk [.literal name .nowhere] .nowhere :: (more.reverse ++ [last]) := by
    rw [List.reverse_cons, List.reverse_append]
    rfl
  obtain ⟨-, -, hcontent⟩ := hfilled.closing rfl hpieces
  refine ⟨more.reverse ++ [last], ?_⟩
  rw [parse, hrun, Draft.unplaced_finish, hcontent]
  rfl

theorem parse_enclosed (hne : name ≠ "") (hname : IsText true name.toList)
    (htext : Braces.Balanced 0 text.toList) :
    ∃ args, (parse ("\x7b" ++ name ++ ";" ++ text ++ "\x7d")).unplaced =
        (Statement.mk [.call (.mk [.literal name .nowhere] .nowhere) args .nowhere] .nowhere).unplaced ∧
      printArgs args = ";" ++ text := by
  obtain ⟨args, hparse⟩ := content_enclosed hne hname htext
  obtain ⟨-, hprint, -⟩ := parse_spec ("\x7b" ++ name ++ ";" ++ text ++ "\x7d")
  rw [Statement.unplaced_eq] at hparse
  obtain ⟨p, hparts, hp⟩ := List.map_eq_singleton_iff.mp (Statement.mk.inj hparse).1
  cases p with
  | literal literal span => cases hp
  | call name' args' span =>
    obtain ⟨hname', -, -⟩ := Part.call.inj hp
    have hprinted : name'.print = name := by
      rw [← name'.print_unplaced, hname']
      simp [Statement.print, printParts, Part.print]
    refine ⟨args', ?_, ?_⟩
    · rw [Statement.unplaced_eq, hparts, List.map_singleton, Part.unplaced, hname']
      rfl
    · rw [Statement.print_eq, hparts] at hprint
      have htexts : (printArgs args').toList ++ ['\x7d'] = (';' :: text.toList) ++ ['\x7d'] := by
        simpa [printParts, Part.print, hprinted] using congrArg String.toList hprint
      rw [← String.toList_inj, List.append_cancel_right htexts, String.toList_append]
      rfl

end Document

end BraceScript
