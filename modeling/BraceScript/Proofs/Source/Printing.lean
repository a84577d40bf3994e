import BraceScript.Proofs.Source.Depth
import BraceScript.Proofs.Source.Nesting

namespace BraceScript

def Span.nowhere : Span := ⟨Marker.start, Marker.start⟩

mutual

/-- The statement without the places of its nodes. -/
def Statement.unplaced : Statement → Statement
  | .mk parts _ => .mk (unplacedParts parts) .nowhere

def unplacedParts : List Part → List Part
  | [] => []
  | part :: parts => part.unplaced :: unplacedParts parts

def Part.unplaced : Part → Part
  | .literal text _ => .literal text .nowhere
  | .call name args _ => .call name.unplaced (unplacedArgs args) .nowhere

def unplacedArgs : List Statement → List Statement
  | [] => []
  | arg :: args => arg.unplaced :: unplacedArgs args

end

theorem unplacedParts_eq (parts : List Part) : unplacedParts parts = parts.map Part.unplaced := by
  induction parts with
  | nil => rfl
  | cons part parts ih => rw [unplacedParts, ih, List.map_cons]

theorem unplacedArgs_eq (args : List Statement) : unplacedArgs args = args.map Statement.unplaced := by
  induction args with
  | nil => rfl
  | cons arg args ih => rw [unplacedArgs, ih, List.map_cons]

theorem Statement.unplaced_eq (s : Statement) :
    s.unplaced = .mk (s.parts.map Part.unplaced) .nowhere := by
  cases s with
  | mk parts span => rw [Statement.unplaced, unplacedParts_eq, Statement.parts]

mutual

theorem Statement.print_unplaced : (s : Statement) → s.unplaced.print = s.print
  | .mk parts _ => printParts_unplaced parts

theorem printParts_unplaced : (parts : List Part) → printParts (unplacedParts parts) = printParts parts
  | [] => rfl
  | part :: parts => by
    rw [unplacedParts, printParts, printParts, part.print_unplaced, printParts_unplaced parts]

theorem Part.print_unplaced : (p : Part) → p.unplaced.print = p.print
  | .literal _ _ => rfl
  | .call name args _ => by
    rw [Part.unplaced, Part.print, Part.print, name.print_unplaced, printArgs_unplaced args]

theorem printArgs_unplaced : (args : List Statement) → printArgs (unplacedArgs args) = printArgs args
  | [] => rfl
  | arg :: args => by
    rw [unplacedArgs, printArgs, printArgs, arg.print_unplaced, printArgs_unplaced args]

end

def IsText (inside : Bool) (text : List Char) : Prop :=
  ∀ c ∈ text, c ≠ Braces.opening ∧ c ≠ Braces.closing ∧ (inside = true → c ≠ ';')

/-- The literals of a part, the part itself or inside of it, are text where they stand. -/
structure Part.Legible (inside : Bool) (p : Part) : Prop where
  self : ∀ text span, p = .literal text span → IsText inside text.toList
  within : ∀ text span, (Part.literal text span).Inside p → IsText true text.toList

theorem Part.Legible.of_call {inside : Bool} {name : Statement} {args : List Statement} {span : Span}
    (h : (Part.call name args span).Legible inside) {s : Statement} (hs : s ∈ name :: args) :
    ∀ p ∈ s.parts, p.Legible true := by
  intro p hp
  refine ⟨?_, ?_⟩
  · rintro text place rfl
    exact h.within text place ⟨s, hs, s, .self, hp⟩
  · intro text place hin
    refine h.within text place ⟨s, hs, ?_⟩
    cases s with
    | mk parts sp => exact Part.within_mk.mpr ⟨p, hp, Or.inr hin⟩

theorem Part.legible_call (inside : Bool) {name : Statement} {args : List Statement} (span : Span)
    (h : ∀ s ∈ name :: args, ∀ p ∈ s.parts, p.Legible true) :
    (Part.call name args span).Legible inside := by
  refine ⟨?_, ?_⟩
  · intro text place hliteral
    cases hliteral
  · rintro text place ⟨⟨parts, sp⟩, hs, hwithin⟩
    obtain ⟨p, hp, rfl | hin⟩ := Part.within_mk.mp hwithin
    · exact (h _ hs _ hp).self text place rfl
    · exact (h _ hs p hp).within text place hin

namespace Braces

/-- `text` stays as it is wherever masking meets it with `n` more braces allowed to be open. -/
def Whole (n : Nat) (text : List Char) : Prop :=
  ∀ rest stack depth, depth + n ≤ maxNesting →
    maskFrom (text ++ rest) stack depth =
      (text ++ (maskFrom rest stack depth).1, (maskFrom rest stack depth).2)

namespace Whole

variable {n : Nat} {u v : List Char}

theorem nil : Whole n [] := fun _ _ _ _ ↦ rfl

theorem append (hu : Whole n u) (hv : Whole n v) : Whole n (u ++ v) := by
  intro rest stack depth hdepth
  rw [List.append_assoc, hu _ _ _ hdepth, hv _ _ _ hdepth, List.append_assoc]

theorem cons {c : Char} (ho : c ≠ opening) (hc : c ≠ closing) (hu : Whole n u) :
    Whole n (c :: u) := by
  intro rest stack depth hdepth
  simp only [List.cons_append, maskFrom, ho, hc, if_false, hu _ _ _ hdepth]

theorem of_isText {inside : Bool} (h : IsText inside u) : Whole n u := by
  induction u with
  | nil => exact nil
  | cons c u ih =>
    obtain ⟨⟨ho, hc, -⟩, hu⟩ := List.forall_mem_cons.mp h
    exact cons ho hc (ih hu)

theorem braced (hu : Whole n u) : Whole (n + 1) (opening :: (u ++ [closing])) := by
  intro rest stack depth hdepth
  have hkept : decide (depth < maxNesting) = true := decide_eq_true (by omega)
  have hinner := hu (closing :: rest) (true :: stack) (depth + 1) (by omega)
  have hclose : maskFrom (closing :: rest) (true :: stack) (depth + 1) =
      (closing :: (maskFrom rest stack depth).1, true :: (maskFrom rest stack depth).2) := by
    simp [maskFrom, closing_ne_opening]
  rw [hclose] at hinner
  simp only [List.cons_append, List.append_assoc, List.nil_append, maskFrom, hkept, hinner, if_true]

end Whole

end Braces

theorem toList_print_call (name : Statement) (args : List Statement) (span : Span) :
    (Part.call name args span).print.toList =
      Braces.opening :: (name.print.toList ++ (printArgs args).toList ++ [Braces.closing]) := by
  simp [Part.print, Braces.opening, Braces.closing]

mutual

theorem Statement.whole_print {n : Nat} : (s : Statement) → (∀ p ∈ s.parts, p.Legible true) →
    s.nesting ≤ n → Braces.Whole n s.print.toList
  | .mk parts span, hlegible, hn => by
    rw [Statement.print]
    exact whole_printParts parts hlegible hn

theorem whole_printParts {n : Nat} {inside : Bool} : (parts : List Part) →
    (∀ p ∈ parts, p.Legible inside) → nestingParts parts ≤ n →
    Braces.Whole n (printParts parts).toList
  | [], _, _ => by
    rw [printParts]
    exact Braces.Whole.nil
  | part :: parts, hlegible, hn => by
    obtain ⟨hpart, hparts⟩ := List.forall_mem_cons.mp hlegible
    rw [nestingParts, Nat.max_le] at hn
    rw [printParts, String.toList_append]
    exact (Part.whole_print part hpart hn.1).append (whole_printParts parts hparts hn.2)

theorem Part.whole_print {n : Nat} {inside : Bool} : (part : Part) → part.Legible inside →
    part.nesting ≤ n → Braces.Whole n part.print.toList
  | .literal text span, hlegible, _ => by
    rw [Part.print]
    exact Braces.Whole.of_isText (hlegible.self text span rfl)
  | .call name args span, hlegible, hn => by
    cases n with
    | zero => simp [Part.nesting] at hn
    | succ n =>
      rw [Part.nesting, Nat.succ_le_succ_iff, Nat.max_le] at hn
      have hname := Statement.whole_print name (hlegible.of_call List.mem_cons_self) hn.1
      have hargs := whole_printArgs args
        (fun a ha ↦ hlegible.of_call (List.mem_cons_of_mem name ha)) hn.2
      rw [toList_print_call]
      exact (hname.append hargs).braced

theorem whole_printArgs {n : Nat} : (args : List Statement) →
    (∀ a ∈ args, ∀ p ∈ a.parts, p.Legible true) → nestingArgs args ≤ n →
    Braces.Whole n (printArgs args).toList
  | [], _, _ => by
    rw [printArgs]
    exact Braces.Whole.nil
  | arg :: args, hlegible, hn => by
    obtain ⟨harg, hargs⟩ := List.forall_mem_cons.mp hlegible
    rw [nestingArgs, Nat.max_le] at hn
    have htext := (Statement.whole_print arg harg hn.1).append (whole_printArgs args hargs hn.2)
    simp only [printArgs, String.toList_append, List.append_assoc]
    exact Braces.Whole.cons (by decide) (by decide) htext

end

namespace Draft

/-- The parts of a draft without their places, latest first, its pending text included. -/
def content (d : Draft) : List Part := (d.flush d.start).map Part.unplaced

theorem map_unplaced_flush (d : Draft) (m : Marker) :
    (d.flush m).map Part.unplaced = d.content := by
  unfold content flush
  split
  · rfl
  · simp [Part.unplaced]

theorem content_of_text_nil {d : Draft} (h : d.text = []) :
    d.content = d.parts.map Part.unplaced := by
  simp [content, flush, h]

theorem unplaced_finish (d : Draft) (m : Marker) :
    (d.finish m).unplaced = .mk d.content.reverse .nowhere := by
  rw [finish, Statement.unplaced, unplacedParts_eq, List.map_reverse, map_unplaced_flush]

end Draft

namespace Reader

theorem run_append (r : Reader) (u v : List Char) :
    r.run (u ++ v) (u ++ v) = (r.run u u).run v v := by
  induction u generalizing r with
  | nil => rfl
  | cons c u ih => exact ih (r.step c c)

theorem run_text {text : List Char} (r : Reader) (h : IsText (!r.stack.isEmpty) text) :
    (r.run text text).stack = r.stack ∧ (r.run text text).draft.parts = r.draft.parts ∧
      (r.run text text).draft.text = text.reverse ++ r.draft.text := by
  induction text generalizing r with
  | nil => exact ⟨rfl, rfl, rfl⟩
  | cons c text ih =>
    obtain ⟨⟨ho, hc, hsep⟩, htext⟩ := List.forall_mem_cons.mp h
    have hstep : r.step c c = { r with place := r.place.step c, draft := r.draft.push r.place c } := by
      unfold step
      rw [if_neg ho, if_neg hc]
      cases hstack : r.stack with
      | nil => simp
      | cons call stack =>
        have hne : c ≠ ';' := hsep (by simp [hstack])
        rw [if_neg hne]
    rw [run, hstep]
    obtain ⟨hstack, hparts, hgathered⟩ :=
      ih { r with place := r.place.step c, draft := r.draft.push r.place c } htext
    refine ⟨hstack, hparts, ?_⟩
    rw [hgathered, List.reverse_cons, List.append_assoc]
    rfl

structure Adds (r : Reader) (parts : List Part) (r' : Reader) : Prop where
  stack : r'.stack = r.stack
  content : r'.draft.content = (parts.map Part.unplaced).reverse ++ r.draft.content

theorem Adds.trans {r r' r'' : Reader} {ps qs : List Part} (h : r.Adds ps r')
    (h' : r'.Adds qs r'') : r.Adds (ps ++ qs) r'' := by
  refine ⟨h'.stack.trans h.stack, ?_⟩
  rw [h'.content, h.content, List.map_append, List.reverse_append, List.append_assoc]

theorem adds_literal {r : Reader} {text : String} {span : Span} (htext : r.draft.text = [])
    (hne : text ≠ "") (h : IsText (!r.stack.isEmpty) text.toList) :
    r.Adds [.literal text span] (r.run text.toList text.toList) := by
  obtain ⟨hstack, hparts, hgathered⟩ := r.run_text h
  refine ⟨hstack, ?_⟩
  have hsome : text.toList ≠ [] := by simpa using hne
  rw [Draft.content_of_text_nil htext]
  simp [Draft.content, Draft.flush, hparts, hgathered, htext, hsome, Part.unplaced]

/-- The reader is inside of a call that stands in `outer`, with these pieces of it read so far,
latest first. -/
def InCall (r : Reader) (stack : List OpenCall) (outer : Draft) (pieces : List Statement) : Prop :=
  ∃ c, r.stack = c :: stack ∧ c.outer = outer ∧
    Statement.mk r.draft.content.reverse .nowhere :: c.done.map Statement.unplaced = pieces

section Call

variable {r r' : Reader} {stack : List OpenCall} {outer : Draft} {pieces : List Statement}

theorem inCall_opening (r : Reader) :
    (r.step Braces.opening Braces.opening).InCall r.stack
      { r.draft with parts := r.draft.flush r.place, text := [] } [.mk [] .nowhere] := by
  simp [step, InCall, Draft.content, Draft.flush]

theorem InCall.separator (h : r.InCall stack outer pieces) :
    (r.step ';' ';').InCall stack outer (.mk [] .nowhere :: pieces) ∧
      (r.step ';' ';').draft.text = [] := by
  obtain ⟨c, hstack, rfl, rfl⟩ := h
  have hshape : ';' ≠ Braces.opening ∧ ';' ≠ Braces.closing := by decide
  have hstep : r.step ';' ';' = ⟨r.place.step ';', { start := r.place.step ';' },
      { c with done := r.draft.finish r.place :: c.done } :: stack⟩ := by
    simp [step, hstack, hshape.1, hshape.2]
  rw [hstep]
  exact ⟨⟨_, rfl, rfl, by simp [Draft.unplaced_finish, Draft.content, Draft.flush]⟩, rfl⟩

theorem InCall.inside (h : r.InCall stack outer pieces) : (!r.stack.isEmpty) = true := by
  obtain ⟨c, hstack, -⟩ := h
  simp [hstack]

theorem InCall.adds {s : Statement} (h : r.InCall stack outer (.mk [] .nowhere :: pieces))
    (hadds : r.Adds s.parts r') : r'.InCall stack outer (s.unplaced :: pieces) := by
  obtain ⟨c, hstack, houter, hpieces⟩ := h
  obtain ⟨hempty, hdone⟩ := List.cons.inj hpieces
  have hcontent : r.draft.content = [] := by simpa using hempty
  refine ⟨c, hadds.stack.trans hstack, houter, ?_⟩
  rw [hadds.content, hcontent, List.append_nil, List.reverse_reverse, hdone, s.unplaced_eq]

theorem InCall.closing (h : r.InCall stack outer pieces) (houter : outer.text = []) {name : Statement}
    {args : List Statement} (hpieces : pieces.reverse = name :: args) :
    (r.step Braces.closing Braces.closing).stack = stack ∧
    (r.step Braces.closing Braces.closing).draft.text = [] ∧
    (r.step Braces.closing Braces.closing).draft.content =
      .call name args .nowhere :: outer.content := by
  obtain ⟨c, hstack, rfl, rfl⟩ := h
  have hcall (last : Statement) (stop : Marker)
      (hlast : last.unplaced = .mk r.draft.content.reverse .nowhere) :
      (closeCall c last stop).unplaced = .call name args .nowhere := by
    have hrev : ((last :: c.done).reverse).map Statement.unplaced = name :: args := by
      rw [List.map_reverse, List.map_cons, hlast, hpieces]
    unfold closeCall
    split
    case h_1 heq => simp at heq
    case h_2 name' args' heq =>
      rw [heq, List.map_cons] at hrev
      obtain ⟨rfl, rfl⟩ := List.cons.inj hrev
      rw [Part.unplaced, unplacedArgs_eq]
  have hstep := r.draft.unplaced_finish r.place
  simp only [step, Braces.closing_ne_opening, hstack, if_true, if_false, houter, true_and]
  rw [Draft.content_of_text_nil rfl, List.map_cons, hcall _ _ hstep,
    Draft.content_of_text_nil houter]

end Call

end Reader

section Reading

open Reader

mutual

theorem adds_statement : (s : Statement) → s.Tidy → ∀ r : Reader,
    (∀ p ∈ s.parts, p.Legible (!r.stack.isEmpty)) → r.draft.text = [] →
    r.Adds s.parts (r.run s.print.toList s.print.toList)
  | .mk parts span, htidy, r, hlegible, htext => by
    rw [Statement.print]
    exact adds_parts parts htidy.parts (htidy _ .self).2 r hlegible fun _ _ ↦ Or.inr htext

theorem adds_parts : (parts : List Part) → (∀ p ∈ parts, p.Tidy) → Alternates parts →
    ∀ r : Reader, (∀ p ∈ parts, p.Legible (!r.stack.isEmpty)) →
    (∀ p ∈ parts.head?, p.isCall ∨ r.draft.text = []) →
    r.Adds parts (r.run (printParts parts).toList (printParts parts).toList)
  | [], _, _, r, _, _ => by
    simp only [printParts]
    exact ⟨rfl, rfl⟩
  | part :: parts, htidy, halternates, r, hlegible, hfree => by
    obtain ⟨hpart, hparts⟩ := List.forall_mem_cons.mp htidy
    obtain ⟨hreadable, hrest⟩ := List.forall_mem_cons.mp hlegible
    obtain ⟨hadds, hcall⟩ := adds_part part hpart r hreadable (hfree part rfl)
    rw [printParts, String.toList_append, run_append]
    rw [← hadds.stack] at hrest
    have hnext : ∀ p ∈ parts.head?,
        p.isCall ∨ (r.run part.print.toList part.print.toList).draft.text = [] := by
      intro p hp
      -- The part before `p` is a call, unless `p` is one itself.
      rcases (List.isChain_cons.mp halternates).1 p hp with hbefore | hself
      · exact Or.inr (hcall hbefore)
      · exact Or.inl hself
    have htail := adds_parts parts hparts (List.isChain_cons.mp halternates).2 _ hrest hnext
    exact hadds.trans htail

theorem adds_part : (part : Part) → part.Tidy → ∀ r : Reader,
    part.Legible (!r.stack.isEmpty) → part.isCall ∨ r.draft.text = [] →
    r.Adds [part] (r.run part.print.toList part.print.toList) ∧
      (part.isCall → (r.run part.print.toList part.print.toList).draft.text = [])
  | .literal text span, htidy, r, hlegible, hfree => by
    have htext : r.draft.text = [] := by simpa [Part.isCall] using hfree
    refine ⟨adds_literal htext htidy (hlegible.self text span rfl), ?_⟩
    simp [Part.isCall]
  | .call name args span, htidy, r, hlegible, _ => by
    have hopened := r.inCall_opening
    have hreadable := hlegible.of_call (s := name) List.mem_cons_self
    rw [← hopened.inside] at hreadable
    have hnamed := hopened.adds (adds_statement name htidy.1 _ hreadable rfl)
    have hargs := inCall_args args htidy.2
      (fun a ha ↦ hlegible.of_call (List.mem_cons_of_mem name ha)) _ hnamed
    have hpieces : ((args.map Statement.unplaced).reverse ++ [name.unplaced]).reverse =
        name.unplaced :: args.map Statement.unplaced := by
      simp
    have hclosed := hargs.closing rfl hpieces
    have hrun : r.run (Part.call name args span).print.toList (Part.call name args span).print.toList =
        (((r.step Braces.opening Braces.opening).run name.print.toList name.print.toList).run
          (printArgs args).toList (printArgs args).toList).step Braces.closing Braces.closing := by
      rw [toList_print_call, Reader.run, run_append, run_append]
      rfl
    rw [hrun]
    obtain ⟨hleft, htext, hcontent⟩ := hclosed
    refine ⟨⟨hleft, ?_⟩, fun _ ↦ htext⟩
    rw [hcontent, Draft.content_of_text_nil rfl, Draft.map_unplaced_flush]
    simp [Part.unplaced, unplacedArgs_eq]

theorem inCall_args : (args : List Statement) → (∀ a ∈ args, a.Tidy) →
    (∀ a ∈ args, ∀ p ∈ a.parts, p.Legible true) → ∀ r : Reader,
    ∀ {stack : List OpenCall} {outer : Draft} {pieces : List Statement},
    r.InCall stack outer pieces →
    (r.run (printArgs args).toList (printArgs args).toList).InCall stack outer
      ((args.map Statement.unplaced).reverse ++ pieces)
  | [], _, _, r, stack, outer, pieces, h => by
    simpa [printArgs, Reader.run] using h
  | arg :: args, htidy, hlegible, r, stack, outer, pieces, h => by
    obtain ⟨harg, hargs⟩ := List.forall_mem_cons.mp htidy
    obtain ⟨hreadable, hrest⟩ := List.forall_mem_cons.mp hlegible
    obtain ⟨hseparated, htext⟩ := h.separator
    rw [← hseparated.inside] at hreadable
    have hpiece := hseparated.adds (adds_statement arg harg _ hreadable htext)
    have hrun : r.run (printArgs (arg :: args)).toList (printArgs (arg :: args)).toList =
        ((r.step ';' ';').run arg.print.toList arg.print.toList).run (printArgs args).toList
          (printArgs args).toList := by
      rw [← run_append]
      simp [printArgs, Reader.run]
    rw [hrun, List.map_cons, List.reverse_cons, List.append_assoc]
    exact inCall_args args hargs hrest _ hpiece

end

end Reading

/-- A tree that can be written: its calls lie within the limit, its literals have text and are no
neighbours, and they hold no braces and, inside of calls, no separators. -/
structure Statement.WellFormed (t : Statement) : Prop where
  nesting : t.nesting ≤ Braces.maxNesting
  tidy : t.Tidy
  outer : ∀ text span, .literal text span ∈ t.parts →
    ∀ c ∈ text.toList, c ≠ Braces.opening ∧ c ≠ Braces.closing
  inner : ∀ p ∈ t.parts, ∀ text span, (Part.literal text span).Inside p →
    ∀ c ∈ text.toList, c ≠ Braces.opening ∧ c ≠ Braces.closing ∧ c ≠ ';'

theorem Statement.WellFormed.of_legible {t : Statement} (hnesting : t.nesting ≤ Braces.maxNesting)
    (htidy : t.Tidy) (h : ∀ p ∈ t.parts, p.Legible false) : t.WellFormed where
  nesting := hnesting
  tidy := htidy
  outer text span hmem c hc :=
    have htext := (h _ hmem).self text span rfl c hc
    ⟨htext.1, htext.2.1⟩
  inner p hp text span hin c hc :=
    have htext := (h p hp).within text span hin c hc
    ⟨htext.1, htext.2.1, htext.2.2 rfl⟩

theorem Statement.WellFormed.legible {t : Statement} (h : t.WellFormed) :
    ∀ p ∈ t.parts, p.Legible false := by
  intro p hp
  refine ⟨?_, ?_⟩
  · rintro text span rfl c hc
    obtain ⟨hopening, hclosing⟩ := h.outer text span hp c hc
    exact ⟨hopening, hclosing, nofun⟩
  · intro text span hin c hc
    obtain ⟨hopening, hclosing, hsep⟩ := h.inner p hp text span hin c hc
    exact ⟨hopening, hclosing, fun _ ↦ hsep⟩

theorem Statement.WellFormed.mask_print {t : Statement} (h : t.WellFormed) :
    Braces.mask t.print.toList = t.print.toList := by
  have hwhole : Braces.Whole Braces.maxNesting t.print.toList := by
    rw [t.print_eq]
    exact whole_printParts t.parts h.legible (nestingParts_le.mpr (Statement.nesting_le.mp h.nesting))
  have hmask := hwhole [] [] 0 (Nat.le_of_eq (Nat.zero_add _))
  rw [List.append_nil] at hmask
  rw [Braces.mask, hmask]
  exact List.append_nil _

/-- Reading the text of a well-formed tree gives the tree back, but for its places. -/
theorem parse_print (t : Statement) (h : t.WellFormed) : (parse t.print).unplaced = t.unplaced := by
  have hadds : Reader.start.Adds t.parts (Reader.start.run t.print.toList t.print.toList) :=
    adds_statement t h.tidy Reader.start h.legible rfl
  have hstart : Reader.start.draft.content = [] := rfl
  rw [parse, h.mask_print, Draft.unplaced_finish, hadds.content, hstart, List.append_nil,
    List.reverse_reverse, t.unplaced_eq]

/-- Text with separators around a call with an empty name, an empty argument and a call inside. -/
theorem parse_print_empty_name :
    let inner : Statement := .mk [.literal "lb" .nowhere] .nowhere
    let arg : Statement := .mk [.literal "x" .nowhere, .call inner [] .nowhere] .nowhere
    let empty : Statement := .mk [] .nowhere
    let t : Statement := .mk
      [.literal "a;b" .nowhere, .call empty [empty, arg] .nowhere, .literal ";" .nowhere] .nowhere
    t.WellFormed ∧ t.print = "a;b\x7b;;x\x7blb\x7d\x7d;" ∧ (parse t.print).unplaced = t := by
  intro inner arg empty t
  have hinner : inner.Tidy := Statement.tidy_mk (by simp [Part.Tidy]) (.singleton _)
  have harg : arg.Tidy :=
    Statement.tidy_mk (by simp [Part.Tidy, hinner]) (by simp [Alternates, Part.isCall])
  have hempty : empty.Tidy := Statement.tidy_mk (by simp) .nil
  have htidy : t.Tidy :=
    Statement.tidy_mk (by simp [Part.Tidy, hempty, harg]) (by simp [Alternates, Part.isCall])
  have hwell : t.WellFormed := by
    refine ⟨by decide, htidy, ?_, ?_⟩
    · intro text span hmem
      have htext : text = "a;b" ∧ span = .nowhere ∨ text = ";" ∧ span = .nowhere := by
        simpa [t, Statement.parts] using hmem
      rcases htext with ⟨rfl, -⟩ | ⟨rfl, -⟩ <;> simp [Braces.opening, Braces.closing]
    · intro p hp text span hin
      have htext : text = "x" ∧ span = .nowhere ∨ text = "lb" ∧ span = .nowhere := by
        obtain rfl | rfl | rfl : p = .literal "a;b" .nowhere ∨ p = .call empty [empty, arg] .nowhere ∨
            p = .literal ";" .nowhere := by simpa [t, Statement.parts] using hp
        · exact hin.elim
        · simpa [Part.Inside, empty, arg, inner, Part.within_mk, Part.Under] using hin
        · exact hin.elim
      rcases htext with ⟨rfl, -⟩ | ⟨rfl, -⟩ <;> simp [Braces.opening, Braces.closing]
  exact ⟨hwell, by decide, parse_print t hwell⟩

end BraceScript
