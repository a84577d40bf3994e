import BraceScript.Proofs.Source.Layout
import BraceScript.Proofs.Source.Matching

namespace BraceScript

/-- `p` is a part of the statement or of a name or an argument inside of it. -/
def Part.Within (p : Part) (t : Statement) : Prop := ∃ s : Statement, s.OccursIn t ∧ p ∈ s.parts

def Part.Inside (p : Part) : Part → Prop
  | .literal _ _ => False
  | .call name args _ => ∃ s ∈ name :: args, p.Within s

def Part.Under (p : Part) (parts : List Part) : Prop := ∃ q ∈ parts, p = q ∨ p.Inside q

namespace Part

variable {p : Part}

theorem within_mk {parts : List Part} {span : Span} :
    p.Within (.mk parts span) ↔ p.Under parts := by
  constructor
  · rintro ⟨s, hs, hp⟩
    cases hs with
    | self => exact ⟨p, hp, Or.inl rfl⟩
    | name hmem h => exact ⟨_, hmem, Or.inr ⟨_, List.mem_cons_self, s, h, hp⟩⟩
    | arg hmem ha h => exact ⟨_, hmem, Or.inr ⟨_, List.mem_cons_of_mem _ ha, s, h, hp⟩⟩
  · rintro ⟨q, hq, rfl | hin⟩
    · exact ⟨_, .self, hq⟩
    · cases q with
      | literal => exact hin.elim
      | call name args span' =>
        obtain ⟨t, ht, s, hs, hp⟩ := hin
        rcases List.mem_cons.mp ht with rfl | ht
        · exact ⟨s, .name hq hs, hp⟩
        · exact ⟨s, .arg hq ht hs, hp⟩

theorem under_nil : ¬p.Under [] := by simp [Under]

theorem under_cons {q : Part} {parts : List Part} :
    p.Under (q :: parts) ↔ (p = q ∨ p.Inside q) ∨ p.Under parts := by
  simp [Under]

theorem under_reverse {parts : List Part} : p.Under parts.reverse ↔ p.Under parts := by
  simp [Under]

theorem under_flush (hp : p.isCall) (d : Draft) (m : Marker) :
    p.Under (d.flush m) ↔ p.Under d.parts := by
  unfold Draft.flush
  split
  case isTrue => rfl
  case isFalse =>
    rw [under_cons]
    refine ⟨?_, Or.inr⟩
    rintro ((rfl | hin) | h)
    · simp [isCall] at hp
    · exact hin.elim
    · exact h

theorem within_finish (hp : p.isCall) (d : Draft) (m : Marker) :
    p.Within (d.finish m) ↔ p.Under d.parts := by
  rw [Draft.finish, within_mk, under_reverse, under_flush hp]

theorem inside_closeCall {c : OpenCall} {last : Statement} {stop : Marker} :
    p.Inside (Reader.closeCall c last stop) ↔ ∃ s ∈ last :: c.done, p.Within s := by
  unfold Reader.closeCall
  split
  case h_1 h => simp at h
  case h_2 name args h =>
    change (∃ s ∈ name :: args, p.Within s) ↔ _
    rw [← h]
    simp only [List.mem_reverse]

end Part

namespace Reader

/-- `p` is a finished part of one of the drafts and open calls. -/
def Holds (r : Reader) (p : Part) : Prop :=
  p.Under r.draft.parts ∨ ∃ c ∈ r.stack, p.Under c.outer.parts ∨ ∃ s ∈ c.done, p.Within s

def HasCall (r : Reader) (i j : Nat) : Prop :=
  ∃ p : Part, p.isCall ∧ r.Holds p ∧ p.span.start.index = i ∧ p.span.stop.index = j + 1

def opens (r : Reader) : List Nat := r.stack.map (·.start.index)

theorem HasCall.congr {r r' : Reader} (h : ∀ p : Part, p.isCall → (r'.Holds p ↔ r.Holds p))
    (i j : Nat) : r'.HasCall i j ↔ r.HasCall i j := by
  constructor
  · rintro ⟨p, hp, hr, hspan⟩
    exact ⟨p, hp, (h p hp).mp hr, hspan⟩
  · rintro ⟨p, hp, hr, hspan⟩
    exact ⟨p, hp, (h p hp).mpr hr, hspan⟩

theorem span_closeCall (c : OpenCall) (last : Statement) (stop : Marker) :
    (closeCall c last stop).span = ⟨c.start, stop⟩ := by
  unfold closeCall
  split <;> rfl

theorem hasCall_closed (place : Marker) (draft : Draft) (call : OpenCall) (stack : List OpenCall)
    (i j : Nat) :
    let next := place.step Braces.closing
    HasCall ⟨next, { call.outer with
        parts := closeCall call (draft.finish place) next :: call.outer.parts }, stack⟩ i j ↔
      (i, j) = (call.start.index, place.index) ∨ HasCall ⟨place, draft, call :: stack⟩ i j := by
  intro next
  have hspan := span_closeCall call (draft.finish place) next
  have hnext : next.index = place.index + 1 := place.index_step Braces.closing
  have hholds (p : Part) (hp : p.isCall) :
      Holds ⟨next, { call.outer with
        parts := closeCall call (draft.finish place) next :: call.outer.parts }, stack⟩ p ↔
      p = closeCall call (draft.finish place) next ∨ Holds ⟨place, draft, call :: stack⟩ p := by
    simp only [Holds, Part.under_cons, Part.inside_closeCall, List.exists_mem_cons_iff,
      Part.within_finish hp, or_assoc, or_left_comm]
  constructor
  · rintro ⟨p, hp, hr, hi, hj⟩
    rcases (hholds p hp).mp hr with rfl | hr
    · left
      rw [hspan] at hi hj
      simp only at hi hj
      rw [hnext] at hj
      exact Prod.ext hi.symm (Nat.succ.inj hj).symm
    · exact Or.inr ⟨p, hp, hr, hi, hj⟩
  · rintro (heq | ⟨p, hp, hr, hi, hj⟩)
    · cases heq
      have hp := isCall_closeCall call (draft.finish place) next
      exact ⟨_, hp, (hholds _ hp).mpr (Or.inl rfl), by rw [hspan], by rw [hspan, hnext]⟩
    · exact ⟨p, hp, (hholds p hp).mpr (Or.inr hr), hi, hj⟩

/-- The finished calls and the pairs still to come are the same before and after a character. -/
theorem hasCall_step (r : Reader) {shape c : Char} (hs : Braces.StandsFor shape c)
    (shapes : List Char) (i j : Nat) :
    ((r.step shape c).HasCall i j ∨
      (i, j) ∈ (Braces.matchFrom (r.step shape c).place.index (r.step shape c).opens shapes).1) ↔
    (r.HasCall i j ∨ (i, j) ∈ (Braces.matchFrom r.place.index r.opens (shape :: shapes)).1) := by
  have hstep := r.step_spec shape c
  generalize r.step shape c = r' at hstep ⊢
  cases hstep with
  | text _ ho hc =>
    have hcalls : HasCall { r with place := r.place.step c, draft := r.draft.push r.place c } i j ↔
        r.HasCall i j := HasCall.congr (fun p _ ↦ Iff.rfl) i j
    rw [hcalls]
    change _ ∨ (i, j) ∈ (Braces.matchFrom (r.place.step c).index r.opens shapes).1 ↔ _
    rw [Marker.index_step, ← hs.utf8Size_eq]
    by_cases hclosing : shape = Braces.closing
    · obtain hstack : r.stack = [] := by
        by_contra hne
        exact (hc hne).1 hclosing
      rw [hclosing, opens, hstack, List.map_nil, Braces.matchFrom_stray, Braces.utf8Size_closing]
    · rw [Braces.matchFrom_other _ _ _ ho hclosing]
  | opened place draft stack ho =>
    obtain rfl : shape = c := hs.eq (by rw [ho]; decide)
    subst ho
    rw [Braces.matchFrom_opening]
    refine or_congr (HasCall.congr (fun p hp ↦ ?_) i j) Iff.rfl
    simp [Holds, Part.under_nil, Part.under_flush hp]
  | closed place draft call stack hc =>
    obtain rfl : shape = c := hs.eq (by rw [hc]; decide)
    subst hc
    have hcalls := hasCall_closed place draft call stack i j
    refine (or_congr hcalls Iff.rfl).trans ?_
    rw [opens, opens, List.map_cons, Braces.matchFrom_closing, List.mem_cons, or_assoc,
      or_left_comm, Marker.index_step, Braces.utf8Size_closing]
  | separated place draft call stack hc =>
    obtain rfl : shape = c := hs.eq (by rw [hc]; decide)
    subst hc
    rw [Braces.matchFrom_other _ _ _ (by decide) (by decide)]
    refine or_congr (HasCall.congr (fun p hp ↦ ?_) i j) Iff.rfl
    simp [Holds, Part.under_nil, Part.within_finish hp, or_assoc, or_left_comm]

theorem hasCall_run {shapes text : List Char} (hs : List.Forall₂ Braces.StandsFor shapes text)
    (r : Reader) (i j : Nat) :
    (r.run shapes text).HasCall i j ↔
      r.HasCall i j ∨ (i, j) ∈ (Braces.matchFrom r.place.index r.opens shapes).1 := by
  induction hs generalizing r with
  | nil => simp [Reader.run]
  | cons hc _ ih => rw [Reader.run, ih, hasCall_step r hc]

end Reader

/-- Byte `k` belongs to the part itself: it lies in a literal, or holds a brace of a call. -/
def Part.Owns : Part → Nat → Prop
  | .literal _ span, k => span.start.index ≤ k ∧ k < span.stop.index
  | .call _ _ span, k => k = span.start.index ∨ k + 1 = span.stop.index

theorem append_eq_split {x y u v : List Char} {c : Char} (h : x ++ y = u ++ c :: v) :
    (∃ z, x = u ++ c :: z) ∨ ∃ z, u = x ++ z ∧ y = z ++ c :: v := by
  rcases List.append_eq_append_iff.mp h with ⟨z, rfl, rfl⟩ | ⟨z, rfl, hz⟩
  · exact Or.inr ⟨z, rfl, rfl⟩
  · cases z with
    | nil => exact Or.inr ⟨[], by simp, by simpa using hz.symm⟩
    | cons d z =>
      obtain ⟨rfl, -⟩ := List.cons.inj hz
      exact Or.inl ⟨z, rfl⟩

theorem eq_nil_of_singleton {u v : List Char} {c d : Char} (h : [d] = u ++ c :: v) : u = [] := by
  cases u with
  | nil => rfl
  | cons e u => simp at h

theorem index_after_add (m : Marker) (text : String) (u : List Char) :
    (m.after text).index + Braces.width u = m.index + Braces.width (text.toList ++ u) := by
  rw [Marker.index_after, Braces.width_append, Braces.width_toList, Nat.add_assoc]

mutual

/-- A character of a placed statement, unless it separates arguments, belongs to a part. -/
theorem Statement.StandsAt.owner {m : Marker} : {s : Statement} → s.StandsAt m →
    ∀ {u v : List Char} {c : Char}, s.print.toList = u ++ c :: v → c ≠ ';' →
      ∃ p : Part, p.Within s ∧ p.Owns (m.index + Braces.width u)
  | .mk parts span, h, u, v, c, hu, hc => by
    obtain ⟨p, hp, hk⟩ := PartsStandAt.owner h.parts hu hc
    exact ⟨p, Part.within_mk.mpr hp, hk⟩

theorem PartsStandAt.owner {m : Marker} : {parts : List Part} → PartsStandAt m parts →
    ∀ {u v : List Char} {c : Char}, (printParts parts).toList = u ++ c :: v → c ≠ ';' →
      ∃ p : Part, p.Under parts ∧ p.Owns (m.index + Braces.width u)
  | [], _, u, v, c, hu, _ => by simp [printParts] at hu
  | part :: parts, h, u, v, c, hu, hc => by
    rw [printParts, String.toList_append] at hu
    rcases append_eq_split hu with ⟨z, hz⟩ | ⟨z, rfl, hz⟩
    · obtain ⟨p, hp, hk⟩ := Part.StandsAt.owner h.1 hz hc
      exact ⟨p, Part.under_cons.mpr (Or.inl hp), hk⟩
    · obtain ⟨p, hp, hk⟩ := PartsStandAt.owner h.2 hz hc
      refine ⟨p, Part.under_cons.mpr (Or.inr hp), ?_⟩
      rwa [index_after_add] at hk

theorem Part.StandsAt.owner {m : Marker} : {part : Part} → part.StandsAt m →
    ∀ {u v : List Char} {c : Char}, part.print.toList = u ++ c :: v → c ≠ ';' →
      ∃ p : Part, (p = part ∨ p.Inside part) ∧ p.Owns (m.index + Braces.width u)
  | .literal text span, h, u, v, c, hu, _ => by
    refine ⟨.literal text span, Or.inl rfl, ?_⟩
    have hspan : (Part.literal text span).span = _ := h.span_eq
    change span = _ at hspan
    have hwidth := congrArg Braces.width hu
    have hpos := c.utf8Size_pos
    rw [Part.print, Braces.width_toList, Braces.width_append, Braces.width_cons] at hwidth
    simp only [Part.Owns, hspan, Part.print, Marker.index_after]
    omega
  | .call name args span, h, u, v, c, hu, hc => by
    simp only [Part.StandsAt] at h
    obtain ⟨hspan, hname, hargs⟩ := h
    rw [Part.print, String.toList_append] at hu
    rcases append_eq_split hu with ⟨z, hx⟩ | ⟨z, rfl, hz⟩
    · rw [String.toList_append] at hx
      rcases append_eq_split hx with ⟨z, hy⟩ | ⟨z, rfl, hz⟩
      · rw [String.toList_append] at hy
        rcases append_eq_split hy with ⟨z, hz⟩ | ⟨z, rfl, hz⟩
        · obtain rfl := eq_nil_of_singleton hz
          exact ⟨_, Or.inl rfl, Or.inl (by simp [hspan])⟩
        · obtain ⟨p, hp, hk⟩ := Statement.StandsAt.owner hname hz hc
          refine ⟨p, Or.inr ⟨name, List.mem_cons_self, hp⟩, ?_⟩
          rwa [index_after_add] at hk
      · obtain ⟨p, ⟨a, ha, hp⟩, hk⟩ := ArgsStandAt.owner hargs hz hc
        refine ⟨p, Or.inr ⟨a, List.mem_cons_of_mem _ ha, hp⟩, ?_⟩
        rwa [index_after_add] at hk
    · obtain rfl := eq_nil_of_singleton hz
      refine ⟨_, Or.inl rfl, Or.inr ?_⟩
      rw [hspan, ← index_after_add]
      rfl

theorem ArgsStandAt.owner {m : Marker} : {args : List Statement} → ArgsStandAt m args →
    ∀ {u v : List Char} {c : Char}, (printArgs args).toList = u ++ c :: v → c ≠ ';' →
      ∃ p : Part, (∃ a ∈ args, p.Within a) ∧ p.Owns (m.index + Braces.width u)
  | [], _, u, v, c, hu, _ => by simp [printArgs] at hu
  | arg :: args, h, u, v, c, hu, hc => by
    simp only [ArgsStandAt] at h
    rw [printArgs, String.toList_append] at hu
    rcases append_eq_split hu with ⟨z, hx⟩ | ⟨z, rfl, hz⟩
    · rw [String.toList_append] at hx
      rcases append_eq_split hx with ⟨z, hz⟩ | ⟨z, rfl, hz⟩
      · obtain rfl := eq_nil_of_singleton hz
        exact absurd (List.cons.inj hz).1.symm hc
      · obtain ⟨p, hp, hk⟩ := Statement.StandsAt.owner h.1 hz hc
        refine ⟨p, ⟨arg, List.mem_cons_self, hp⟩, ?_⟩
        rwa [index_after_add] at hk
    · obtain ⟨p, ⟨a, ha, hp⟩, hk⟩ := ArgsStandAt.owner h.2 hz hc
      refine ⟨p, ⟨a, List.mem_cons_of_mem _ ha, hp⟩, ?_⟩
      rwa [index_after_add] at hk

end

/-- The document of `source` has a call with its braces at bytes `i` and `j`. -/
def CallAt (source : String) (i j : Nat) : Prop :=
  ∃ p : Part, p.isCall ∧ p.Within (parse source) ∧ p.span.start.index = i ∧
    p.span.stop.index = j + 1

theorem callAt_iff_mem_mask (source : String) (i j : Nat) :
    CallAt source i j ↔ (i, j) ∈ (Braces.matchFrom 0 [] (Braces.mask source.toList)).1 := by
  have hs := Braces.mask_standsFor source.toList
  have hstack : (Reader.start.run (Braces.mask source.toList) source.toList).stack = [] :=
    Reader.run_balanced hs (Braces.mask_balanced source.toList)
  have hrun := Reader.hasCall_run hs Reader.start i j
  have hstart : ¬Reader.start.HasCall i j := by
    rintro ⟨p, -, hr, -⟩
    simp [Reader.Holds, Reader.start, Part.under_nil] at hr
  rw [or_iff_right hstart] at hrun
  refine Iff.trans ?_ hrun
  unfold CallAt parse Reader.HasCall Reader.Holds
  dsimp only
  rw [hstack]
  refine exists_congr fun p ↦ and_congr_right fun hp ↦ ?_
  rw [Part.within_finish hp]
  simp

theorem callAt_iff (source : String) (i j : Nat) :
    CallAt source i j ↔
      (i, j) ∈ Braces.pairs source ∧
        Braces.pairsAround source i + Braces.unclosedBefore source i < Braces.maxNesting :=
  (callAt_iff_mem_mask source i j).trans Braces.mem_matchFrom_mask

/-- A call of the document of `source` starts at byte `i`. -/
def OpensCall (source : String) (i : Nat) : Prop :=
  ∃ p : Part, p.isCall ∧ p.Within (parse source) ∧ p.span.start.index = i

theorem Part.Within.stop_pos {p : Part} {t : Statement} (h : p.Within t) {m : Marker}
    (ht : t.StandsAt m) (hp : p.isCall) : 0 < p.span.stop.index := by
  obtain ⟨s, hs, hmem⟩ := h
  obtain ⟨u, v, -, hplaced⟩ := hs.standsAt ht
  obtain ⟨x, y, -, hstands⟩ := hplaced.parts.of_mem hmem
  cases p with
  | literal => simp [isCall] at hp
  | call name args span =>
    have hbrace : "\x7d".utf8ByteSize = 1 := rfl
    simp only [Part.StandsAt] at hstands
    rw [Part.span, hstands.1, Marker.index_after, hbrace]
    exact Nat.succ_pos _

theorem opensCall_iff_callAt (source : String) (i : Nat) :
    OpensCall source i ↔ ∃ j, CallAt source i j := by
  constructor
  · rintro ⟨p, hp, hin, hi⟩
    have hpos := hin.stop_pos (parse_spec source).1 hp
    exact ⟨p.span.stop.index - 1, p, hp, hin, hi, by omega⟩
  · rintro ⟨j, p, hp, hin, hi, -⟩
    exact ⟨p, hp, hin, hi⟩

theorem brace_cases {source before after : String} {c : Char}
    (h : source = before ++ String.singleton c ++ after)
    (hc : c = Braces.opening ∨ c = Braces.closing) :
    (∃ j, CallAt source before.utf8ByteSize j) ∨ (∃ i, CallAt source i before.utf8ByteSize) ∨
      ∃ text span, (Part.literal text span).Within (parse source) ∧
        span.start.index ≤ before.utf8ByteSize ∧ before.utf8ByteSize < span.stop.index := by
  obtain ⟨hstands, hprint, -⟩ := parse_spec source
  have hlist : (parse source).print.toList = before.toList ++ c :: after.toList := by
    rw [hprint, h]
    simp
  have hsep : c ≠ ';' := by rcases hc with rfl | rfl <;> decide
  obtain ⟨p, hin, hk⟩ := hstands.owner hlist hsep
  rw [Braces.width_toList, Marker.start, Nat.zero_add] at hk
  cases p with
  | literal text span => exact Or.inr (Or.inr ⟨text, span, hin, hk⟩)
  | call name args span =>
    rcases hk with hk | hk
    · exact Or.inl ((opensCall_iff_callAt source _).mp ⟨_, rfl, hin, hk.symm⟩)
    · exact Or.inr (Or.inl ⟨_, _, rfl, hin, rfl, hk.symm⟩)

/-- A brace opens a call if and only if it is closed and less than the limit are open before it.
Never closed braces count, so the pairs around it alone decide exactly where these do not reach the
limit together with those. Any other brace is literal text. -/
theorem opensCall_iff (source : String) (i : Nat) :
    (OpensCall source i ↔
      (∃ j, (i, j) ∈ Braces.pairs source) ∧
        Braces.pairsAround source i + Braces.unclosedBefore source i < Braces.maxNesting) ∧
    ((OpensCall source i ↔
        (∃ j, (i, j) ∈ Braces.pairs source) ∧ Braces.pairsAround source i < Braces.maxNesting) ↔
      ¬((∃ j, (i, j) ∈ Braces.pairs source) ∧ Braces.pairsAround source i < Braces.maxNesting ∧
        Braces.maxNesting ≤ Braces.pairsAround source i + Braces.unclosedBefore source i)) ∧
    ∀ before c after, source = before ++ String.singleton c ++ after →
      c = Braces.opening ∨ c = Braces.closing →
      (∃ j, CallAt source before.utf8ByteSize j) ∨ (∃ i, CallAt source i before.utf8ByteSize) ∨
        ∃ text span, (Part.literal text span).Within (parse source) ∧
          span.start.index ≤ before.utf8ByteSize ∧ before.utf8ByteSize < span.stop.index := by
  have hopens : OpensCall source i ↔ (∃ j, (i, j) ∈ Braces.pairs source) ∧
      Braces.pairsAround source i + Braces.unclosedBefore source i < Braces.maxNesting := by
    rw [opensCall_iff_callAt]
    simp only [callAt_iff, exists_and_right]
  refine ⟨hopens, ?_, fun before c after h hc ↦ brace_cases h hc⟩
  rw [hopens]
  constructor
  · rintro h ⟨hpair, hlt, hle⟩
    have hlt' := (h.mpr ⟨hpair, hlt⟩).2
    omega
  · intro h
    refine ⟨fun ⟨hpair, hlt⟩ ↦ ⟨hpair, by omega⟩, fun ⟨hpair, hlt⟩ ↦ ⟨hpair, ?_⟩⟩
    by_contra hge
    exact h ⟨hpair, hlt, by omega⟩

theorem matchFrom_replicate (n i : Nat) (opens : List Nat) (text : List Char) :
    Braces.matchFrom i opens (List.replicate n Braces.opening ++ text) =
      Braces.matchFrom (i + n) ((List.range' i n).reverse ++ opens) text := by
  induction n generalizing i opens with
  | zero => simp
  | succ n ih =>
    rw [List.replicate_succ, List.cons_append, Braces.matchFrom_opening, ih, List.range'_succ]
    simp only [List.reverse_cons, List.append_assoc, List.cons_append, List.nil_append,
      Nat.add_assoc, Nat.add_comm 1 n]

/-- After as many never closed braces as the limit, a pair inside of no other is literal text. -/
theorem not_opensCall_after_unclosed :
    let source := String.ofList (List.replicate 256 Braces.opening) ++ "\x7blb\x7d"
    (∃ j, (256, j) ∈ Braces.pairs source) ∧
      Braces.pairsAround source 256 < Braces.maxNesting ∧ ¬OpensCall source 256 := by
  intro source
  have hmatch : Braces.matchFrom 0 [] source.toList = ([(256, 259)], (List.range' 0 256).reverse) := by
    have hpair (i : Nat) (opens : List Nat) :
        Braces.matchFrom i opens "\x7blb\x7d".toList = ([(i, i + 3)], opens) := rfl
    rw [String.toList_append, String.toList_ofList, matchFrom_replicate, List.append_nil, hpair]
  have hpairs : Braces.pairs source = [(256, 259)] := by rw [Braces.pairs, hmatch]
  have hunclosed : Braces.unclosedBefore source 256 = 256 := by
    rw [Braces.unclosedBefore, Braces.unclosed, hmatch, List.countP_reverse,
      List.countP_eq_length.mpr (by simp), List.length_range']
  refine ⟨⟨259, by simp [hpairs]⟩, by simp [Braces.pairsAround, hpairs, Braces.maxNesting], ?_⟩
  intro h
  obtain ⟨j, hj⟩ := (opensCall_iff_callAt source 256).mp h
  have hlt := ((callAt_iff source 256 j).mp hj).2
  rw [hunclosed, Braces.maxNesting] at hlt
  omega

end BraceScript
