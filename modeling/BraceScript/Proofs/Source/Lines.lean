import BraceScript.Proofs.Source.Layout
import BraceScript.Proofs.Source.Matching
import BraceScript.Proofs.Source.Nesting
import BraceScript.Source.Lines
import Mathlib.Data.List.GetD
import Mathlib.Data.List.Induction

namespace BraceScript

namespace Sorted

variable {table : List Nat} {key base size : Nat}

/-- What is looked for is among the `size` entries from `base` on, and the first of them is not
above it. -/
structure Brackets (table : List Nat) (key base size : Nat) : Prop where
  pos : 0 < size
  le : base + size ≤ table.length
  below : table.getD base 0 ≤ key
  above : ∀ k, base + size ≤ k → k < table.length → key < table.getD k 0

theorem getD_le_getD (hsorted : table.Pairwise (· < ·)) {i j : Nat} (hij : i ≤ j)
    (hj : j < table.length) : table.getD i 0 ≤ table.getD j 0 := by
  rcases Nat.eq_or_lt_of_le hij with rfl | hlt
  · exact Nat.le_refl _
  · have h := List.pairwise_iff_getElem.mp hsorted i j (by omega) hj hlt
    rw [List.getD_eq_getElem _ _ (by omega), List.getD_eq_getElem _ _ hj]
    exact Nat.le_of_lt h

theorem Brackets.lower (h : Brackets table key base size) (hsorted : table.Pairwise (· < ·))
    (hsize : ¬size ≤ 1) (hmid : key < table.getD (base + size / 2) 0) :
    Brackets table key base (size - size / 2) where
  pos := by omega
  le := by
    have hle := h.le
    omega
  below := h.below
  above := by
    intro k hk hlength
    exact Nat.lt_of_lt_of_le hmid (getD_le_getD hsorted (by omega) hlength)

theorem Brackets.upper (h : Brackets table key base size) (hsize : ¬size ≤ 1)
    (hmid : ¬key < table.getD (base + size / 2) 0) :
    Brackets table key (base + size / 2) (size - size / 2) where
  pos := by omega
  le := by
    have hle := h.le
    omega
  below := Nat.not_lt.mp hmid
  above := by
    intro k hk hlength
    exact h.above k (by omega) hlength

theorem brackets_halve (hsorted : table.Pairwise (· < ·)) (h : Brackets table key base size) :
    Brackets table key (halve table key base size) 1 := by
  fun_induction halve table key base size with
  | case1 base size hsize =>
    obtain rfl : size = 1 := Nat.le_antisymm hsize h.pos
    exact h
  | case2 base size hsize hmid ih => exact ih (h.lower hsorted hsize hmid)
  | case3 base size hsize hmid ih => exact ih (h.upper hsize hmid)

/-- Where the entries up to `key` and those above it are known, so is the entry that halving
finds. -/
theorem halve_append {before after : List Nat} (hsorted : (before ++ after).Pairwise (· < ·))
    (hne : before ≠ []) (hbefore : ∀ a ∈ before, a ≤ key) (hafter : ∀ a ∈ after, key < a) :
    halve (before ++ after) key 0 (before ++ after).length + 1 = before.length := by
  have hpos := List.length_pos_iff.mpr hne
  have hlow (i : Nat) (hi : i < before.length) : (before ++ after).getD i 0 ≤ key := by
    rw [List.getD_append _ _ _ _ hi, List.getD_eq_getElem _ _ hi]
    exact hbefore _ (List.getElem_mem hi)
  have hhigh (i : Nat) (hi : before.length ≤ i) (hlength : i < (before ++ after).length) :
      key < (before ++ after).getD i 0 := by
    rw [List.length_append] at hlength
    have hrest : i - before.length < after.length := by omega
    rw [List.getD_append_right _ _ _ _ hi, List.getD_eq_getElem _ _ hrest]
    exact hafter _ (List.getElem_mem hrest)
  have hlength : before.length ≤ (before ++ after).length := by simp
  have hstart : Brackets (before ++ after) key 0 (before ++ after).length := by
    refine ⟨by omega, by omega, hlow 0 hpos, ?_⟩
    intro k hk hlength
    omega
  have hfound := brackets_halve hsorted hstart
  generalize halve (before ++ after) key 0 (before ++ after).length = r at hfound
  have hle := hfound.le
  have hr : r < before.length := by
    by_contra hr
    have hgreater := hhigh r (by omega) (by omega)
    have hbelow := hfound.below
    omega
  have hr' : before.length ≤ r + 1 := by
    by_contra hr'
    have hless := hlow (r + 1) (by omega)
    have habove := hfound.above (r + 1) (Nat.le_refl _) (by omega)
    omega
  omega

end Sorted

section LineStarts

open Braces

variable {i : Nat} {text : List Char}

theorem lineStarts_append (i : Nat) (u v : List Char) :
    lineStarts i (u ++ v) = lineStarts i u ++ lineStarts (i + width u) v := by
  induction u generalizing i with
  | nil => rfl
  | cons c u ih =>
    rw [List.cons_append, lineStarts, lineStarts, width_cons, ← Nat.add_assoc, ih]
    split
    · rw [List.cons_append]
    · rfl

theorem length_lineStarts : (lineStarts i text).length = text.count '\n' := by
  induction text generalizing i with
  | nil => rfl
  | cons c text ih =>
    rw [lineStarts]
    split
    case isTrue hc => rw [hc, List.length_cons, ih, List.count_cons_self]
    case isFalse hc => rw [ih, List.count_cons_of_ne hc]

theorem mem_lineStarts {a : Nat} (ha : a ∈ lineStarts i text) : i < a ∧ a ≤ i + width text := by
  induction text generalizing i with
  | nil => cases ha
  | cons c text ih =>
    have hpos := c.utf8Size_pos
    rw [width_cons]
    rw [lineStarts] at ha
    split at ha
    · rcases List.mem_cons.mp ha with rfl | ha
      · omega
      · have hmem := ih ha
        omega
    · have hmem := ih ha
      omega

theorem pairwise_lineStarts : (i :: lineStarts i text).Pairwise (· < ·) := by
  induction text generalizing i with
  | nil => exact List.pairwise_singleton ..
  | cons c text ih =>
    apply List.pairwise_cons.mpr
    refine ⟨fun a ha ↦ (mem_lineStarts ha).1, ?_⟩
    rw [lineStarts]
    split
    · exact ih
    · exact ih.of_cons

end LineStarts

section Bytes

open Braces

theorem splitBytes?_width (u v : List Char) : splitBytes? (width u) (u ++ v) = some (u, v) := by
  induction u with
  | nil => simp [splitBytes?]
  | cons c u ih =>
    obtain ⟨k, hk⟩ := Nat.exists_eq_succ_of_ne_zero (Nat.ne_of_gt c.utf8Size_pos)
    have hsucc : width (c :: u) = k + width u + 1 := by
      rw [width_cons]
      omega
    have hrest : k + width u + 1 - c.utf8Size = width u := by omega
    rw [hsucc, List.cons_append, splitBytes?, if_pos (by omega), hrest, ih]
    rfl

theorem eq_append_of_splitBytes? {n : Nat} {text u v : List Char}
    (h : splitBytes? n text = some (u, v)) : text = u ++ v ∧ width u = n := by
  fun_induction splitBytes? n text generalizing u v with
  | case1 text =>
    cases h
    exact ⟨rfl, rfl⟩
  | case2 => cases h
  | case3 n c text hle ih =>
    obtain ⟨⟨x, y⟩, hsplit, heq⟩ := Option.map_eq_some_iff.mp h
    cases heq
    obtain ⟨rfl, hwidth⟩ := ih hsplit
    refine ⟨rfl, ?_⟩
    rw [width_cons, hwidth]
    omega
  | case4 => cases h

theorem slice?_append {source : String} {u x v : List Char} (h : source.toList = u ++ (x ++ v)) :
    slice? source (width u) (width (u ++ x)) = some x := by
  rw [width_append, slice?, if_pos (Nat.le_add_right ..), Nat.add_sub_cancel_left, h,
    splitBytes?_width]
  simp [splitBytes?_width]

theorem exists_of_slice? {source : String} {i j : Nat} {x : List Char}
    (h : slice? source i j = some x) : ∃ u v, source.toList = u ++ v ∧ width u = j := by
  unfold slice? at h
  split at h
  case isTrue hle =>
    obtain ⟨⟨u, rest⟩, hbefore, h⟩ := Option.bind_eq_some_iff.mp h
    obtain ⟨⟨y, v⟩, hsplit, -⟩ := Option.bind_eq_some_iff.mp h
    obtain ⟨hu, hi⟩ := eq_append_of_splitBytes? hbefore
    obtain ⟨hrest, hj⟩ := eq_append_of_splitBytes? hsplit
    dsimp only at hrest
    refine ⟨u ++ y, v, by rw [hu, hrest, List.append_assoc], ?_⟩
    rw [width_append]
    omega
  case isFalse => cases h

end Bytes

def lastLine (text : List Char) : List Char := (text.reverse.takeWhile (· != '\n')).reverse

section LastLine

open Braces

theorem lastLine_feed (u : List Char) : lastLine (u ++ ['\n']) = [] := by
  simp [lastLine]

theorem lastLine_other (u : List Char) {c : Char} (hc : c ≠ '\n') :
    lastLine (u ++ [c]) = lastLine u ++ [c] := by
  simp [lastLine, hc]

theorem exists_lineStart (text : List Char) :
    ∃ u, text = u ++ lastLine text ∧
      (0 :: lineStarts 0 text)[text.count '\n']? = some (width u) := by
  induction text using List.reverseRecOn with
  | nil => exact ⟨[], rfl, rfl⟩
  | append_singleton text c ih =>
    obtain ⟨u, htext, hstart⟩ := ih
    rw [lineStarts_append, Nat.zero_add]
    by_cases hc : c = '\n'
    · subst hc
      have hone : lineStarts (width text) ['\n'] = [width (text ++ ['\n'])] := by simp [lineStarts]
      refine ⟨text ++ ['\n'], by simp [lastLine_feed], ?_⟩
      rw [hone, List.count_append, List.count_singleton_self, List.getElem?_cons_succ,
        ← length_lineStarts (i := 0), List.getElem?_concat_length]
    · refine ⟨u, ?_, ?_⟩
      · rw [lastLine_other text hc, ← List.append_assoc, ← htext]
      · have hnone : lineStarts (width text) [c] = [] := by simp [lineStarts, hc]
        rw [hnone, List.append_nil, List.count_append, List.count_singleton, if_neg (by simpa using hc),
          Nat.add_zero, hstart]

end LastLine

namespace LineTable

open Braces

theorem line?_ofSource {source : String} {u v : List Char} (h : source.toList = u ++ v) :
    (ofSource source).line? (width u) = some (u.count '\n') := by
  let before := 0 :: lineStarts 0 u
  let after := lineStarts (width u) v
  have hstarts : (ofSource source).starts = before ++ after := by
    rw [ofSource, h, lineStarts_append, Nat.zero_add, List.cons_append]
  have hsorted : (before ++ after).Pairwise (· < ·) := hstarts ▸ pairwise_lineStarts
  have hbefore : ∀ a ∈ before, a ≤ width u := by
    intro a ha
    rcases List.mem_cons.mp ha with rfl | ha
    · exact Nat.zero_le _
    · simpa using (mem_lineStarts ha).2
  have hafter : ∀ a ∈ after, width u < a := fun a ha ↦ (mem_lineStarts ha).1
  have hbase := Sorted.halve_append hsorted (List.cons_ne_nil _ _) hbefore hafter
  have hlength : before.length = u.count '\n' + 1 := congrArg (· + 1) length_lineStarts
  rw [hlength, Nat.add_right_cancel_iff] at hbase
  have hle : (before ++ after).getD (u.count '\n') 0 ≤ width u := by
    have hlt : u.count '\n' < before.length := by omega
    rw [List.getD_append _ _ _ _ hlt, List.getD_eq_getElem _ _ hlt]
    exact hbefore _ (List.getElem_mem hlt)
  rw [line?, hstarts, Sorted.search, if_neg (by simp [before]), hbase]
  dsimp only
  by_cases heq : (before ++ after).getD (u.count '\n') 0 = width u
  · rw [if_pos heq]
  · rw [if_neg heq, if_pos (Nat.lt_of_le_of_ne hle heq)]

theorem marker?_ofSource {source : String} {u v : List Char} (h : source.toList = u ++ v) :
    (ofSource source).marker? (width u) =
      some ⟨width u, u.count '\n' + 1, (lastLine u).length + 1⟩ := by
  obtain ⟨w, hw, hstart⟩ := exists_lineStart u
  have hstarts : (ofSource source).starts[u.count '\n']? = some (width w) := by
    have hlt : u.count '\n' < (0 :: lineStarts 0 u).length := by simp [length_lineStarts]
    rw [ofSource, h, lineStarts_append, ← List.cons_append, List.getElem?_append_left hlt, hstart]
  have hslice : slice? source (width w) (width u) = some (lastLine u) := by
    have hsource : source.toList = w ++ (lastLine u ++ v) := by rw [← List.append_assoc, ← hw, h]
    have hslice := slice?_append hsource
    rwa [← hw] at hslice
  simp only [marker?, line?_ofSource h, hstarts, Option.bind_eq_bind, Option.bind_some]
  change (slice? source (width w) (width u)).bind _ = _
  rw [hslice]
  rfl

theorem exists_of_marker? {source : String} {i : Nat} {m : Marker}
    (h : (ofSource source).marker? i = some m) : ∃ u v, source.toList = u ++ v ∧ width u = i := by
  obtain ⟨line, -, h⟩ := Option.bind_eq_some_iff.mp h
  obtain ⟨start, -, h⟩ := Option.bind_eq_some_iff.mp h
  obtain ⟨text, htext, -⟩ := Option.bind_eq_some_iff.mp h
  exact exists_of_slice? htext

end LineTable

namespace Marker

open Braces

theorem advance_append (m : Marker) (u v : List Char) :
    m.advance (u ++ v) = (m.advance u).advance v := List.foldl_append

theorem advance_start (text : List Char) :
    start.advance text = ⟨width text, text.count '\n' + 1, (lastLine text).length + 1⟩ := by
  induction text using List.reverseRecOn with
  | nil => rfl
  | append_singleton text c ih =>
    have hstep (m : Marker) : m.advance [c] = m.step c := rfl
    -- Only the last character decides where the last line starts.
    rw [advance_append, ih, hstep, step]
    by_cases hc : c = '\n'
    · subst hc
      simp [lastLine_feed]
    · simp [lastLine_other text hc, hc]

/-- A marker of the text comes before another by its line, or on the same line by its column. -/
def Precedes (a b : Marker) : Prop := a.line < b.line ∨ a.line = b.line ∧ a.column < b.column

theorem precedes_step (m : Marker) (c : Char) : m.Precedes (m.step c) := by
  unfold step
  split
  · exact Or.inl m.line.lt_succ_self
  · exact Or.inr ⟨rfl, m.column.lt_succ_self⟩

theorem Precedes.trans {a b c : Marker} (hab : a.Precedes b) (hbc : b.Precedes c) : a.Precedes c := by
  unfold Precedes at *
  omega

theorem Precedes.asymm {a b : Marker} (hab : a.Precedes b) : ¬b.Precedes a := by
  unfold Precedes at *
  omega

theorem precedes_advance (m : Marker) (c : Char) (text : List Char) :
    m.Precedes (m.advance (c :: text)) := by
  induction text generalizing m c with
  | nil => exact m.precedes_step c
  | cons d text ih => exact (m.precedes_step c).trans (ih (m.step c) d)

theorem index_lt_advance (m : Marker) (c : Char) (text : List Char) :
    m.index < (m.advance (c :: text)).index := by
  have hpos := c.utf8Size_pos
  have hindex := m.index_advance (c :: text)
  rw [← width_toList, String.toList_ofList, width_cons] at hindex
  omega

/-- Of two places of one text, the one that comes first by line and column has the smaller index. -/
theorem precedes_iff_index_lt {u v u' v' : List Char} (h : u ++ v = u' ++ v') :
    (start.advance u).Precedes (start.advance u') ↔
      (start.advance u).index < (start.advance u').index := by
  have hself (m : Marker) : m.Precedes m ↔ m.index < m.index :=
    iff_of_false (fun hm ↦ hm.asymm hm) (Nat.lt_irrefl _)
  rcases List.append_eq_append_iff.mp h with ⟨x, rfl, -⟩ | ⟨x, rfl, -⟩
  · cases x with
    | nil =>
      rw [List.append_nil]
      exact hself _
    | cons c x =>
      rw [advance_append]
      exact iff_of_true (precedes_advance _ c x) (index_lt_advance _ c x)
  · cases x with
    | nil =>
      rw [List.append_nil]
      exact hself _
    | cons c x =>
      rw [advance_append]
      exact iff_of_false (precedes_advance _ c x).asymm (Nat.lt_asymm (index_lt_advance _ c x))

end Marker

namespace LineTable

open Braces

variable {source : String} {i j : Nat} {a b : Marker}

theorem marker?_eq_some : (ofSource source).marker? i = some a ↔
    ∃ u v, source.toList = u ++ v ∧ width u = i ∧ a = Marker.start.advance u := by
  constructor
  · intro h
    obtain ⟨u, v, huv, rfl⟩ := exists_of_marker? h
    rw [marker?_ofSource huv, ← Marker.advance_start] at h
    exact ⟨u, v, huv, rfl, (Option.some.inj h).symm⟩
  · rintro ⟨u, v, huv, rfl, rfl⟩
    rw [marker?_ofSource huv, Marker.advance_start]

theorem marker?_ne_none : (ofSource source).marker? i ≠ none ↔
    ∃ u v : String, source = u ++ v ∧ u.utf8ByteSize = i := by
  rw [Option.ne_none_iff_exists']
  constructor
  · rintro ⟨a, ha⟩
    obtain ⟨u, v, huv, rfl, -⟩ := marker?_eq_some.mp ha
    refine ⟨String.ofList u, String.ofList v, ?_, ?_⟩
    · rw [← String.ofList_append, ← huv, String.ofList_toList]
    · rw [← width_toList, String.toList_ofList]
  · rintro ⟨u, v, rfl, rfl⟩
    exact ⟨_, marker?_eq_some.mpr ⟨u.toList, v.toList, String.toList_append, width_toList u, rfl⟩⟩

theorem index_of_marker? (h : (ofSource source).marker? i = some a) : a.index = i := by
  obtain ⟨u, v, -, hu, rfl⟩ := marker?_eq_some.mp h
  rw [Marker.advance_start, hu]

theorem precedes_iff (ha : (ofSource source).marker? i = some a)
    (hb : (ofSource source).marker? j = some b) : a.Precedes b ↔ i < j := by
  rw [← index_of_marker? ha, ← index_of_marker? hb]
  obtain ⟨u, v, huv, -, rfl⟩ := marker?_eq_some.mp ha
  obtain ⟨u', v', huv', -, rfl⟩ := marker?_eq_some.mp hb
  exact Marker.precedes_iff_index_lt (huv.symm.trans huv')

theorem eq_of_line_column (ha : (ofSource source).marker? i = some a)
    (hb : (ofSource source).marker? j = some b) (hline : a.line = b.line)
    (hcolumn : a.column = b.column) : a = b := by
  have hij : ¬i < j := by
    rw [← precedes_iff ha hb, Marker.Precedes]
    omega
  have hji : ¬j < i := by
    rw [← precedes_iff hb ha, Marker.Precedes]
    omega
  obtain rfl : i = j := by omega
  exact Option.some.inj (ha.symm.trans hb)

end LineTable

/-- The marker is the start or the end of a statement or of a part anywhere in the tree. -/
def Statement.Bounds (t : Statement) (m : Marker) : Prop :=
  ∃ span : Span, (m = span.start ∨ m = span.stop) ∧
    ((∃ s : Statement, s.OccursIn t ∧ s.span = span) ∨ ∃ p : Part, p.Within t ∧ p.span = span)

theorem Marker.Heads.marker? {m : Marker} {source text : String} (h : m.Heads source text) :
    (LineTable.ofSource source).marker? m.index = some m := by
  obtain ⟨before, after, hsource, rfl⟩ := h
  apply LineTable.marker?_eq_some.mpr
  refine ⟨before.toList, (text ++ after).toList, ?_, ?_, rfl⟩
  · rw [hsource, String.append_assoc, String.toList_append]
  · simp [Marker.start]

theorem marker?_of_bounds {source : String} {m : Marker} (h : (parse source).Bounds m) :
    (LineTable.ofSource source).marker? m.index = some m := by
  have hends {m : Marker} {text : String} (hm : m.Heads source text) {x : Marker}
      (hx : x = m ∨ x = m.after text) : (LineTable.ofSource source).marker? x.index = some x := by
    rcases hx with rfl | rfl
    · exact hm.marker?
    · have hstop : (m.after text).Heads source "" := by
        apply Marker.Heads.right
        simpa using hm
      exact hstop.marker?
  obtain ⟨hstands, hprint, -⟩ := parse_spec source
  have hplace {s : Statement} (hs : s.OccursIn (parse source)) :
      ∃ m : Marker, s.StandsAt m ∧ m.Heads source s.print := by
    obtain ⟨before, after, htext, hplaced⟩ := hs.standsAt hstands
    rw [hprint] at htext
    exact ⟨_, hplaced, before, after, htext, rfl⟩
  obtain ⟨span, hm, hnode⟩ := h
  rcases hnode with ⟨s, hs, rfl⟩ | ⟨p, ⟨s, hs, hp⟩, rfl⟩
  · obtain ⟨place, hplaced, hheads⟩ := hplace hs
    rw [hplaced.span_eq] at hm
    exact hends hheads hm
  · obtain ⟨place, hplaced, hheads⟩ := hplace hs
    obtain ⟨before, after, htext, hpart⟩ := hplaced.parts.of_mem hp
    rw [s.print_eq, htext] at hheads
    rw [hpart.span_eq] at hm
    exact hends hheads.inner hm

/-- The marker of every place between two characters counts the lines and, on the last of them, the
characters before it. Line and column tell markers apart and order them as their bytes are ordered,
among them the ends of all nodes of the document. -/
theorem markers_spec (source : String) :
    (∀ u v : String, source = u ++ v →
      (LineTable.ofSource source).marker? u.utf8ByteSize =
        some ⟨u.utf8ByteSize, 1 + u.toList.count '\n', 1 + (lastLine u.toList).length⟩) ∧
    (∀ i, (LineTable.ofSource source).marker? i ≠ none ↔
      ∃ u v : String, source = u ++ v ∧ u.utf8ByteSize = i) ∧
    (∀ i j a b, (LineTable.ofSource source).marker? i = some a →
      (LineTable.ofSource source).marker? j = some b →
      (a.Precedes b ↔ i < j) ∧ (a.line = b.line → a.column = b.column → i = j)) ∧
    (∀ m, (parse source).Bounds m → (LineTable.ofSource source).marker? m.index = some m) ∧
    (∀ a b, (parse source).Bounds a → (parse source).Bounds b →
      (a.Precedes b ↔ a.index < b.index) ∧ (a.line = b.line → a.column = b.column → a = b)) := by
  refine ⟨?_, fun i ↦ LineTable.marker?_ne_none, ?_, fun m hm ↦ marker?_of_bounds hm, ?_⟩
  · intro u v huv
    have htext : source.toList = u.toList ++ v.toList := by rw [huv, String.toList_append]
    rw [← Braces.width_toList, LineTable.marker?_ofSource htext, Nat.add_comm 1, Nat.add_comm 1]
  · intro i j a b ha hb
    refine ⟨LineTable.precedes_iff ha hb, ?_⟩
    intro hline hcolumn
    have heq := LineTable.eq_of_line_column ha hb hline hcolumn
    rw [← LineTable.index_of_marker? ha, ← LineTable.index_of_marker? hb, heq]
  · intro a b ha hb
    have ha := marker?_of_bounds ha
    have hb := marker?_of_bounds hb
    exact ⟨LineTable.precedes_iff ha hb, LineTable.eq_of_line_column ha hb⟩

end BraceScript
