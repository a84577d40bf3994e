import BraceScript.Source.Statement

namespace BraceScript

namespace Marker

/-- The place after `text` when `text` stands at `m`. -/
def after (m : Marker) (text : String) : Marker := m.advance text.toList

variable (m : Marker)

@[simp] theorem after_empty : m.after "" = m := by simp [after, advance]

@[simp] theorem after_append (s t : String) : m.after (s ++ t) = (m.after s).after t := by
  simp [after, advance]

theorem after_singleton (c : Char) : m.after (String.singleton c) = m.step c := by
  simp [after, advance]

theorem index_step (c : Char) : (m.step c).index = m.index + c.utf8Size := by
  unfold step
  split <;> rfl

theorem index_advance (text : List Char) :
    (m.advance text).index = m.index + (String.ofList text).utf8ByteSize := by
  induction text generalizing m with
  | nil => simp [advance]
  | cons c text ih =>
    have h := ih (m.step c)
    rw [index_step] at h
    rw [String.ofList_cons, String.utf8ByteSize_append, String.utf8ByteSize_singleton,
      ← Nat.add_assoc, ← h]
    rfl

@[simp] theorem index_after (text : String) :
    (m.after text).index = m.index + text.utf8ByteSize := by
  rw [after, index_advance, String.ofList_toList]

end Marker

mutual

/-- The statement stands at the marker: its span covers its text there, and so on inside. -/
def Statement.StandsAt : Marker → Statement → Prop
  | m, .mk parts span => span = ⟨m, m.after (printParts parts)⟩ ∧ PartsStandAt m parts

def PartsStandAt : Marker → List Part → Prop
  | _, [] => True
  | m, part :: parts => part.StandsAt m ∧ PartsStandAt (m.after part.print) parts

def Part.StandsAt : Marker → Part → Prop
  | m, .literal text span => span = ⟨m, m.after text⟩
  | m, .call name args span =>
    span = ⟨m, (m.after ("\x7b" ++ name.print ++ printArgs args)).after "\x7d"⟩ ∧
      name.StandsAt (m.after "\x7b") ∧ ArgsStandAt (m.after ("\x7b" ++ name.print)) args

def ArgsStandAt : Marker → List Statement → Prop
  | _, [] => True
  | m, arg :: args => arg.StandsAt (m.after ";") ∧ ArgsStandAt (m.after (";" ++ arg.print)) args

end

/-- `s` is the given statement or a name or an argument anywhere inside of it. -/
inductive Statement.OccursIn (s : Statement) : Statement → Prop
  | self : OccursIn s s
  | name {parts : List Part} {span span' : Span} {n : Statement} {args : List Statement} :
      .call n args span' ∈ parts → OccursIn s n → OccursIn s (.mk parts span)
  | arg {parts : List Part} {span span' : Span} {n a : Statement} {args : List Statement} :
      .call n args span' ∈ parts → a ∈ args → OccursIn s a → OccursIn s (.mk parts span)

theorem Statement.OccursIn.trans {r s t : Statement} (h : r.OccursIn s) (h' : s.OccursIn t) :
    r.OccursIn t := by
  induction h' with
  | self => exact h
  | name hmem _ ih => exact .name hmem ih
  | arg hmem ha _ ih => exact .arg hmem ha ih

theorem Statement.print_eq (s : Statement) : s.print = printParts s.parts := by cases s; rfl

@[simp] theorem printParts_append (ps qs : List Part) :
    printParts (ps ++ qs) = printParts ps ++ printParts qs := by
  induction ps with
  | nil => simp [printParts]
  | cons p ps ih => simp [printParts, ih, String.append_assoc]

@[simp] theorem printArgs_append (as bs : List Statement) :
    printArgs (as ++ bs) = printArgs as ++ printArgs bs := by
  induction as with
  | nil => simp [printArgs]
  | cons a as ih => simp [printArgs, ih, String.append_assoc]

theorem partsStandAt_append (m : Marker) (ps qs : List Part) :
    PartsStandAt m (ps ++ qs) ↔ PartsStandAt m ps ∧ PartsStandAt (m.after (printParts ps)) qs := by
  induction ps generalizing m with
  | nil => simp [PartsStandAt, printParts]
  | cons p ps ih => simp [PartsStandAt, printParts, ih, and_assoc]

theorem argsStandAt_append (m : Marker) (as bs : List Statement) :
    ArgsStandAt m (as ++ bs) ↔ ArgsStandAt m as ∧ ArgsStandAt (m.after (printArgs as)) bs := by
  induction as generalizing m with
  | nil => simp [ArgsStandAt, printArgs]
  | cons a as ih => simp [ArgsStandAt, printArgs, ih, and_assoc]

theorem Statement.StandsAt.span_eq {m : Marker} {s : Statement} (h : s.StandsAt m) :
    s.span = ⟨m, m.after s.print⟩ := by
  cases s with
  | mk parts span =>
    simp only [StandsAt] at h
    simpa [Statement.span, Statement.print] using h.1

theorem Statement.StandsAt.parts {m : Marker} {s : Statement} (h : s.StandsAt m) :
    PartsStandAt m s.parts := by
  cases s with
  | mk parts span =>
    simp only [StandsAt] at h
    exact h.2

theorem Part.StandsAt.span_eq {m : Marker} {p : Part} (h : p.StandsAt m) :
    p.span = ⟨m, m.after p.print⟩ := by
  cases p with
  | literal text span => simpa [Part.span, Part.print, Part.StandsAt] using h
  | call name args span =>
    simp only [StandsAt] at h
    rw [Part.span, h.1, Part.print, ← Marker.after_append]

theorem PartsStandAt.of_mem {m : Marker} {ps : List Part} (h : PartsStandAt m ps) {p : Part}
    (hp : p ∈ ps) :
    ∃ before after, printParts ps = before ++ p.print ++ after ∧ p.StandsAt (m.after before) := by
  obtain ⟨us, vs, rfl⟩ := List.append_of_mem hp
  rw [partsStandAt_append] at h
  refine ⟨printParts us, printParts vs, ?_, ?_⟩
  · rw [printParts_append, printParts, String.append_assoc]
  · have hv := h.2
    simp only [PartsStandAt] at hv
    exact hv.1

theorem ArgsStandAt.of_mem {m : Marker} {as : List Statement} (h : ArgsStandAt m as)
    {a : Statement} (ha : a ∈ as) :
    ∃ before after, printArgs as = before ++ a.print ++ after ∧ a.StandsAt (m.after before) := by
  obtain ⟨us, vs, rfl⟩ := List.append_of_mem ha
  rw [argsStandAt_append] at h
  refine ⟨printArgs us ++ ";", printArgs vs, ?_, ?_⟩
  · rw [printArgs_append, printArgs]
    simp only [String.append_assoc]
  · have hv := h.2
    simp only [ArgsStandAt] at hv
    simpa using hv.1

theorem Statement.OccursIn.standsAt {s t : Statement} (h : s.OccursIn t) {m : Marker}
    (ht : t.StandsAt m) :
    ∃ before after, t.print = before ++ s.print ++ after ∧ s.StandsAt (m.after before) := by
  induction h generalizing m with
  | self => exact ⟨"", "", by simp, by simpa using ht⟩
  | @name parts span span' n args hmem h ih =>
    obtain ⟨u, v, huv, hp⟩ := ht.parts.of_mem hmem
    simp only [Part.StandsAt] at hp
    obtain ⟨x, y, hxy, hs⟩ := ih hp.2.1
    refine ⟨u ++ "\x7b" ++ x, y ++ printArgs args ++ "\x7d" ++ v, ?_, ?_⟩
    · rw [Statement.print_eq, huv, Part.print, hxy]
      simp only [String.append_assoc]
    · simpa using hs
  | @arg parts span span' n a args hmem ha h ih =>
    obtain ⟨u, v, huv, hp⟩ := ht.parts.of_mem hmem
    simp only [Part.StandsAt] at hp
    obtain ⟨w, z, hwz, ha⟩ := hp.2.2.of_mem ha
    obtain ⟨x, y, hxy, hs⟩ := ih ha
    refine ⟨u ++ "\x7b" ++ n.print ++ w ++ x, y ++ z ++ "\x7d" ++ v, ?_, ?_⟩
    · rw [Statement.print_eq, huv, Part.print, hwz, hxy]
      simp only [String.append_assoc]
    · simpa using hs

end BraceScript
