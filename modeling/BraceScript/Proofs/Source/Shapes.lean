import BraceScript.Proofs.Source.Printing

namespace BraceScript

mutual

/-- The statement, which stands `inside` of a call or not, is read from these shapes. -/
def Statement.Shaped (inside : Bool) : Statement → List Char → Prop
  | .mk parts _, shapes => PartsShaped inside parts shapes

def PartsShaped (inside : Bool) : List Part → List Char → Prop
  | [], shapes => shapes = []
  | part :: parts, shapes =>
    ∃ u v, shapes = u ++ v ∧ part.Shaped inside u ∧ PartsShaped inside parts v

def Part.Shaped (inside : Bool) : Part → List Char → Prop
  | .literal text _, shapes => IsText inside shapes ∧ List.Forall₂ Braces.StandsFor shapes text.toList
  | .call name args _, shapes =>
    ∃ u v, shapes = Braces.opening :: (u ++ v ++ [Braces.closing]) ∧ name.Shaped true u ∧
      ArgsShaped args v

def ArgsShaped : List Statement → List Char → Prop
  | [], shapes => shapes = []
  | arg :: args, shapes => ∃ u v, shapes = ';' :: (u ++ v) ∧ arg.Shaped true u ∧ ArgsShaped args v

end

theorem partsShaped_append {inside : Bool} {ps qs : List Part} {shapes : List Char} :
    PartsShaped inside (ps ++ qs) shapes ↔
      ∃ u v, shapes = u ++ v ∧ PartsShaped inside ps u ∧ PartsShaped inside qs v := by
  induction ps generalizing shapes with
  | nil => simp [PartsShaped]
  | cons p ps ih =>
    simp only [List.cons_append, PartsShaped, ih]
    constructor
    · rintro ⟨u, v, rfl, hp, x, y, rfl, hps, hqs⟩
      exact ⟨u ++ x, y, (List.append_assoc ..).symm, ⟨u, x, rfl, hp, hps⟩, hqs⟩
    · rintro ⟨_, y, rfl, ⟨u, x, rfl, hp, hps⟩, hqs⟩
      exact ⟨u, x ++ y, List.append_assoc .., hp, x, y, rfl, hps, hqs⟩

theorem argsShaped_concat {args : List Statement} {arg : Statement} {u v : List Char}
    (hargs : ArgsShaped args u) (harg : arg.Shaped true v) : ArgsShaped (args ++ [arg]) (u ++ ';' :: v) := by
  induction args generalizing u with
  | nil =>
    obtain rfl : u = [] := hargs
    exact ⟨v, [], by simp, harg, rfl⟩
  | cons a args ih =>
    obtain ⟨x, y, rfl, ha, hrest⟩ := hargs
    exact ⟨x, y ++ ';' :: v, by simp, ha, ih hrest⟩

/-- The shapes of a call with these finished statements, latest first, up to the next one. -/
def LeadShaped : List Statement → List Char → Prop
  | [], shapes => shapes = [Braces.opening]
  | s :: done, shapes => ∃ u v, shapes = u ++ v ++ [';'] ∧ LeadShaped done u ∧ s.Shaped true v

theorem LeadShaped.reverse {done : List Statement} {last : Statement} {u v : List Char}
    (h : LeadShaped done u) (hlast : last.Shaped true v) :
    ∃ name args x y, (last :: done).reverse = name :: args ∧ u ++ v = Braces.opening :: (x ++ y) ∧
      name.Shaped true x ∧ ArgsShaped args y := by
  induction done generalizing last u v with
  | nil =>
    obtain rfl : u = [Braces.opening] := h
    exact ⟨last, [], v, [], rfl, by simp, hlast, rfl⟩
  | cons s done ih =>
    obtain ⟨lead, w, rfl, hdone, hs⟩ := h
    obtain ⟨name, args, x, y, hrev, hshapes, hname, hargs⟩ := ih hdone hs
    refine ⟨name, args ++ [last], x, y ++ ';' :: v, ?_, ?_, hname, argsShaped_concat hargs hlast⟩
    · rw [List.reverse_cons, hrev, List.cons_append]
    · rw [hshapes]
      simp

namespace Draft

def Shaped (inside : Bool) (d : Draft) (shapes : List Char) : Prop :=
  ∃ u v, shapes = u ++ v ∧ PartsShaped inside d.parts.reverse u ∧ IsText inside v ∧
    List.Forall₂ Braces.StandsFor v d.text.reverse

variable {inside : Bool} {d : Draft} {shapes : List Char}

theorem shaped_start (inside : Bool) (m : Marker) : Shaped inside { start := m } [] :=
  ⟨[], [], rfl, rfl, by simp [IsText], .nil⟩

theorem Shaped.push (h : d.Shaped inside shapes) {shape c : Char} (hs : Braces.StandsFor shape c)
    (htext : IsText inside [shape]) (m : Marker) : (d.push m c).Shaped inside (shapes ++ [shape]) := by
  obtain ⟨u, v, rfl, hparts, hv, hstands⟩ := h
  refine ⟨u, v ++ [shape], List.append_assoc .., hparts, ?_, ?_⟩
  · intro x hx
    rcases List.mem_append.mp hx with hx | hx
    · exact hv x hx
    · exact htext x hx
  · rw [Draft.push, List.reverse_cons]
    exact List.rel_append hstands (.cons hs .nil)

theorem Shaped.flush (h : d.Shaped inside shapes) (m : Marker) :
    PartsShaped inside (d.flush m).reverse shapes := by
  obtain ⟨u, v, rfl, hparts, hv, hstands⟩ := h
  unfold Draft.flush
  split
  · rename_i hempty
    rw [List.isEmpty_iff.mp hempty] at hstands
    cases hstands
    rwa [List.append_nil]
  · rw [List.reverse_cons]
    apply partsShaped_append.mpr
    refine ⟨u, v, rfl, hparts, v, [], (List.append_nil v).symm, ⟨hv, ?_⟩, rfl⟩
    rwa [String.toList_ofList]

theorem Shaped.finish (h : d.Shaped inside shapes) (m : Marker) :
    (d.finish m).Shaped inside shapes := h.flush m

theorem Shaped.suspend (h : d.Shaped inside shapes) (m : Marker) :
    Shaped inside { d with parts := d.flush m, text := [] } shapes :=
  ⟨shapes, [], (List.append_nil shapes).symm, h.flush m, by simp [IsText], .nil⟩

theorem Shaped.addCall (h : d.Shaped inside shapes) (ht : d.text = []) {p : Part} {u : List Char}
    (hp : p.Shaped inside u) : Shaped inside { d with parts := p :: d.parts } (shapes ++ u) := by
  obtain ⟨x, y, rfl, hparts, hy, hstands⟩ := h
  rw [ht] at hstands
  cases hstands
  refine ⟨x ++ u, [], by simp, ?_, by simp [IsText], by simp [ht]⟩
  rw [List.reverse_cons]
  exact partsShaped_append.mpr ⟨x, u, rfl, hparts, u, [], (List.append_nil u).symm, hp, rfl⟩

end Draft

/-- Open calls, innermost first, are read from these shapes, up to the innermost draft. -/
def CallsShaped : List OpenCall → List Char → Prop
  | [], shapes => shapes = []
  | c :: stack, shapes =>
    ∃ u v w, shapes = u ++ v ++ w ∧ CallsShaped stack u ∧ c.outer.Shaped (!stack.isEmpty) v ∧
      c.outer.text = [] ∧ LeadShaped c.done w

namespace Reader

def Shaped (r : Reader) (shapes : List Char) : Prop :=
  ∃ u v, shapes = u ++ v ∧ CallsShaped r.stack u ∧ r.draft.Shaped (!r.stack.isEmpty) v

theorem shaped_start : Reader.start.Shaped [] := ⟨[], [], rfl, rfl, Draft.shaped_start _ _⟩

theorem shaped_closeCall (inside : Bool) {c : OpenCall} {last : Statement} {u v : List Char}
    (hdone : LeadShaped c.done u) (hlast : last.Shaped true v) (stop : Marker) :
    (closeCall c last stop).Shaped inside (u ++ v ++ [Braces.closing]) := by
  obtain ⟨name, args, x, y, hrev, hshapes, hname, hargs⟩ := hdone.reverse hlast
  rw [closeCall, hrev, hshapes]
  exact ⟨x, y, rfl, hname, hargs⟩

theorem Shaped.step {r : Reader} {shapes : List Char} (h : r.Shaped shapes) {shape c : Char}
    (hs : Braces.StandsFor shape c) (hopen : shape = Braces.closing → r.stack ≠ []) :
    (r.step shape c).Shaped (shapes ++ [shape]) := by
  obtain ⟨u, v, rfl, hcalls, hdraft⟩ := h
  have hstep := r.step_spec shape c
  generalize r.step shape c = r' at hstep ⊢
  cases hstep with
  | text _ ho hc =>
    have htext : IsText (!r.stack.isEmpty) [shape] := by
      intro x hx
      rw [List.mem_singleton.mp hx]
      refine ⟨ho, fun hclosing ↦ (hc (hopen hclosing)).1 hclosing, fun hinside ↦ ?_⟩
      exact (hc (by simpa using hinside)).2
    exact ⟨u, v ++ [shape], List.append_assoc .., hcalls, hdraft.push hs htext r.place⟩
  | opened place draft stack ho =>
    subst ho
    refine ⟨u ++ v ++ [Braces.opening], [], (List.append_nil _).symm, ?_, Draft.shaped_start _ _⟩
    exact ⟨u, v, [Braces.opening], rfl, hcalls, hdraft.suspend place, rfl, rfl⟩
  | closed place draft call stack hc =>
    subst hc
    obtain ⟨x, y, z, rfl, hstack, houter, htext, hdone⟩ := hcalls
    have hpart := shaped_closeCall (!stack.isEmpty) hdone (hdraft.finish place) (place.step c)
    exact ⟨x, y ++ (z ++ v ++ [Braces.closing]), by simp, hstack, houter.addCall htext hpart⟩
  | separated place draft call stack hc =>
    subst hc
    obtain ⟨x, y, z, rfl, hstack, houter, htext, hdone⟩ := hcalls
    refine ⟨x ++ y ++ (z ++ v ++ [';']), [], by simp, ?_, Draft.shaped_start _ _⟩
    exact ⟨x, y, z ++ v ++ [';'], rfl, hstack, houter, htext, z, v, rfl, hdone, hdraft.finish place⟩

theorem Shaped.run {shapes text : List Char} (hs : List.Forall₂ Braces.StandsFor shapes text)
    {r : Reader} {before : List Char} (h : r.Shaped before)
    (hb : Braces.Balanced r.stack.length shapes) : (r.run shapes text).Shaped (before ++ shapes) := by
  induction hs generalizing r before with
  | nil => simpa [Reader.run] using h
  | @cons shape c shapes text hc hs ih =>
    obtain ⟨hnext, hopen⟩ := balanced_step hb c
    have hrun := ih (h.step hc hopen) hnext
    rw [List.append_assoc, List.singleton_append] at hrun
    exact hrun

end Reader

theorem shaped_parse (source : String) : (parse source).Shaped false (Braces.mask source.toList) := by
  have hs := Braces.mask_standsFor source.toList
  have hbalanced := Braces.mask_balanced source.toList
  have hstack : (Reader.start.run (Braces.mask source.toList) source.toList).stack = [] :=
    Reader.run_balanced hs hbalanced
  obtain ⟨u, v, hshapes, hcalls, hdraft⟩ := Reader.shaped_start.run hs hbalanced
  rw [hstack] at hcalls hdraft
  obtain rfl : u = [] := hcalls
  rw [List.nil_append] at hshapes
  rw [hshapes]
  exact hdraft.finish _

end BraceScript
