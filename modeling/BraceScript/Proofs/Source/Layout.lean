import BraceScript.Proofs.Source.Reading

namespace BraceScript

/-- `text` is what stands in `source` between the two ends of the span. -/
def Span.Covers (span : Span) (source text : String) : Prop :=
  ∃ before after, source = before ++ text ++ after ∧
    span.start.index = before.utf8ByteSize ∧
    span.stop.index = before.utf8ByteSize + text.utf8ByteSize

def Tile : Nat → Nat → List Span → Prop
  | i, j, [] => i = j
  | i, j, span :: spans => span.start.index = i ∧ Tile span.stop.index j spans

/-- Between the pieces of a call stand its braces and separators, and nothing else. -/
structure CallLaidOut (source : String) (span : Span) (name : Statement) (args : List Statement) :
    Prop where
  opened : Span.Covers ⟨span.start, name.span.start⟩ source "\x7b"
  separated : (name :: args).IsChain fun a b ↦ Span.Covers ⟨a.span.stop, b.span.start⟩ source ";"
  closed : Span.Covers ⟨((name :: args).getLast (by simp)).span.stop, span.stop⟩ source "\x7d"

/-- A statement and its parts lie in the source where their spans say. -/
structure Statement.LaidOut (source : String) (s : Statement) : Prop where
  covers : s.span.Covers source s.print
  parts_cover : ∀ p ∈ s.parts, p.span.Covers source p.print
  tiled : Tile s.span.start.index s.span.stop.index (s.parts.map Part.span)
  calls : ∀ name args span, .call name args span ∈ s.parts → CallLaidOut source span name args
  texts : ∀ text span, .literal text span ∈ s.parts → text ≠ ""
  alternates : Alternates s.parts

def Marker.Heads (m : Marker) (source text : String) : Prop :=
  ∃ before after, source = before ++ text ++ after ∧ m = Marker.start.after before

namespace Marker.Heads

variable {m : Marker} {source text : String}

theorem covers (h : m.Heads source text) : Span.Covers ⟨m, m.after text⟩ source text := by
  obtain ⟨before, after, hsource, rfl⟩ := h
  exact ⟨before, after, hsource, by simp [Marker.start], by simp [Marker.start]⟩

theorem inner {x y : String} (h : m.Heads source (x ++ text ++ y)) :
    (m.after x).Heads source text := by
  obtain ⟨before, after, hsource, rfl⟩ := h
  refine ⟨before ++ x, y ++ after, ?_, (Marker.after_append ..).symm⟩
  rw [hsource]
  simp only [String.append_assoc]

theorem left {x : String} (h : m.Heads source (text ++ x)) : m.Heads source text := by
  simpa using inner (x := "") (y := x) (by simpa using h)

theorem right {x : String} (h : m.Heads source (x ++ text)) : (m.after x).Heads source text :=
  inner (y := "") (by simpa using h)

end Marker.Heads

theorem PartsStandAt.tile {m : Marker} {ps : List Part} (h : PartsStandAt m ps) :
    Tile m.index (m.after (printParts ps)).index (ps.map Part.span) := by
  induction ps generalizing m with
  | nil => simp [Tile, printParts]
  | cons p ps ih =>
    simp only [PartsStandAt] at h
    rw [List.map_cons, Tile, h.1.span_eq, printParts, Marker.after_append]
    exact ⟨rfl, ih h.2⟩

/-- Arguments that follow a statement are separated from it and from each other, and the last of
all ends where their text ends. -/
theorem ArgsStandAt.separated {source : String} {m : Marker} {args : List Statement}
    (h : ArgsStandAt m args) (hm : m.Heads source (printArgs args)) {s : Statement}
    (hs : s.span.stop = m) :
    (s :: args).IsChain (fun a b ↦ Span.Covers ⟨a.span.stop, b.span.start⟩ source ";") ∧
      ((s :: args).getLast (by simp)).span.stop = m.after (printArgs args) := by
  induction args generalizing m s with
  | nil => exact ⟨.singleton _, by simp [hs, printArgs]⟩
  | cons a args ih =>
    simp only [ArgsStandAt] at h
    have hspan := h.1.span_eq
    have hstop : a.span.stop = m.after (";" ++ a.print) := by
      rw [hspan, Marker.after_append]
    rw [printArgs] at hm ⊢
    obtain ⟨hchain, hlast⟩ := ih h.2 hm.right hstop
    refine ⟨.cons_cons ?_ hchain, ?_⟩
    · rw [hs, hspan]
      exact hm.left.left.covers
    · rw [List.getLast_cons (by simp), hlast, Marker.after_append m (";" ++ a.print)]

theorem Part.StandsAt.callLaidOut {source : String} {m : Marker} {name : Statement}
    {args : List Statement} {span : Span} (h : (Part.call name args span).StandsAt m)
    (hm : m.Heads source (Part.call name args span).print) : CallLaidOut source span name args := by
  simp only [Part.StandsAt] at h
  obtain ⟨rfl, hname, hargs⟩ := h
  rw [Part.print] at hm
  have hspan := hname.span_eq
  have hstop : name.span.stop = m.after ("\x7b" ++ name.print) := by
    rw [hspan, Marker.after_append]
  obtain ⟨hchain, hlast⟩ := hargs.separated hm.left.right hstop
  refine ⟨?_, hchain, ?_⟩
  · rw [hspan]
    exact hm.left.left.left.covers
  · rw [hlast, ← Marker.after_append]
    exact hm.right.covers

theorem Statement.StandsAt.laidOut {source : String} {m : Marker} {s : Statement}
    (h : s.StandsAt m) (hm : m.Heads source s.print) (ht : s.Tidy) : s.LaidOut source where
  covers := h.span_eq ▸ hm.covers
  parts_cover := by
    intro p hp
    obtain ⟨u, v, huv, hstands⟩ := h.parts.of_mem hp
    rw [s.print_eq, huv] at hm
    exact hstands.span_eq ▸ hm.inner.covers
  tiled := by
    rw [h.span_eq, s.print_eq]
    exact h.parts.tile
  calls := by
    intro name args span hp
    obtain ⟨u, v, huv, hstands⟩ := h.parts.of_mem hp
    rw [s.print_eq, huv] at hm
    exact hstands.callLaidOut hm.inner
  texts := (ht s .self).1
  alternates := (ht s .self).2

/-- The document covers the whole source and prints it, and every statement in it is laid out. -/
theorem parse_laidOut (source : String) :
    (parse source).span.start.index = 0 ∧
      (parse source).span.stop.index = source.utf8ByteSize ∧
      (parse source).print = source ∧
      ∀ s : Statement, s.OccursIn (parse source) → s.LaidOut source := by
  obtain ⟨hstands, hprint, htidy⟩ := parse_spec source
  have hspan := hstands.span_eq
  rw [hprint] at hspan
  refine ⟨by simp [hspan, Marker.start], by simp [hspan, Marker.start], hprint, ?_⟩
  intro s hs
  obtain ⟨before, after, htext, hplaced⟩ := hs.standsAt hstands
  rw [hprint] at htext
  exact hplaced.laidOut ⟨before, after, htext, rfl⟩ (htidy.of_occursIn hs)

end BraceScript
