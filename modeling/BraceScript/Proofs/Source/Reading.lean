import BraceScript.Proofs.Source.Masking
import BraceScript.Proofs.Source.Placement
import BraceScript.Source.Parse
import Mathlib.Data.List.Chain

namespace BraceScript

def Alternates (parts : List Part) : Prop := parts.IsChain fun p q ↦ p.isCall ∨ q.isCall

def Statement.Tidy (t : Statement) : Prop :=
  ∀ s : Statement, s.OccursIn t →
    (∀ text span, .literal text span ∈ s.parts → text ≠ "") ∧ Alternates s.parts

def Part.Tidy : Part → Prop
  | .literal text _ => text ≠ ""
  | .call name args _ => name.Tidy ∧ ∀ a ∈ args, a.Tidy

theorem Statement.tidy_mk {parts : List Part} {span : Span} (hp : ∀ p ∈ parts, p.Tidy)
    (ha : Alternates parts) : (Statement.mk parts span).Tidy := by
  intro s hs
  cases hs with
  | self => exact ⟨fun text span hmem ↦ hp _ hmem, ha⟩
  | name hmem h => exact (hp _ hmem).1 s h
  | arg hmem hmem' h => exact (hp _ hmem).2 _ hmem' s h

theorem Statement.Tidy.of_occursIn {s t : Statement} (ht : t.Tidy) (h : s.OccursIn t) : s.Tidy :=
  fun _ hr ↦ ht _ (hr.trans h)

theorem Statement.Tidy.parts {t : Statement} (h : t.Tidy) : ∀ p ∈ t.parts, p.Tidy := by
  obtain ⟨parts, span⟩ := t
  intro p hp
  cases p with
  | literal text place => exact (h _ .self).1 text place hp
  | call name args place =>
    refine ⟨h.of_occursIn (.name hp .self), ?_⟩
    intro a ha
    exact h.of_occursIn (.arg hp ha .self)

namespace Draft

def print (d : Draft) : String := printParts d.parts.reverse ++ String.ofList d.text.reverse

structure Sound (d : Draft) : Prop where
  placed : PartsStandAt d.start d.parts.reverse
  tidy : ∀ p ∈ d.parts, p.Tidy
  alternates : Alternates d.parts
  textStart : d.text ≠ [] → d.textStart = d.start.after (printParts d.parts.reverse)

structure Active (d : Draft) : Prop extends d.Sound where
  last : ∀ p ∈ d.parts.head?, p.isCall

theorem active_start (m : Marker) : Active { start := m } where
  placed := by simp [PartsStandAt]
  tidy := by simp
  alternates := .nil
  textStart h := absurd rfl h
  last := by simp

theorem Active.push {d : Draft} (h : d.Active) {m : Marker} (hm : m = d.start.after d.print)
    (c : Char) : (d.push m c).Active where
  placed := h.placed
  tidy := h.tidy
  alternates := h.alternates
  textStart _ := by
    by_cases ht : d.text = []
    · simp [Draft.push, ht, hm, print]
    · simpa [Draft.push, ht] using h.textStart ht
  last := h.last

theorem print_push (d : Draft) (m : Marker) (c : Char) :
    (d.push m c).print = d.print ++ String.singleton c := by
  simp only [print, Draft.push, List.reverse_cons, String.ofList_append, String.append_assoc,
    String.singleton_eq_ofList]

theorem print_flush (d : Draft) (m : Marker) : printParts (d.flush m).reverse = d.print := by
  unfold flush
  split
  case isTrue h => simp [print, List.isEmpty_iff.mp h]
  case isFalse h => simp [print, printParts, Part.print]

theorem Active.flush {d : Draft} (h : d.Active) {m : Marker} (hm : m = d.start.after d.print) :
    PartsStandAt d.start (d.flush m).reverse ∧ (∀ p ∈ d.flush m, p.Tidy) ∧
      Alternates (d.flush m) := by
  unfold Draft.flush
  split
  case isTrue => exact ⟨h.placed, h.tidy, h.alternates⟩
  case isFalse ht =>
    have ht : d.text ≠ [] := by simpa using ht
    refine ⟨?_, ?_, ?_⟩
    · rw [List.reverse_cons, partsStandAt_append]
      refine ⟨h.placed, ?_, trivial⟩
      rw [Part.StandsAt, h.textStart ht, hm, print, Marker.after_append]
    · intro p hp
      rcases List.mem_cons.mp hp with rfl | hp
      · simpa [Part.Tidy] using ht
      · exact h.tidy p hp
    · exact h.alternates.cons fun p hp ↦ Or.inr (h.last p hp)

theorem Active.finish {d : Draft} (h : d.Active) {m : Marker} (hm : m = d.start.after d.print) :
    (d.finish m).StandsAt d.start ∧ (d.finish m).Tidy := by
  obtain ⟨hplaced, htidy, halt⟩ := h.flush hm
  refine ⟨?_, Statement.tidy_mk (fun p hp ↦ htidy p (List.mem_reverse.mp hp)) ?_⟩
  · rw [Draft.finish, Statement.StandsAt, print_flush, ← hm]
    exact ⟨rfl, hplaced⟩
  · rw [Alternates, List.isChain_reverse]
    exact halt.imp fun _ _ ↦ Or.symm

theorem Active.suspend {d : Draft} (h : d.Active) {m : Marker} (hm : m = d.start.after d.print) :
    Sound { d with parts := d.flush m, text := [] } := by
  obtain ⟨hplaced, htidy, halt⟩ := h.flush hm
  exact ⟨hplaced, htidy, halt, fun ht ↦ absurd rfl ht⟩

theorem print_suspend (d : Draft) (m : Marker) :
    print { d with parts := d.flush m, text := [] } = d.print := by
  rw [← print_flush d m]
  simp [print]

theorem Sound.addCall {d : Draft} (h : d.Sound) (ht : d.text = []) {p : Part}
    (hp : p.StandsAt (d.start.after d.print)) (hc : p.isCall) (htidy : p.Tidy) :
    Active { d with parts := p :: d.parts } where
  placed := by
    rw [List.reverse_cons, partsStandAt_append]
    refine ⟨h.placed, ?_, trivial⟩
    simpa [print, ht] using hp
  tidy := List.forall_mem_cons.mpr ⟨htidy, h.tidy⟩
  alternates := h.alternates.cons fun _ _ ↦ Or.inl hc
  textStart := fun h ↦ absurd ht h
  last := by simpa using hc

theorem print_addCall {d : Draft} (ht : d.text = []) (p : Part) :
    print { d with parts := p :: d.parts } = d.print ++ p.print := by
  simp [print, ht, printParts]

theorem print_finish (d : Draft) (m : Marker) : (d.finish m).print = d.print := by
  rw [finish, Statement.print, print_flush]

end Draft

/-- The text of a call with these finished statements, latest first, up to the next one. -/
def leadOf : List Statement → String
  | [] => "\x7b"
  | s :: done => leadOf done ++ s.print ++ ";"

/-- The finished statements, latest first, of a call at the marker are in their places. -/
def DoneStandAt (m : Marker) : List Statement → Prop
  | [] => True
  | s :: done => s.StandsAt (m.after (leadOf done)) ∧ DoneStandAt m done

theorem DoneStandAt.reverse {m : Marker} {done : List Statement} (h : DoneStandAt m done)
    {last : Statement} (hl : last.StandsAt (m.after (leadOf done))) :
    ∃ name args, (last :: done).reverse = name :: args ∧
      leadOf done ++ last.print = "\x7b" ++ name.print ++ printArgs args ∧
      name.StandsAt (m.after "\x7b") ∧ ArgsStandAt (m.after ("\x7b" ++ name.print)) args := by
  induction done generalizing last with
  | nil => exact ⟨last, [], rfl, by simp [leadOf, printArgs], hl, trivial⟩
  | cons s done ih =>
    obtain ⟨name, args, hrev, hprint, hname, hargs⟩ := ih h.2 h.1
    refine ⟨name, args ++ [last], ?_, ?_, hname, ?_⟩
    · rw [List.reverse_cons, hrev, List.cons_append]
    · rw [leadOf, hprint]
      simp [printArgs, String.append_assoc]
    · rw [argsStandAt_append, ← Marker.after_append, ← hprint]
      refine ⟨hargs, ?_, trivial⟩
      rwa [leadOf, Marker.after_append] at hl

/-- An open call is in its place: its finished statements are, and so is the draft around it. -/
structure OpenCall.Sound (c : OpenCall) : Prop where
  done : DoneStandAt c.start c.done
  tidy : ∀ s ∈ c.done, s.Tidy
  outer : c.outer.Sound
  text : c.outer.text = []
  start : c.start = c.outer.start.after c.outer.print

/-- Open calls, innermost first, each in its place, when the innermost draft starts at the
marker. -/
def CallsStandAt : Marker → List OpenCall → Prop
  | m, [] => m = Marker.start
  | m, c :: stack => m = c.start.after (leadOf c.done) ∧ c.Sound ∧ CallsStandAt c.outer.start stack

def printCalls : List OpenCall → String
  | [] => ""
  | c :: stack => printCalls stack ++ c.outer.print ++ leadOf c.done

namespace Reader

theorem isCall_closeCall (c : OpenCall) (last : Statement) (stop : Marker) :
    (closeCall c last stop).isCall := by
  unfold closeCall
  split <;> rfl

theorem closeCall_spec {c : OpenCall} (hc : c.Sound) {last : Statement}
    (hl : last.StandsAt (c.start.after (leadOf c.done))) (ht : last.Tidy) {stop : Marker}
    (hstop : stop = last.span.stop.after "\x7d") :
    (closeCall c last stop).print = leadOf c.done ++ last.print ++ "\x7d" ∧
      (closeCall c last stop).StandsAt c.start ∧ (closeCall c last stop).Tidy := by
  obtain ⟨name, args, hrev, hprint, hname, hargs⟩ := hc.done.reverse hl
  have htidy : ∀ s ∈ name :: args, s.Tidy := by
    intro s hs
    rw [← hrev, List.mem_reverse] at hs
    rcases List.mem_cons.mp hs with rfl | hs
    · exact ht
    · exact hc.tidy s hs
  rw [closeCall, hrev]
  refine ⟨?_, ?_, htidy name (by simp), fun a ha ↦ htidy a (by simp [ha])⟩
  · rw [Part.print, hprint]
  · refine ⟨?_, hname, hargs⟩
    rw [hstop, hl.span_eq, ← hprint, Marker.after_append _ (leadOf c.done)]

inductive Step (shape c : Char) : Reader → Reader → Prop
  | text (r : Reader) : shape ≠ Braces.opening →
      (r.stack ≠ [] → shape ≠ Braces.closing ∧ shape ≠ ';') →
      Step shape c r { r with place := r.place.step c, draft := r.draft.push r.place c }
  | opened (place : Marker) (draft : Draft) (stack : List OpenCall) : shape = Braces.opening →
      Step shape c ⟨place, draft, stack⟩
        ⟨place.step c, { start := place.step c },
          { start := place, outer := { draft with parts := draft.flush place, text := [] } } :: stack⟩
  | closed (place : Marker) (draft : Draft) (call : OpenCall) (stack : List OpenCall) :
      shape = Braces.closing →
      Step shape c ⟨place, draft, call :: stack⟩
        ⟨place.step c, { call.outer with
          parts := closeCall call (draft.finish place) (place.step c) :: call.outer.parts }, stack⟩
  | separated (place : Marker) (draft : Draft) (call : OpenCall) (stack : List OpenCall) :
      shape = ';' →
      Step shape c ⟨place, draft, call :: stack⟩
        ⟨place.step c, { start := place.step c },
          { call with done := draft.finish place :: call.done } :: stack⟩

theorem step_spec (r : Reader) (shape c : Char) : Step shape c r (r.step shape c) := by
  obtain ⟨place, draft, stack⟩ := r
  unfold step
  by_cases ho : shape = Braces.opening
  · simp only [ho, ↓reduceIte]
    exact .opened place draft stack rfl
  by_cases hc : shape = Braces.closing
  · subst hc
    simp only [Braces.closing_ne_opening, ↓reduceIte]
    cases stack with
    | nil => exact .text _ Braces.closing_ne_opening (fun h ↦ absurd rfl h)
    | cons call stack => exact .closed place draft call stack rfl
  by_cases hs : shape = ';'
  · subst hs
    simp only [ho, hc, ↓reduceIte]
    cases stack with
    | nil => exact .text _ ho (fun h ↦ absurd rfl h)
    | cons call stack => exact .separated place draft call stack rfl
  · simp only [ho, hc, hs, ↓reduceIte]
    exact .text _ ho fun _ ↦ ⟨hc, hs⟩

def print (r : Reader) : String := printCalls r.stack ++ r.draft.print

structure Sound (r : Reader) : Prop where
  draft : r.draft.Active
  place : r.place = r.draft.start.after r.draft.print
  stack : CallsStandAt r.draft.start r.stack

theorem sound_start : Reader.start.Sound :=
  ⟨Draft.active_start _, by simp [Reader.start, Draft.print, printParts], rfl⟩

section

variable {place : Marker} {draft : Draft} {call : OpenCall} {stack : List OpenCall}

theorem Sound.opened (h : Sound ⟨place, draft, stack⟩) :
    let next := place.step Braces.opening
    let r : Reader := ⟨next, { start := next },
      { start := place, outer := { draft with parts := draft.flush place, text := [] } } :: stack⟩
    r.Sound ∧ r.print = printCalls stack ++ draft.print ++ "\x7b" := by
  obtain ⟨hdraft, hplace, hstack⟩ := h
  have hnext : place.step Braces.opening = place.after "\x7b" :=
    (place.after_singleton Braces.opening).symm
  have hprint := draft.print_suspend place
  refine ⟨⟨Draft.active_start _, by simp [Draft.print, printParts], hnext, ?_, hstack⟩, ?_⟩
  · refine ⟨trivial, by simp, hdraft.suspend hplace, rfl, ?_⟩
    rw [hprint]
    exact hplace
  · simp only [Reader.print, printCalls, hprint, leadOf]
    simp [Draft.print, printParts]

theorem Sound.closed (h : Sound ⟨place, draft, call :: stack⟩) :
    let next := place.step Braces.closing
    let r : Reader := ⟨next, { call.outer with
      parts := closeCall call (draft.finish place) next :: call.outer.parts }, stack⟩
    r.Sound ∧ r.print = printCalls (call :: stack) ++ draft.print ++ "\x7d" := by
  obtain ⟨hdraft, hplace, hstart, hcall, hrest⟩ := h
  dsimp only at hdraft hplace hstart hcall hrest ⊢
  obtain ⟨hlast, htidy⟩ := hdraft.finish hplace
  have hstop : place.step Braces.closing = (draft.finish place).span.stop.after "\x7d" := by
    rw [hlast.span_eq, draft.print_finish, ← hplace]
    exact (place.after_singleton Braces.closing).symm
  rw [hstart] at hlast
  obtain ⟨hprint, hstands, hpart⟩ := closeCall_spec hcall hlast htidy hstop
  rw [draft.print_finish] at hprint
  generalize hp : closeCall call (draft.finish place) (place.step Braces.closing) = part at *
  have hcalls : part.isCall := hp ▸ isCall_closeCall ..
  have hadd := Draft.print_addCall hcall.text part
  refine ⟨⟨hcall.outer.addCall hcall.text ?_ hcalls hpart, ?_, hrest⟩, ?_⟩
  · rwa [← hcall.start]
  · rw [hadd, hprint]
    simp only [Marker.after_append, ← hcall.start, ← hstart, ← hplace]
    exact (place.after_singleton Braces.closing).symm
  · simp only [Reader.print, printCalls, hadd, hprint, String.append_assoc]

theorem Sound.separated (h : Sound ⟨place, draft, call :: stack⟩) :
    let next := place.step ';'
    let r : Reader := ⟨next, { start := next },
      { call with done := draft.finish place :: call.done } :: stack⟩
    r.Sound ∧ r.print = printCalls (call :: stack) ++ draft.print ++ ";" := by
  obtain ⟨hdraft, hplace, hstart, hcall, hrest⟩ := h
  dsimp only at hdraft hplace hstart hcall hrest ⊢
  have hnext : place.step ';' = place.after ";" := (place.after_singleton ';').symm
  obtain ⟨hlast, htidy⟩ := hdraft.finish hplace
  rw [hstart] at hlast hplace
  refine ⟨⟨Draft.active_start _, by simp [Draft.print, printParts], ?_, ?_, hrest⟩, ?_⟩
  · simp only [leadOf, draft.print_finish, Marker.after_append, ← hplace, hnext]
  · exact ⟨⟨hlast, hcall.done⟩, List.forall_mem_cons.mpr ⟨htidy, hcall.tidy⟩, hcall.outer,
      hcall.text, hcall.start⟩
  · simp only [Reader.print, printCalls, leadOf, draft.print_finish, String.append_assoc]
    simp [Draft.print, printParts]

end

theorem Sound.step {r : Reader} (h : r.Sound) {shape c : Char} (hs : Braces.StandsFor shape c) :
    (r.step shape c).Sound ∧ (r.step shape c).print = r.print ++ String.singleton c := by
  have hstep := r.step_spec shape c
  generalize r.step shape c = r' at hstep ⊢
  cases hstep with
  | text =>
    refine ⟨⟨h.draft.push h.place c, ?_, h.stack⟩, ?_⟩
    · change r.place.step c = r.draft.start.after (r.draft.push r.place c).print
      rw [Draft.print_push, Marker.after_append, Marker.after_singleton, h.place]
    · simp only [Reader.print, Draft.print_push, String.append_assoc]
  | opened place draft stack ho =>
    obtain rfl : shape = c := hs.eq (by rw [ho]; decide)
    subst ho
    exact h.opened
  | closed place draft call stack hc =>
    obtain rfl : shape = c := hs.eq (by rw [hc]; decide)
    subst hc
    exact h.closed
  | separated place draft call stack hc =>
    obtain rfl : shape = c := hs.eq (by rw [hc]; decide)
    subst hc
    exact h.separated

theorem Sound.run {r : Reader} (h : r.Sound) {shapes text : List Char}
    (hs : List.Forall₂ Braces.StandsFor shapes text) :
    (r.run shapes text).Sound ∧ (r.run shapes text).print = r.print ++ String.ofList text := by
  induction hs generalizing r with
  | nil => exact ⟨h, by simp [Reader.run]⟩
  | cons hc hs ih =>
    obtain ⟨hsound, hprint⟩ := h.step hc
    obtain ⟨hrun, hall⟩ := ih hsound
    refine ⟨hrun, ?_⟩
    rw [Reader.run, hall, hprint, String.ofList_cons, String.append_assoc]

theorem length_stack_step (r : Reader) (shape c : Char) :
    (r.step shape c).stack.length =
      if shape = Braces.opening then r.stack.length + 1
      else if shape = Braces.closing then r.stack.length - 1
      else r.stack.length := by
  have hstep := r.step_spec shape c
  generalize r.step shape c = r' at hstep ⊢
  cases hstep with
  | text _ ho hc =>
    by_cases hs : r.stack = []
    · simp [ho, hs]
    · simp [ho, hc hs]
  | opened _ _ _ ho => simp [ho]
  | closed _ _ _ _ hc => simp [hc, Braces.closing_ne_opening]
  | separated _ _ _ _ hc =>
    subst hc
    rfl

/-- A text that closes the open calls still does so after its first character, which closes none
unless one is open. -/
theorem balanced_step {r : Reader} {shape : Char} {shapes : List Char}
    (h : Braces.Balanced r.stack.length (shape :: shapes)) (c : Char) :
    Braces.Balanced (r.step shape c).stack.length shapes ∧
      (shape = Braces.closing → r.stack ≠ []) := by
  rw [length_stack_step]
  unfold Braces.Balanced at h
  split at h
  case isTrue ho =>
    refine ⟨by simpa only [ho, ↓reduceIte] using h, ?_⟩
    intro hc
    exact absurd (hc.symm.trans ho) Braces.closing_ne_opening
  case isFalse ho =>
    split at h
    case isTrue hc =>
      obtain ⟨k, hk, h⟩ := h
      refine ⟨?_, ?_⟩
      · simpa only [ho, hc, hk, ↓reduceIte, Nat.add_sub_cancel, Braces.closing_ne_opening] using h
      · rintro - hnil
        rw [hnil] at hk
        cases hk
    case isFalse hc => exact ⟨by simpa only [ho, hc, ↓reduceIte] using h, fun h ↦ absurd h hc⟩

theorem run_balanced {shapes text : List Char} (hs : List.Forall₂ Braces.StandsFor shapes text)
    {r : Reader} (hb : Braces.Balanced r.stack.length shapes) : (r.run shapes text).stack = [] := by
  induction hs generalizing r with
  | nil => exact List.length_eq_zero_iff.mp hb
  | @cons shape c shapes text _ hs ih =>
    rw [Reader.run]
    exact ih (balanced_step hb c).1

end Reader

theorem parse_spec (source : String) :
    (parse source).StandsAt Marker.start ∧ (parse source).print = source ∧ (parse source).Tidy := by
  have hs := Braces.mask_standsFor source.toList
  obtain ⟨hsound, hprint⟩ := Reader.sound_start.run hs
  have hstack : (Reader.start.run (Braces.mask source.toList) source.toList).stack = [] :=
    Reader.run_balanced hs (Braces.mask_balanced source.toList)
  rw [parse]
  generalize Reader.start.run (Braces.mask source.toList) source.toList = r at *
  obtain ⟨hdraft, hplace, hstart⟩ := hsound
  rw [hstack] at hstart
  obtain ⟨hstands, htidy⟩ := hdraft.finish hplace
  refine ⟨hstart ▸ hstands, ?_, htidy⟩
  rw [Draft.print_finish]
  simpa [Reader.print, hstack, printCalls, Reader.start, Draft.print, printParts] using hprint

end BraceScript
