import BraceScript.Proofs.Source.Shapes
import BraceScript.Source.Grammar

namespace BraceScript

namespace Grammar

theorem Yields.unique {e : Expr} {i : Nat} {text : List Char} {o o' : Outcome} (h : Yields e i text o)
    (h' : Yields e i text o') : o = o' := by
  induction h generalizing o' with
  | start text =>
    cases h' with
    | start => rfl
    | notStart _ hne => exact absurd rfl hne
  | notStart text hne =>
    cases h' with
    | start => exact absurd rfl hne
    | notStart => rfl
  | stop i | notStop i c text | any i c text | noMore i => cases h'; rfl
  | char i c text =>
    cases h' with
    | char => rfl
    | otherChar _ hne => exact absurd rfl hne
  | otherChar i hne =>
    cases h' with
    | char => exact absurd rfl hne
    | otherChar => rfl
  | seq _ _ iha ihb =>
    cases h' with
    | seq ha hb =>
      cases iha ha
      cases ihb hb
      rfl
    | seqFailed ha => cases iha ha
    | seqFailedLater ha hb =>
      cases iha ha
      cases ihb hb
  | seqFailed _ ih =>
    cases h' with
    | seq ha _ => cases ih ha
    | seqFailed => rfl
    | seqFailedLater => rfl
  | seqFailedLater _ _ iha ihb =>
    cases h' with
    | seq ha hb =>
      cases iha ha
      cases ihb hb
    | seqFailed => rfl
    | seqFailedLater => rfl
  | choice _ ih =>
    cases h' with
    | choice ha => exact ih ha
    | otherwise ha _ => cases ih ha
  | otherwise _ _ iha ihb =>
    cases h' with
    | choice ha => cases iha ha
    | otherwise _ hb => exact ihb hb
  | starDone _ ih =>
    cases h' with
    | starDone => rfl
    | starMore ha _ => cases ih ha
  | starMore _ _ iha ihb =>
    cases h' with
    | starDone ha => cases iha ha
    | starMore ha hb =>
      cases iha ha
      cases ihb hb
      rfl
  | avoid _ ih =>
    cases h' with
    | avoid => rfl
    | notAvoided ha => cases ih ha
  | notAvoided _ ih =>
    cases h' with
    | avoid ha => cases ih ha
    | notAvoided => rfl
  | rule _ ih =>
    cases h' with
    | rule ha =>
      cases ih ha
      rfl
    | ruleFailed ha => cases ih ha
  | ruleFailed _ ih =>
    cases h' with
    | rule ha => cases ih ha
    | ruleFailed => rfl

section Text

def stops (inside : Bool) : Expr := if inside then .choice brace (.char ';') else brace

def literal (inside : Bool) : Rule := if inside then .argText else .text

theorem body_literal (inside : Bool) :
    (literal inside).body = .plus (.seq (.avoid (stops inside)) .any) := by
  cases inside <;> rfl

def Ends (inside : Bool) (rest : List Char) : Prop := ∀ c ∈ rest.head?, ¬IsText inside [c]

variable {inside : Bool} {c : Char} {rest : List Char}

theorem isText_singleton : IsText inside [c] ↔
    c ≠ Braces.opening ∧ c ≠ Braces.closing ∧ (inside = true → c ≠ ';') := by
  simp [IsText]

theorem brace_failed (i : Nat) (ho : rest.head? ≠ some Braces.opening)
    (hc : rest.head? ≠ some Braces.closing) : Yields brace i rest .failed :=
  .otherwise (.otherChar i ho) (.otherChar i hc)

theorem brace_matched (i : Nat) (hc : c = Braces.opening ∨ c = Braces.closing) (rest : List Char) :
    ∃ j, Yields brace i (c :: rest) (.matched [] j rest) := by
  by_cases ho : c = Braces.opening
  · subst ho
    exact ⟨_, .choice (.char i _ rest)⟩
  · obtain rfl := hc.resolve_left ho
    exact ⟨_, .otherwise (.otherChar i (by simpa using ho)) (.char i _ rest)⟩

theorem stops_failed (i : Nat) (h : ∀ c ∈ rest.head?, IsText inside [c]) :
    Yields (stops inside) i rest .failed := by
  have hne (d : Char) (hd : ¬IsText inside [d]) : rest.head? ≠ some d := fun hhead ↦ hd (h d hhead)
  have hbrace : Yields brace i rest .failed := by
    apply brace_failed i
    · exact hne _ (by simp [isText_singleton])
    · exact hne _ (by simp [isText_singleton])
  cases inside with
  | false => exact hbrace
  | true => exact .otherwise hbrace (.otherChar i (hne ';' (by simp [isText_singleton])))

theorem stops_matched (i : Nat) (h : ¬IsText inside [c]) (rest : List Char) :
    ∃ j, Yields (stops inside) i (c :: rest) (.matched [] j rest) := by
  by_cases hbrace : c = Braces.opening ∨ c = Braces.closing
  · obtain ⟨j, hj⟩ := brace_matched i hbrace rest
    cases inside with
    | false => exact ⟨j, hj⟩
    | true => exact ⟨j, .choice hj⟩
  · rw [not_or] at hbrace
    have hsep : inside = true ∧ c = ';' := by
      by_contra hnot
      exact h (isText_singleton.mpr ⟨hbrace.1, hbrace.2, fun hin hc ↦ hnot ⟨hin, hc⟩⟩)
    obtain ⟨rfl, rfl⟩ := hsep
    have hfailed : Yields brace i (';' :: rest) .failed :=
      brace_failed i (by simpa using hbrace.1) (by simpa using hbrace.2)
    exact ⟨_, .otherwise hfailed (.char i _ rest)⟩

theorem unit_failed (i : Nat) (h : Ends inside rest) :
    Yields (.seq (.avoid (stops inside)) .any) i rest .failed := by
  cases rest with
  | nil => exact .seqFailedLater (.avoid (stops_failed i (by simp))) (.noMore i)
  | cons c rest =>
    obtain ⟨j, hj⟩ := stops_matched i (h c rfl) rest
    exact .seqFailed (.notAvoided hj)

theorem unit_matched (i : Nat) (h : IsText inside [c]) :
    Yields (.seq (.avoid (stops inside)) .any) i (c :: rest) (.matched [] (i + c.utf8Size) rest) :=
  .seq (.avoid (stops_failed i (by simpa using h))) (.any i c rest)

theorem run_matched {u : List Char} (i : Nat) (hu : IsText inside u) (hrest : Ends inside rest) :
    Yields (.star (.seq (.avoid (stops inside)) .any)) i (u ++ rest)
      (.matched [] (i + Braces.width u) rest) := by
  induction u generalizing i with
  | nil => exact .starDone (unit_failed i hrest)
  | cons c u ih =>
    obtain ⟨hc, hu⟩ := List.forall_mem_cons.mp hu
    have hmore := ih (i + c.utf8Size) hu
    rw [Nat.add_assoc] at hmore
    exact .starMore (unit_matched i (isText_singleton.mpr hc)) hmore

theorem literal_matched {u : List Char} (i : Nat) (hne : u ≠ []) (hu : IsText inside u)
    (hrest : Ends inside rest) :
    Yields (.rule (literal inside)) i (u ++ rest)
      (.matched [.mk (literal inside) i (i + Braces.width u) []] (i + Braces.width u) rest) := by
  obtain ⟨c, u, rfl⟩ := List.exists_cons_of_ne_nil hne
  obtain ⟨hc, hu⟩ := List.forall_mem_cons.mp hu
  have hrun := run_matched (i + c.utf8Size) hu hrest
  rw [Nat.add_assoc] at hrun
  apply Yields.rule
  rw [body_literal]
  exact .seq (unit_matched i (isText_singleton.mpr hc)) hrun

theorem literal_failed (i : Nat) (h : Ends inside rest) :
    Yields (.rule (literal inside)) i rest .failed := by
  apply Yields.ruleFailed
  rw [body_literal]
  exact .seqFailed (unit_failed i h)

theorem subtag_failed (i : Nat) (h : rest.head? ≠ some Braces.opening) :
    Yields (.rule .subtag) i rest .failed :=
  .ruleFailed (.seqFailed (.otherChar i h))

end Text

section Items

def item (inside : Bool) : Expr :=
  if inside then .choice (.rule .subtag) (.rule .argText)
  else .choice (.rule .subtag) (.choice (.rule .text) (.rule .stray))

/-- A statement ends here: inside of a call before a separator or the closing brace, else with the
text. -/
def Closes (inside : Bool) (rest : List Char) : Prop :=
  if inside then ∃ c ∈ rest.head?, c = ';' ∨ c = Braces.closing else rest = []

variable {inside : Bool} {i j : Nat} {text rest : List Char} {nodes : List Node}

theorem Closes.ends (h : Closes inside rest) : Ends inside rest := by
  intro c hc htext
  rw [isText_singleton] at htext
  cases inside with
  | false =>
    obtain rfl : rest = [] := h
    cases hc
  | true =>
    obtain ⟨d, hd, hstop⟩ := h
    obtain rfl : d = c := Option.mem_unique hd hc
    rcases hstop with hsep | hclosing
    · exact htext.2.2 rfl hsep
    · exact htext.2.1 hclosing

theorem Closes.ne_opening (h : Closes inside rest) : rest.head? ≠ some Braces.opening := by
  intro hopening
  cases inside with
  | false =>
    obtain rfl : rest = [] := h
    cases hopening
  | true =>
    obtain ⟨c, hc, hstop⟩ := h
    obtain rfl : c = Braces.opening := Option.mem_unique hc hopening
    revert hstop
    decide

theorem item_subtag (h : Yields (.rule .subtag) i text (.matched nodes j rest)) :
    Yields (item inside) i text (.matched nodes j rest) := by
  cases inside with
  | false => exact .choice h
  | true => exact .choice h

theorem item_literal (hopening : text.head? ≠ some Braces.opening)
    (h : Yields (.rule (literal inside)) i text (.matched nodes j rest)) :
    Yields (item inside) i text (.matched nodes j rest) := by
  cases inside with
  | false => exact .otherwise (subtag_failed i hopening) (.choice h)
  | true => exact .otherwise (subtag_failed i hopening) h

theorem item_failed (h : Closes inside rest) (i : Nat) : Yields (item inside) i rest .failed := by
  have hsubtag := subtag_failed i h.ne_opening
  have hliteral := literal_failed i h.ends
  cases inside with
  | false =>
    obtain rfl : rest = [] := h
    exact .otherwise hsubtag (.otherwise hliteral (.ruleFailed (brace_failed i (by simp) (by simp))))
  | true => exact .otherwise hsubtag hliteral

end Items

end Grammar

open Grammar

mutual

def Statement.node : Statement → Node
  | .mk parts span => .mk .argument span.start.index span.stop.index (partNodes true parts)

def partNodes (inside : Bool) : List Part → List Node
  | [] => []
  | part :: parts => part.node inside :: partNodes inside parts

def Part.node (inside : Bool) : Part → Node
  | .literal _ span => .mk (literal inside) span.start.index span.stop.index []
  | .call name args span =>
    .mk .subtag span.start.index span.stop.index (name.node :: argNodes args)

def argNodes : List Statement → List Node
  | [] => []
  | arg :: args => arg.node :: argNodes args

end

/-- The node of a whole document, with the one for the end of the text. -/
def Statement.document (t : Statement) : Node :=
  .mk .document t.span.start.index t.span.stop.index
    (partNodes false t.parts ++ [.mk .endOfInput t.span.stop.index t.span.stop.index []])

section Width

theorem width_eq_of_standsFor {shapes text : List Char} (h : List.Forall₂ Braces.StandsFor shapes text) :
    Braces.width shapes = Braces.width text := by
  induction h with
  | nil => rfl
  | cons hc _ ih => rw [Braces.width_cons, Braces.width_cons, hc.utf8Size_eq, ih]

mutual

theorem Statement.Shaped.width {inside : Bool} : {t : Statement} → {shapes : List Char} →
    t.Shaped inside shapes → Braces.width shapes = t.print.utf8ByteSize
  | .mk parts _, shapes, h => by
    have hparts : PartsShaped inside parts shapes := h
    exact hparts.width

theorem PartsShaped.width {inside : Bool} : {parts : List Part} → {shapes : List Char} →
    PartsShaped inside parts shapes → Braces.width shapes = (printParts parts).utf8ByteSize
  | [], _, h => by
    simp only [PartsShaped] at h
    simp [h, printParts]
  | part :: parts, _, h => by
    simp only [PartsShaped] at h
    obtain ⟨u, v, rfl, hpart, hparts⟩ := h
    rw [printParts, String.utf8ByteSize_append, Braces.width_append, hpart.width, hparts.width]

theorem Part.Shaped.width {inside : Bool} : {part : Part} → {shapes : List Char} →
    part.Shaped inside shapes → Braces.width shapes = part.print.utf8ByteSize
  | .literal text _, _, h => by
    simp only [Part.Shaped] at h
    rw [Part.print, width_eq_of_standsFor h.2, Braces.width_toList]
  | .call name args _, _, h => by
    simp only [Part.Shaped] at h
    obtain ⟨u, v, rfl, hname, hargs⟩ := h
    simp only [Part.print, String.utf8ByteSize_append, Braces.width_cons, Braces.width_append,
      hname.width, hargs.width]
    have hopening : "\x7b".utf8ByteSize = Braces.opening.utf8Size := rfl
    have hclosing : "\x7d".utf8ByteSize = Braces.closing.utf8Size := rfl
    rw [Braces.width_nil, hopening, hclosing]
    omega

theorem ArgsShaped.width : {args : List Statement} → {shapes : List Char} →
    ArgsShaped args shapes → Braces.width shapes = (printArgs args).utf8ByteSize
  | [], _, h => by
    simp only [ArgsShaped] at h
    simp [h, printArgs]
  | arg :: args, _, h => by
    simp only [ArgsShaped] at h
    obtain ⟨u, v, rfl, harg, hargs⟩ := h
    have hsep : ";".utf8ByteSize = Char.utf8Size ';' := rfl
    rw [printArgs, String.utf8ByteSize_append, String.utf8ByteSize_append, Braces.width_cons,
      Braces.width_append, harg.width, hargs.width, hsep, Nat.add_assoc]

end

end Width

section Matching

/-- Before a part that is a call, or where its statement ends, no literal text goes on. -/
theorem PartsShaped.ends {inside : Bool} {parts : List Part} {shapes rest : List Char}
    (h : PartsShaped inside parts shapes) (hrest : Closes inside rest)
    (hfirst : ∀ p ∈ parts.head?, p.isCall) : Ends inside (shapes ++ rest) := by
  cases parts with
  | nil =>
    obtain rfl : shapes = [] := h
    exact hrest.ends
  | cons part parts =>
    obtain ⟨u, v, rfl, hpart, -⟩ := h
    cases part with
    | literal text span => simp [Part.isCall] at hfirst
    | call name args span =>
      obtain ⟨x, y, rfl, -⟩ := hpart
      intro c hc
      obtain rfl : Braces.opening = c := by simpa using hc
      simp [isText_singleton]

theorem ArgsShaped.closes {args : List Statement} {shapes : List Char} (h : ArgsShaped args shapes)
    (rest : List Char) : Closes true (shapes ++ Braces.closing :: rest) := by
  cases args with
  | nil =>
    obtain rfl : shapes = [] := h
    exact ⟨Braces.closing, rfl, Or.inr rfl⟩
  | cons arg args =>
    obtain ⟨u, v, rfl, -⟩ := h
    exact ⟨';', rfl, Or.inl rfl⟩

mutual

theorem argument_matched : (t : Statement) → t.Tidy → ∀ {m : Marker} {shapes rest : List Char},
    t.StandsAt m → t.Shaped true shapes → Closes true rest →
    Yields (.rule .argument) m.index (shapes ++ rest)
      (.matched [t.node] (m.after t.print).index rest)
  | .mk parts span, htidy, m, shapes, rest, hplaced, hshaped, hrest => by
    obtain ⟨rfl, hparts⟩ := hplaced
    exact .rule (parts_matched parts htidy.parts (htidy _ .self).2 hparts hshaped hrest)

theorem parts_matched : (parts : List Part) → (∀ p ∈ parts, p.Tidy) → Alternates parts →
    ∀ {inside : Bool} {m : Marker} {shapes rest : List Char},
    PartsStandAt m parts → PartsShaped inside parts shapes → Closes inside rest →
    Yields (.star (item inside)) m.index (shapes ++ rest)
      (.matched (partNodes inside parts) (m.after (printParts parts)).index rest)
  | [], _, _, inside, m, shapes, rest, _, hshaped, hrest => by
    obtain rfl : shapes = [] := hshaped
    rw [partNodes, printParts, Marker.after_empty]
    exact .starDone (item_failed hrest _)
  | part :: parts, htidy, halternates, inside, m, _, rest, ⟨hplaced, hlater⟩, hshaped, hrest => by
    obtain ⟨u, v, rfl, hpart, hparts⟩ := hshaped
    obtain ⟨htidied, htidies⟩ := List.forall_mem_cons.mp htidy
    obtain ⟨hnext, halternates⟩ := List.isChain_cons.mp halternates
    have hends : part.isCall ∨ Ends inside (v ++ rest) := by
      by_cases hcall : part.isCall
      · exact Or.inl hcall
      · exact Or.inr (hparts.ends hrest fun p hp ↦ (hnext p hp).resolve_left hcall)
    rw [List.append_assoc, partNodes, printParts, Marker.after_append]
    exact .starMore (part_matched part htidied hplaced hpart hends)
      (parts_matched parts htidies halternates hlater hparts hrest)

theorem part_matched : (part : Part) → part.Tidy →
    ∀ {inside : Bool} {m : Marker} {shapes rest : List Char},
    part.StandsAt m → part.Shaped inside shapes → part.isCall ∨ Ends inside rest →
    Yields (item inside) m.index (shapes ++ rest)
      (.matched [part.node inside] (m.after part.print).index rest)
  | .literal text span, htidy, inside, m, shapes, rest, hplaced, hshaped, hends => by
    obtain rfl : span = ⟨m, m.after text⟩ := hplaced
    have hends : Ends inside rest := by simpa [Part.isCall] using hends
    have hwidth := hshaped.width
    obtain ⟨htext, hstands⟩ := hshaped
    obtain ⟨c, shapes, rfl⟩ : ∃ c u, shapes = c :: u := by
      apply List.exists_cons_of_ne_nil
      rintro rfl
      exact htidy (String.toList_eq_nil_iff.mp (List.forall₂_nil_left_iff.mp hstands))
    have hmatched := literal_matched m.index (List.cons_ne_nil c shapes) htext hends
    rw [hwidth] at hmatched
    rw [Part.node, Part.print, Marker.index_after]
    refine item_literal ?_ hmatched
    intro hopening
    exact (List.forall_mem_cons.mp htext).1.1 (Option.some.inj hopening)
  | .call name args span, htidy, inside, m, _, rest, hplaced, hshaped, _ => by
    obtain ⟨rfl, hname, hargs⟩ := hplaced
    obtain ⟨u, v, rfl, hnamed, hshapes⟩ := hshaped
    have hfirst := argument_matched name htidy.1 hname hnamed (hshapes.closes rest)
    rw [← Marker.after_append] at hfirst
    have hothers := args_matched args htidy.2 hargs hshapes rest
    rw [← Marker.after_append] at hothers
    have hclosing := Yields.char (m.after ("\x7b" ++ name.print ++ printArgs args)).index
      Braces.closing rest
    have hstop (m : Marker) : m.index + Braces.closing.utf8Size = (m.after "\x7d").index :=
      (m.index_after "\x7d").symm
    have hmatched := Yields.seq (.char m.index Braces.opening _)
      (.seq hfirst (.seq hothers hclosing))
    rw [List.append_nil, List.nil_append, hstop] at hmatched
    have htext : Braces.opening :: (u ++ v ++ [Braces.closing]) ++ rest =
        Braces.opening :: (u ++ (v ++ Braces.closing :: rest)) := by
      simp
    rw [htext, Part.print, Marker.after_append _ _ "\x7d"]
    exact item_subtag (.rule (r := .subtag) hmatched)

theorem args_matched : (args : List Statement) → (∀ a ∈ args, a.Tidy) →
    ∀ {m : Marker} {shapes : List Char}, ArgsStandAt m args → ArgsShaped args shapes →
    ∀ rest : List Char,
    Yields (.star (.seq (.char ';') (.rule .argument))) m.index (shapes ++ Braces.closing :: rest)
      (.matched (argNodes args) (m.after (printArgs args)).index (Braces.closing :: rest))
  | [], _, m, shapes, _, hshaped, rest => by
    obtain rfl : shapes = [] := hshaped
    rw [argNodes, printArgs, Marker.after_empty]
    exact .starDone (.seqFailed (.otherChar _ (by simp [Braces.closing])))
  | arg :: args, htidy, m, _, ⟨hplaced, hlater⟩, hshaped, rest => by
    obtain ⟨u, v, rfl, harg, hargs⟩ := hshaped
    obtain ⟨htidied, htidies⟩ := List.forall_mem_cons.mp htidy
    have hfirst := argument_matched arg htidied hplaced harg (hargs.closes rest)
    rw [← Marker.after_append] at hfirst
    rw [List.cons_append, List.append_assoc, argNodes, printArgs, Marker.after_append]
    exact .starMore (.seq (.char m.index ';' _) hfirst) (args_matched args htidies hlater hargs rest)

end

end Matching

theorem document_matched (source : String) :
    Yields (.rule .document) 0 (Braces.mask source.toList)
      (.matched [(parse source).document] source.utf8ByteSize []) := by
  obtain ⟨hplaced, hprint, htidy⟩ := parse_spec source
  have hshaped := shaped_parse source
  have hspan := hplaced.span_eq
  rw [hprint] at hspan
  generalize parse source = t at *
  obtain ⟨parts, span⟩ := t
  obtain rfl : span = ⟨Marker.start, Marker.start.after source⟩ := hspan
  have hclosed : Closes false [] := rfl
  have hparts := parts_matched parts htidy.parts (htidy _ .self).2 hplaced.parts hshaped hclosed
  have hprint : printParts parts = source := hprint
  have hstop : (Marker.start.after source).index = source.utf8ByteSize := by simp [Marker.start]
  rw [hprint, List.append_nil, hstop] at hparts
  rw [Statement.document]
  dsimp only [Statement.span, Statement.parts]
  rw [hstop]
  have hend : Yields (.rule .endOfInput) source.utf8ByteSize [] _ := .rule (.stop _)
  have hbody := Yields.seq (.start _) (.seq hparts hend)
  exact .rule (r := .document) hbody

section Stray

theorem Grammar.Node.uses_mk {r rule : Rule} {start stop : Nat} {inner : List Node} :
    (Node.mk rule start stop inner).Uses r ↔ rule = r ∨ ∃ n ∈ inner, n.Uses r := by
  constructor
  · intro h
    cases h with
    | self => exact Or.inl rfl
    | inner hmem h => exact Or.inr ⟨_, hmem, h⟩
  · rintro (rfl | ⟨n, hmem, h⟩)
    · exact .self ..
    · exact .inner hmem h

mutual

theorem Statement.node_not_stray : (t : Statement) → ¬t.node.Uses .stray
  | .mk parts span => by
    rw [Statement.node, Node.uses_mk]
    rintro (hrule | ⟨n, hn, h⟩)
    · cases hrule
    · exact partNodes_not_stray true parts n hn h

theorem partNodes_not_stray (inside : Bool) : (parts : List Part) →
    ∀ n ∈ partNodes inside parts, ¬n.Uses .stray
  | [] => by simp [partNodes]
  | part :: parts => by
    rw [partNodes, List.forall_mem_cons]
    exact ⟨part.node_not_stray inside, partNodes_not_stray inside parts⟩

theorem Part.node_not_stray (inside : Bool) : (part : Part) → ¬(part.node inside).Uses .stray
  | .literal text span => by
    rw [Part.node, Node.uses_mk]
    cases inside with
    | false => simp [literal]
    | true => simp [literal]
  | .call name args span => by
    rw [Part.node, Node.uses_mk]
    rintro (hrule | ⟨n, hn, h⟩)
    · cases hrule
    · rcases List.mem_cons.mp hn with rfl | hn
      · exact name.node_not_stray h
      · exact argNodes_not_stray args n hn h

theorem argNodes_not_stray : (args : List Statement) → ∀ n ∈ argNodes args, ¬n.Uses .stray
  | [] => by simp [argNodes]
  | arg :: args => by
    rw [argNodes, List.forall_mem_cons]
    exact ⟨arg.node_not_stray, argNodes_not_stray args⟩

end

theorem Statement.document_not_stray (t : Statement) : ¬t.document.Uses .stray := by
  rw [Statement.document, Node.uses_mk]
  rintro (hrule | ⟨n, hn, h⟩)
  · cases hrule
  · rcases List.mem_append.mp hn with hn | hn
    · exact partNodes_not_stray false t.parts n hn h
    · rw [List.mem_singleton.mp hn] at h
      simp [Node.uses_mk] at h

end Stray

end BraceScript
