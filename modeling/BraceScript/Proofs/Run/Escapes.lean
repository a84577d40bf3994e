import BraceScript.Proofs.Run.EagerCalls
import BraceScript.Proofs.Run.Room

namespace BraceScript

namespace Escape

/-- The subtag that gives a character which is read as code. -/
def name? (c : Char) : Option String :=
  if c = Braces.opening then some "lb"
  else if c = Braces.closing then some "rb"
  else if c = ';' then some "semi"
  else none

def char (c : Char) : String :=
  match name? c with
  | some name => "\x7b" ++ name ++ "\x7d"
  | none => String.singleton c

/-- `text` with calls in place of the characters that are read as code. -/
def text (text : String) : String := String.join (text.toList.map char)

/-- The number of characters that are read as code. -/
def count (text : String) : Nat := text.toList.countP (name? · |>.isSome)

def call (name : String) : Part := .call (.plain .nowhere name) [] .nowhere

/-- A character in front of parts, in one literal with the text that they start with. -/
def prepend (c : Char) : List Part → List Part
  | .literal text span :: parts => .literal (String.singleton c ++ text) span :: parts
  | parts => .literal (String.singleton c) .nowhere :: parts

def parts : List Char → List Part
  | [] => []
  | c :: text =>
    match name? c with
    | some name => call name :: parts text
    | none => prepend c (parts text)

section Source

theorem print_prepend (c : Char) (parts : List Part) :
    printParts (prepend c parts) = String.singleton c ++ printParts parts := by
  unfold prepend
  split <;> simp [printParts, Part.print, String.append_assoc]

theorem print_parts (text : List Char) : printParts (parts text) = String.join (text.map char) := by
  induction text with
  | nil => rfl
  | cons c text ih =>
    rw [parts, List.map_cons, String.join_cons, char, ← ih]
    cases name? c with
    | none => exact print_prepend c (parts text)
    | some name =>
      simp [call, printParts, Part.print, Statement.plain, Statement.print, printArgs]

inductive IsPart : Part → Prop
  | literal {text : String} (hne : text ≠ "") (htext : IsText true text.toList) :
    IsPart (.literal text .nowhere)
  | call {c : Char} {name : String} (h : name? c = some name) : IsPart (call name)

theorem isText_of_name? {c : Char} (h : name? c = none) : IsText true [c] := by
  unfold name? at h
  split_ifs at h with hopening hclosing hsep
  simp [IsText, hopening, hclosing, hsep]

theorem name_cases {c : Char} {name : String} (h : name? c = some name) :
    c = Braces.opening ∧ name = "lb" ∨ c = Braces.closing ∧ name = "rb" ∨ c = ';' ∧ name = "semi" := by
  unfold name? at h
  split_ifs at h with hopening hclosing hsep
  · exact Or.inl ⟨hopening, (Option.some.inj h).symm⟩
  · exact Or.inr (Or.inl ⟨hclosing, (Option.some.inj h).symm⟩)
  · exact Or.inr (Or.inr ⟨hsep, (Option.some.inj h).symm⟩)

theorem isText_name {c : Char} {name : String} (h : name? c = some name) :
    name ≠ "" ∧ IsText true name.toList := by
  rcases name_cases h with ⟨-, rfl⟩ | ⟨-, rfl⟩ | ⟨-, rfl⟩ <;>
    simp [IsText, Braces.opening, Braces.closing]

theorem isPart_prepend {c : Char} (hc : name? c = none) {parts : List Part}
    (h : ∀ p ∈ parts, IsPart p) : ∀ p ∈ prepend c parts, IsPart p := by
  have hsingle := isText_of_name? hc
  unfold prepend
  split
  case h_1 text span rest =>
    obtain ⟨hfirst, hrest⟩ := List.forall_mem_cons.mp h
    cases hfirst with
    | literal hne htext =>
      refine List.forall_mem_cons.mpr ⟨.literal (by simp) ?_, hrest⟩
      rw [String.toList_append, String.toList_singleton]
      exact fun d hd ↦ (List.mem_append.mp hd).elim (hsingle d) (htext d)
  case h_2 =>
    refine List.forall_mem_cons.mpr ⟨.literal (by simp) ?_, h⟩
    rwa [String.toList_singleton]

theorem isPart_parts (text : List Char) : ∀ p ∈ parts text, IsPart p := by
  induction text with
  | nil => simp [parts]
  | cons c text ih =>
    rw [parts]
    cases hc : name? c with
    | none => exact isPart_prepend hc ih
    | some name => exact List.forall_mem_cons.mpr ⟨.call hc, ih⟩

theorem alternates_parts (text : List Char) : Alternates (parts text) := by
  induction text with
  | nil => exact .nil
  | cons c text ih =>
    unfold parts
    cases name? c with
    | some name => exact List.isChain_cons.mpr ⟨fun _ _ ↦ Or.inl rfl, ih⟩
    | none =>
      unfold prepend
      dsimp only
      split
      case h_1 first span rest hparts =>
        -- The literal is longer and still the neighbour of what it was the neighbour of.
        rw [hparts] at ih
        obtain ⟨hhead, hrest⟩ := List.isChain_cons.mp ih
        exact List.isChain_cons.mpr ⟨hhead, hrest⟩
      case h_2 hother =>
        refine List.isChain_cons.mpr ⟨fun p hp ↦ Or.inr ?_, ih⟩
        cases p with
        | call => rfl
        | literal first span =>
          obtain ⟨rest, hparts⟩ := List.head?_eq_some_iff.mp hp
          exact absurd hparts (hother first span rest)

theorem tidy_plain {text : String} (h : text ≠ "") : (Statement.plain .nowhere text).Tidy :=
  Statement.tidy_mk (by simp [Part.Tidy, h]) (.singleton _)

theorem legible_literal {text : String} (h : IsText true text.toList) (inside : Bool) :
    (Part.literal text .nowhere).Legible inside := by
  refine ⟨?_, ?_⟩
  · rintro _ _ ⟨⟩ c hc
    obtain ⟨hopening, hclosing, hsep⟩ := h c hc
    exact ⟨hopening, hclosing, fun _ ↦ hsep rfl⟩
  · intro _ _ hin
    cases hin

theorem legible_plain {text : String} (h : IsText true text.toList) :
    ∀ p ∈ (Statement.plain .nowhere text).parts, p.Legible true := by
  simpa [Statement.plain, Statement.parts] using legible_literal h true

theorem IsPart.tidy {p : Part} (h : IsPart p) : p.Tidy := by
  cases h with
  | literal hne => exact hne
  | call hname => exact ⟨tidy_plain (isText_name hname).1, by simp⟩

theorem IsPart.legible {p : Part} (h : IsPart p) (inside : Bool) : p.Legible inside := by
  cases h with
  | literal hne htext => exact legible_literal htext inside
  | call hname =>
    refine Part.legible_call inside .nowhere fun s hs ↦ ?_
    rw [List.mem_singleton.mp hs]
    exact legible_plain (isText_name hname).2

theorem IsPart.nesting_le {p : Part} (h : IsPart p) : p.nesting ≤ 1 := by
  cases h with
  | literal => simp [Part.nesting]
  | call => exact Nat.le_refl 1

theorem tidy_parts (text : List Char) : (Statement.mk (parts text) .nowhere).Tidy :=
  Statement.tidy_mk (fun p hp ↦ (isPart_parts text p hp).tidy) (alternates_parts text)

theorem nesting_parts_le (text : List Char) : (Statement.mk (parts text) .nowhere).nesting ≤ 1 :=
  Statement.nesting_le.mpr fun p hp ↦ (isPart_parts text p hp).nesting_le

theorem parse_text (text : String) :
    (parse (Escape.text text)).unplaced = (Statement.mk (parts text.toList) .nowhere).unplaced := by
  have hwell := Statement.WellFormed.of_legible
    (Nat.le_trans (nesting_parts_le text.toList) (by decide)) (tidy_parts text.toList)
    fun p hp ↦ (isPart_parts text.toList p hp).legible false
  rw [← parse_print _ hwell, Statement.print, print_parts]
  rfl

def conditional (text : List Char) : Part :=
  .call (.plain .nowhere "if") [.plain .nowhere "true", .mk (parts text) .nowhere] .nowhere

theorem print_conditional (text : String) : (conditional text.toList).print =
    "\x7bif;true;" ++ Escape.text text ++ "\x7d" := by
  simp [conditional, Part.print, Statement.plain, Statement.print, printArgs, printParts,
    print_parts, Escape.text, ← String.toList_inj]

theorem tidy_conditional (text : List Char) : (conditional text).Tidy := by
  refine ⟨tidy_plain (by decide), ?_⟩
  simp only [List.forall_mem_cons]
  exact ⟨tidy_plain (by decide), tidy_parts text, by simp⟩

theorem legible_conditional (text : List Char) : (conditional text).Legible false := by
  refine Part.legible_call false .nowhere ?_
  simp only [List.forall_mem_cons]
  exact ⟨legible_plain (by simp [IsText, Braces.opening, Braces.closing]),
    legible_plain (by simp [IsText, Braces.opening, Braces.closing]),
    fun p hp ↦ (isPart_parts text p hp).legible true, by simp⟩

theorem nesting_conditional_le (text : List Char) : (conditional text).nesting ≤ 2 := by
  rw [conditional, Part.nesting_call_le]
  simp only [List.forall_mem_cons]
  exact ⟨by decide, by decide, Nat.lt_succ_of_le (nesting_parts_le text), by simp⟩

theorem parse_conditional (text : String) :
    (parse ("\x7bif;true;" ++ Escape.text text ++ "\x7d")).unplaced =
      (Statement.mk [conditional text.toList] .nowhere).unplaced := by
  have hnesting : (Statement.mk [conditional text.toList] .nowhere).nesting ≤ Braces.maxNesting := by
    rw [Statement.nesting_le]
    simp only [Statement.parts, List.forall_mem_singleton]
    exact Nat.le_trans (nesting_conditional_le text.toList) (by decide)
  have htidy : (Statement.mk [conditional text.toList] .nowhere).Tidy :=
    Statement.tidy_mk (List.forall_mem_singleton.mpr (tidy_conditional text.toList)) (.singleton _)
  have hwell := Statement.WellFormed.of_legible hnesting htidy
    (List.forall_mem_singleton.mpr (legible_conditional text.toList))
  rw [← parse_print _ hwell, ← print_conditional, Statement.print, printParts, printParts,
    String.append_empty]

end Source

theorem exists_declaration {c : Char} {name : String} (h : name? c = some name) :
    ∃ description, let declaration := Subtags.constantDeclaration name (String.singleton c) description
      declaration ∈ Subtags.standardDeclarations ∧ normalize (normalize name) ∈ declaration.keys := by
  have hmem : [Subtags.lbDeclaration, Subtags.rbDeclaration, Subtags.semiDeclaration] ⊆
      Subtags.standardDeclarations := by
    simp [Subtags.standardDeclarations, Subtags.presentationDeclarations]
  simp only [List.cons_subset] at hmem
  rcases name_cases h with ⟨rfl, rfl⟩ | ⟨rfl, rfl⟩ | ⟨rfl, rfl⟩
  · exact ⟨_, hmem.1, by decide +kernel⟩
  · exact ⟨_, hmem.2.1, by decide +kernel⟩
  · exact ⟨_, hmem.2.2.1, by decide +kernel⟩

section Run

variable {e : Engine} (he : e.Standard) {r : Request} {s : State} {n depth : Nat}

include he

theorem eval_call {c : Char} {name : String} (h : name? c = some name)
    (hroom : s.HasRoom (e.env r).services (n + 1) (depth + 1)) (span : Span) :
    (e.env r).eval (.mk [call name] span) s =
      (String.singleton c, s.visited (e.env r).services ⟨normalize name, .nowhere⟩) := by
  obtain ⟨description, hmem, hkey⟩ := exists_declaration h
  let signature : Signature Handler :=
    ⟨[], description, .script (Subtags.constant (String.singleton c)), 0, rfl⟩
  have hbind : Binding.bind [signature] [] = .ok (signature, ⟨[], []⟩) := rfl
  obtain ⟨call, -, hsignature, hbound⟩ := he.exists_boundCall_of_tick [] hmem rfl rfl hbind hkey
    hroom.running hroom.going hroom.mayCall .nowhere .nowhere
  have hresolved : call.resolved = ([], call.entered) := by
    rw [BoundCall.resolved, hbound]
    rfl
  have hhandled : call.handled = (.ok (some (String.singleton c)), call.opening) :=
    call.handled_of_script (congrArg Signature.handler hsignature)
  exact call.eval_of_idle he.scripted (congrArg Prod.snd hresolved) hhandled span

theorem eval_literal_cons (hrunning : s.isRunning = true) (text : String) (parts : List Part)
    (span span' : Span) :
    (e.env r).eval (.mk (.literal text span' :: parts) span) s =
      (text ++ ((e.env r).eval (.mk parts span) s).1, ((e.env r).eval (.mk parts span) s).2) := by
  have happend := (e.env r).eval_append he.scripted [.literal text span'] parts span span span s
  rwa [Env.eval_literal _ hrunning] at happend

theorem eval_prepend (hrunning : s.isRunning = true) (c : Char) (parts : List Part) (span : Span) :
    (e.env r).eval (.mk (prepend c parts) span) s =
      (String.singleton c ++ ((e.env r).eval (.mk parts span) s).1,
        ((e.env r).eval (.mk parts span) s).2) := by
  unfold prepend
  split
  · rw [eval_literal_cons he hrunning, eval_literal_cons he hrunning, String.append_assoc]
  · exact eval_literal_cons he hrunning _ parts span _

/-- What is written with escapes evaluates to the text that is meant, with a call for each of
them. -/
theorem eval_parts (text : List Char) (span : Span)
    (hroom : s.HasRoom (e.env r).services (n + text.countP (name? · |>.isSome)) (depth + 1)) :
    ∃ t, (e.env r).eval (.mk (parts text) span) s = (String.ofList text, t) ∧
      t.HasRoom (e.env r).services n (depth + 1) ∧
      s.Visited (text.countP (name? · |>.isSome)) t := by
  induction text generalizing s with
  | nil =>
    have hnone : (e.env r).eval (.mk (parts []) span) s = ("", s) := by
      unfold Env.eval
      rw [evalAt_eq]
      rfl
    exact ⟨s, hnone, hroom, .refl s⟩
  | cons c text ih =>
    have hcons : String.ofList (c :: text) = String.singleton c ++ String.ofList text := by
      rw [← String.toList_inj, String.toList_append, String.toList_singleton, String.toList_ofList,
        String.toList_ofList, List.singleton_append]
    rw [parts, hcons]
    cases hc : name? c with
    | none =>
      rw [List.countP_cons_of_neg (by simp [hc])] at hroom ⊢
      obtain ⟨t, heval, hleft, hvisited⟩ := ih hroom
      refine ⟨t, ?_, hleft, hvisited⟩
      dsimp only
      rw [eval_prepend he hroom.running, heval]
    | some name =>
      rw [List.countP_cons_of_pos (by simp [hc])] at hroom ⊢
      have hcall := eval_call he hc hroom span
      obtain ⟨t, heval, hleft, hvisited⟩ := ih (hroom.visited ⟨normalize name, .nowhere⟩)
      refine ⟨t, ?_, hleft, ?_⟩
      · have happend := (e.env r).eval_append he.scripted [call name] (parts text) span span span s
        rw [hcall] at happend
        dsimp only at happend
        rwa [heval] at happend
      · rw [Nat.add_comm]
        exact (s.visited_visited _ _).trans hvisited

theorem eval_ifTrue (htrue : (e.env r).services.plugins.boolean? "true" = some true)
    (hroom : s.HasRoom (e.env r).services (n + 1) (depth + 1)) {body : Statement} {text : String}
    {t : State} (hbody : (e.env r).eval body
      (s.opened (e.env r).services ⟨normalize "if", .nowhere⟩) = (text, t)) (span : Span) :
    (e.env r).eval (.mk [.call (.plain .nowhere "if") [.plain .nowhere "true", body] .nowhere] span) s =
      (text, t.popCall) := by
  obtain ⟨d, description, hd, hfind⟩ := Fork.lookup_id he .ifTrue
  have hname : normalize "if" = Fork.ifTrue.id := by decide +kernel
  have hfind : d.signatures.find? (·.accepts [.plain .nowhere "true", body].length) = _ :=
    hfind 2 (Or.inl rfl)
  let c : BoundCall (e.env r) s (.mk [.literal "if" .nowhere] .nowhere)
      [.plain .nowhere "true", body] .nowhere :=
    .ofPlain hroom.running hroom.going (State.mayCall_tick.mpr hroom.mayCall) (hname ▸ hd)
      (Fork.bind_signatures hfind (Or.inl rfl)) .nowhere .nowhere
  have hsignature : c.signature = Fork.ifTrue.signature description := rfl
  have htake : evalEach (e.env r).eval [.plain .nowhere "true"] c.entered = (["true"], c.entered) :=
    (e.env r).evalEach_plain c.isRunning_entered .nowhere ["true"]
  have hopened : c.entered.started c.frame =
      s.opened (e.env r).services ⟨normalize "if", .nowhere⟩ := by
    rw [c.entered_of_plain, c.frame_of_plain]
    rfl
  refine (c.eval_of_fork he.scripted hsignature span).trans ?_
  simp only [Fork.conditions, List.length_singleton, List.take_succ_cons, List.take_zero,
    List.drop_succ_cons, List.drop_zero, htake, c.isRunning_entered, if_true, hopened]
  simp [Fork.answer, Fork.select, htrue, Fork.take, hbody, conclude]

end Run

end Escape

namespace Engine

/-- Every text can be written with escapes, at the top of a document and inside of a call. -/
theorem execute_escaped {e : Engine} (he : e.Standard) (text : String) (r : Request) (store : Store)
    (hsignal : ∀ k, 1 ≤ k → k ≤ Escape.count text → ¬(e.env r).services.SignalledAt k)
    (hcalls : Escape.count text ≤ (e.env r).services.limits.maxCalls)
    (hdepth : 1 ≤ (e.env r).services.limits.maxDepth) :
    e.execute (Escape.text text) r store =
      (⟨text, [], .completed, Escape.count text⟩, store) ∧
    ((e.env r).services.plugins.boolean? "true" = some true →
      ¬(e.env r).services.SignalledAt (Escape.count text + 1) →
      Escape.count text + 1 ≤ (e.env r).services.limits.maxCalls →
      2 ≤ (e.env r).services.limits.maxDepth →
      e.execute ("\x7bif;true;" ++ Escape.text text ++ "\x7d") r store =
        (⟨text, [], .completed, Escape.count text + 1⟩, store)) := by
  refine ⟨?_, fun htrue hlast hcalls' hdepth' ↦ ?_⟩
  · have hroom := e.hasRoom_initial store hsignal hcalls hdepth
    rw [← Nat.zero_add (Escape.count text)] at hroom
    obtain ⟨t, heval, hleft, hvisited⟩ := Escape.eval_parts he text.toList .nowhere hroom
    rw [String.ofList_toList] at heval
    exact execute_of_visited he (Escape.parse_text text) heval hleft.termination hvisited
  · have hsignal' : ∀ k, 1 ≤ k → k ≤ Escape.count text + 1 → ¬(e.env r).services.SignalledAt k := by
      intro k hpos hle
      rcases Nat.lt_or_eq_of_le hle with hlt | rfl
      · exact hsignal k hpos (Nat.le_of_lt_succ hlt)
      · exact hlast
    have hroom := e.hasRoom_initial store hsignal' hcalls' hdepth'
    have hopened := hroom.opened ⟨normalize "if", .nowhere⟩
    rw [← Nat.zero_add (Escape.count text)] at hopened
    obtain ⟨t, heval, hleft, hvisited⟩ := Escape.eval_parts he text.toList .nowhere hopened
    rw [String.ofList_toList] at heval
    have hif := Escape.eval_ifTrue he htrue hroom heval .nowhere
    rw [Nat.add_comm]
    exact execute_of_visited he (Escape.parse_conditional text) hif hleft.termination
      (((initial r store).visited_opened _ _).trans hvisited).popCall

/-- Braces and separators that would be read as code. -/
theorem execute_escaped_code : ∃ e : Engine, e.Standard ∧
    let r : Request := .patient { maxCalls := 5, maxDepth := 2 }
    Escape.text "\x7da;\x7b\x7b" = "\x7brb\x7da\x7bsemi\x7d\x7blb\x7d\x7blb\x7d" ∧
    e.execute (Escape.text "\x7da;\x7b\x7b") r [] = (⟨"\x7da;\x7b\x7b", [], .completed, 4⟩, []) ∧
    e.execute ("\x7bif;true;" ++ Escape.text "\x7da;\x7b\x7b" ++ "\x7d") r [] =
      (⟨"\x7da;\x7b\x7b", [], .completed, 5⟩, []) := by
  obtain ⟨e, -, he, htrue⟩ := exists_standard_of_any (b := { providers := [⟨"", .tag⟩] }) rfl rfl
    (p := fun e ↦ decide (e.plugins.boolean? "true" = some true)) (by decide +kernel)
  rw [decide_eq_true_iff] at htrue
  have hnever := e.not_signalledAt_patient { maxCalls := 5, maxDepth := 2 }
  have hcount : Escape.count "\x7da;\x7b\x7b" = 4 := by decide
  obtain ⟨htop, hinside⟩ := execute_escaped he "\x7da;\x7b\x7b"
    (.patient { maxCalls := 5, maxDepth := 2 }) [] (fun k _ _ ↦ hnever k)
    (by decide : Escape.count "\x7da;\x7b\x7b" ≤ 5) (by decide : 1 ≤ 2)
  rw [hcount] at htop hinside
  refine ⟨e, he, by decide, htop, ?_⟩
  exact hinside htrue (hnever 5) (Nat.le_refl 5) (Nat.le_refl 2)

end Engine

end BraceScript
