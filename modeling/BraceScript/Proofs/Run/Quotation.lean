import BraceScript.Proofs.Run.EagerCalls
import BraceScript.Proofs.Run.Room
import BraceScript.Proofs.Source.Enclosure

namespace BraceScript

open Subtags

theorem Subtags.exec_escape {svc : Services} {eval : Eval} {t : Activation} (c : Invocation)
    {p : Parameter} {args : List Statement} (hall : t.args.all 0 = args.map (.supplied p)) :
    (escape c).exec svc eval t = (.ok (some (";".intercalate (args.map Statement.print))), t) := by
  have hcount : (Action.count 0).exec svc eval t = (.ok (args.map Statement.print).length, t) := by
    rw [Fork.exec_count hall, List.length_map]
  have hraw : ∀ i text, (args.map Statement.print)[i]? = some text →
      (Action.ask (.raw 0 i)).exec svc eval t = (.ok text, t) := by
    intro i text hi
    obtain ⟨x, hx, rfl⟩ := Option.map_eq_some_iff.mp ((List.getElem?_map ..).symm.trans hi)
    have hat : t.args.at? 0 i = some (.supplied p x) := by
      rw [Arguments.at?, hall, List.getElem?_map, hx]
      rfl
    change (Except.ok (((t.args.at? 0 i).map Argument.raw).getD ""), t) = _
    rw [hat]
    rfl
  rw [escape, Action.exec_bind, Action.sources, Action.exec_bind, hcount]
  dsimp only
  rw [Action.exec_collect hraw]
  rfl

def Subtags.quoted : Parameter := ⟨"code", .raw, .repeated 0⟩

def Subtags.escapeSignature : Signature Handler :=
  ⟨[quoted], "Returns `code` verbatim.", .script escape, 0, rfl⟩

theorem Subtags.bind_escape (args : List Statement) : Binding.bind [escapeSignature] args =
    .ok (escapeSignature, ⟨[quoted], [args.map (.supplied quoted)]⟩) := by
  have hleast : escapeSignature.least = 0 := rfl
  have hgreatest : escapeSignature.greatest? = none := rfl
  have haccepts : escapeSignature.accepts args.length = true := by
    simp [Signature.accepts, hleast, hgreatest]
  rw [Binding.bind_of_find? (List.find?_cons_of_pos haccepts), hleast]
  simp [Binding.assign, escapeSignature, quoted]

/-- A call of the subtag for quotations gives the text of its arguments and changes nothing. -/
theorem Engine.Standard.eval_escape {e : Engine} (he : e.Standard) {r : Request} {s : State}
    {n depth : Nat} (hroom : s.HasRoom (e.env r).services (n + 1) (depth + 1))
    (args : List Statement) (span : Span) :
    (e.env r).eval (.mk [.call (.mk [.literal "escapebbtag" .nowhere] .nowhere) args .nowhere] span) s =
      (";".intercalate (args.map Statement.print),
        s.visited (e.env r).services ⟨normalize "escapebbtag", .nowhere⟩) := by
  have hmem : escapebbtagDeclaration ∈ standardDeclarations := by
    simp [standardDeclarations, presentationDeclarations]
  obtain ⟨c, -, hsignature, hbound⟩ := he.exists_boundCall_of_tick args hmem rfl rfl
    (bind_escape args) (by decide +kernel : normalize (normalize "escapebbtag") ∈ _)
    hroom.running hroom.going hroom.mayCall .nowhere .nowhere
  have hresolved : c.resolved = ([args.map (.supplied quoted)], c.entered) := by
    rw [BoundCall.resolved, hbound]
    refine resolveSlots_deferred _ (fun slot hslot a ha ↦ ?_) _
    obtain ⟨x, -, rfl⟩ := List.mem_map.mp (List.mem_singleton.mp hslot ▸ ha)
    rfl
  have hall : c.opening.args.all 0 = args.map (.supplied quoted) := by
    unfold BoundCall.opening
    rw [hresolved]
    rfl
  have hhandled : c.handled = (.ok (some (";".intercalate (args.map Statement.print))), c.opening) := by
    rw [c.handled_of_script (congrArg Signature.handler hsignature)]
    exact exec_escape c.invocation hall
  exact c.eval_of_idle he.scripted (congrArg Prod.snd hresolved) hhandled span

namespace Engine

/-- Any balanced text is quoted as it is, however deep its braces are nested. -/
theorem execute_quoted {e : Engine} (he : e.Standard) (text : String) (r : Request) (store : Store)
    (hstarts : ∀ u, u <+: text.toList → u.count Braces.closing ≤ u.count Braces.opening)
    (htotal : text.toList.count Braces.closing = text.toList.count Braces.opening)
    (hsignal : ¬(e.env r).services.SignalledAt 1)
    (hcalls : 1 ≤ (e.env r).services.limits.maxCalls)
    (hdepth : 1 ≤ (e.env r).services.limits.maxDepth) :
    e.execute ("\x7bescapebbtag;" ++ text ++ "\x7d") r store =
      (⟨text, [], .completed, 1⟩, store) := by
  have hbalanced : Braces.Balanced 0 text.toList := by
    rw [Braces.balanced_iff]
    simpa only [Nat.zero_add] using ⟨hstarts, htotal⟩
  have hname : IsText true "escapebbtag".toList := by
    simp [IsText, Braces.opening, Braces.closing]
  obtain ⟨args, hparse, hprint⟩ := parse_enclosed (by decide) hname hbalanced
  have hsource : "\x7b" ++ "escapebbtag" ++ ";" ++ text ++ "\x7d" =
      "\x7bescapebbtag;" ++ text ++ "\x7d" := rfl
  rw [hsource] at hparse
  have hroom : (initial r store).HasRoom (e.env r).services 1 1 := by
    refine e.hasRoom_initial store (fun k hpos hle ↦ ?_) hcalls hdepth
    obtain rfl : k = 1 := Nat.le_antisymm hle hpos
    exact hsignal
  have heval := he.eval_escape hroom args .nowhere
  rw [intercalate_of_printArgs hprint] at heval
  exact execute_of_visited he hparse heval (hroom.visited _).termination
    ((initial r store).visited_visited _ _)

/-- Braces that are nested deeper than calls can be. -/
theorem execute_quoted_nested : ∃ e : Engine, e.Standard ∧
    let text := String.ofList (List.replicate 300 Braces.opening ++ List.replicate 300 Braces.closing)
    Braces.maxNesting < 300 ∧
    e.execute ("\x7bescapebbtag;" ++ text ++ "\x7d") (.patient { maxCalls := 1, maxDepth := 1 }) [] =
      (⟨text, [], .completed, 1⟩, []) := by
  obtain ⟨e, -, he⟩ := exists_standard (b := {}) rfl rfl Scopes.exists_ofProviders_standard
  have hne : Braces.opening ≠ Braces.closing := Braces.closing_ne_opening.symm
  have hstarts (n : Nat) (u : List Char)
      (hu : u <+: List.replicate n Braces.opening ++ List.replicate n Braces.closing) :
      u.count Braces.closing ≤ u.count Braces.opening := by
    rw [List.prefix_iff_eq_take.mp hu]
    simp only [List.take_append, List.take_replicate, List.length_replicate, List.count_append,
      List.count_replicate, beq_iff_eq, hne, hne.symm, if_true, if_false]
    omega
  have hcount (n : Nat) (c : Char) :
      (List.replicate n Braces.opening ++ List.replicate n Braces.closing).count c =
        (if Braces.opening = c then n else 0) + if Braces.closing = c then n else 0 := by
    simp [List.count_replicate]
  refine ⟨e, he, by decide, ?_⟩
  refine execute_quoted he _ _ [] (fun u hu ↦ ?_) ?_ (e.not_signalledAt_patient _ 1)
    (Nat.le_refl 1) (Nat.le_refl 1)
  · rw [String.toList_ofList] at hu
    exact hstarts 300 u hu
  · rw [String.toList_ofList, hcount, hcount]
    rfl

end Engine

end BraceScript
