import BraceScript.Proofs.Run.EagerCalls
import Mathlib.Data.List.TakeWhile

namespace BraceScript

namespace Regex

/-- `source` is the literal of these parts. The pattern may hold slashes, and the flags are small
letters. -/
def IsLiteral (source pattern : String) (flags : List Char) : Prop :=
  source = "/" ++ pattern ++ "/" ++ String.ofList flags ∧ ∀ c ∈ flags, c.isLower = true

/-- The flag `g` stands among those of a literal. -/
def HasGlobal (source : String) : Prop :=
  ∃ pattern flags, literal? source = some (pattern, flags) ∧ 'g' ∈ flags

/-- A pattern alone that starts with a slash and has a `g` behind the last one. -/
def IsStray (source : String) : Prop :=
  literal? source = none ∧ (∃ rest, source = "/" ++ rest) ∧
    ∃ before tail, source.toList = before ++ '/' :: tail ∧ '/' ∉ tail ∧ 'g' ∈ tail

section Slashes

variable {source : String} {before tail rest : List Char}

theorem exists_last_slash (h : '/' ∈ rest) :
    ∃ before tail, rest = before ++ '/' :: tail ∧ '/' ∉ tail := by
  obtain ⟨tail, before, hsplit, hnone⟩ := List.eq_append_cons_of_mem (List.mem_reverse.mpr h)
  refine ⟨before.reverse, tail.reverse, ?_, by simpa using hnone⟩
  rw [← List.reverse_reverse rest, hsplit]
  simp

theorem ne_slash (h : '/' ∉ tail) : ∀ c ∈ tail.reverse, decide (c ≠ '/') = true := by
  intro c hc
  simp only [ne_eq, decide_not, Bool.not_eq_true', decide_eq_false_iff_not]
  rintro rfl
  exact h (List.mem_reverse.mp hc)

theorem takeWhile_reverse (h : '/' ∉ tail) :
    (before ++ '/' :: tail).reverse.takeWhile (· ≠ '/') = tail.reverse := by
  rw [List.reverse_append, List.reverse_cons, List.append_assoc,
    List.takeWhile_append_of_pos (ne_slash h)]
  simp

theorem dropWhile_reverse (h : '/' ∉ tail) :
    (before ++ '/' :: tail).reverse.dropWhile (· ≠ '/') = '/' :: before.reverse := by
  rw [List.reverse_append, List.reverse_cons, List.append_assoc,
    List.dropWhile_append_of_pos (ne_slash h)]
  simp

theorem literal?_of_slash (hsource : source.toList = '/' :: rest) :
    literal? source = match rest.reverse.dropWhile (· ≠ '/') with
      | _ :: pattern =>
        if (rest.reverse.takeWhile (· ≠ '/')).reverse.all Char.isLower then
          some (String.ofList pattern.reverse, (rest.reverse.takeWhile (· ≠ '/')).reverse)
        else none
      | [] => none := by
  unfold literal?
  rw [hsource]
  rfl

theorem literal?_of_last (hsource : source.toList = '/' :: (before ++ '/' :: tail))
    (h : '/' ∉ tail) : literal? source =
      if tail.all Char.isLower then some (String.ofList before, tail) else none := by
  rw [literal?_of_slash hsource, takeWhile_reverse h, dropWhile_reverse h, List.reverse_reverse]
  simp

theorem literal?_of_single (hsource : source.toList = '/' :: tail) (h : '/' ∉ tail) :
    literal? source = none := by
  rw [literal?_of_slash hsource, List.dropWhile_eq_nil_iff.mpr (ne_slash h)]

theorem replacesAll_of_last (hstart : source.toList = '/' :: rest)
    (hsource : source.toList = before ++ '/' :: tail) (h : '/' ∉ tail) :
    replacesAll source = true ↔ 'g' ∈ tail := by
  have htail : rest.reverse.takeWhile (· ≠ '/') = tail.reverse := by
    cases before with
    | nil =>
      obtain rfl : rest = tail := (List.cons.inj (hstart.symm.trans hsource)).2
      exact List.takeWhile_eq_self_iff.mpr (ne_slash h)
    | cons c before =>
      obtain rfl : rest = before ++ '/' :: tail := (List.cons.inj (hstart.symm.trans hsource)).2
      exact takeWhile_reverse h
  have hslash : replacesAll source = (rest.reverse.takeWhile (· ≠ '/')).contains 'g' := by
    unfold replacesAll
    rw [hstart]
    rfl
  rw [hslash, htail]
  simp

end Slashes

theorem toList_literal (pattern : String) (flags : List Char) :
    ("/" ++ pattern ++ "/" ++ String.ofList flags).toList =
      '/' :: (pattern.toList ++ '/' :: flags) := by
  simp

theorem IsLiteral.slash_notMem {source pattern : String} {flags : List Char}
    (h : IsLiteral source pattern flags) : '/' ∉ flags := by
  intro hslash
  have hlower := h.2 '/' hslash
  cases hlower

theorem literal?_eq_some_iff {source pattern : String} {flags : List Char} :
    literal? source = some (pattern, flags) ↔ IsLiteral source pattern flags := by
  constructor
  · intro h
    cases hsource : source.toList with
    | nil => simp [literal?, hsource] at h
    | cons c rest =>
      by_cases hc : c = '/'
      · subst hc
        by_cases hslash : '/' ∈ rest
        · obtain ⟨before, tail, rfl, hnone⟩ := exists_last_slash hslash
          rw [literal?_of_last hsource hnone, Option.ite_none_right_eq_some] at h
          obtain ⟨hlower, hparts⟩ := h
          cases hparts
          refine ⟨?_, List.all_eq_true.mp hlower⟩
          apply String.toList_injective
          rw [hsource, toList_literal, String.toList_ofList]
        · rw [literal?_of_single hsource hslash] at h
          cases h
      · simp [literal?, hsource, hc] at h
  · intro h
    have hsource := congrArg String.toList h.1
    rw [toList_literal] at hsource
    rw [literal?_of_last hsource h.slash_notMem, if_pos (List.all_eq_true.mpr h.2),
      String.ofList_toList]

theorem g_mem_iff {source pattern : String} {flags : List Char}
    (h : literal? source = some (pattern, flags)) : replacesAll source = true ↔ 'g' ∈ flags := by
  have hparts := literal?_eq_some_iff.mp h
  have hsource := congrArg String.toList hparts.1
  rw [toList_literal] at hsource
  exact replacesAll_of_last hsource (List.cons_append ▸ hsource) hparts.slash_notMem

/-- All matches are replaced for the flag `g` of a literal, and for a pattern alone that looks like
one. -/
theorem replacesAll_iff (source : String) :
    replacesAll source = true ↔ HasGlobal source ∨ IsStray source := by
  constructor
  · intro h
    cases hliteral : literal? source with
    | some parts => exact Or.inl ⟨parts.1, parts.2, hliteral, (g_mem_iff hliteral).mp h⟩
    | none =>
      cases hsource : source.toList with
      | nil => simp [replacesAll, hsource] at h
      | cons c rest =>
        by_cases hc : c = '/'
        · subst hc
          obtain ⟨before, tail, hlast, hnone⟩ :=
            exists_last_slash (hsource ▸ List.mem_cons_self : '/' ∈ source.toList)
          have hstart : source = "/" ++ String.ofList rest := by
            apply String.toList_injective
            simp [hsource]
          have hg := (replacesAll_of_last hsource hlast hnone).mp h
          exact Or.inr ⟨hliteral, ⟨_, hstart⟩, before, tail, hlast, hnone, hg⟩
        · simp [replacesAll, hsource, hc] at h
  · rintro (⟨pattern, flags, hliteral, hg⟩ | ⟨-, ⟨rest, hstart⟩, before, tail, hlast, hnone, hg⟩)
    · exact (g_mem_iff hliteral).mpr hg
    · have hsource : source.toList = '/' :: rest.toList := by simp [hstart]
      exact (replacesAll_of_last hsource hlast hnone).mpr hg

theorem Program.take_findAll (p : Program) (text : List Char) (fuel limit more place : Nat)
    (last : Option Nat) :
    (p.findAll text fuel (limit + more) place last).take limit =
      p.findAll text fuel limit place last := by
  induction fuel generalizing limit place last with
  | zero => simp [findAll]
  | succ fuel ih =>
    cases limit with
    | zero => simp [findAll]
    | succ limit =>
      rw [Nat.add_right_comm]
      unfold findAll
      cases p.findFrom text place with
      | none => rfl
      | some m =>
        dsimp only
        split
        · rw [← ih (limit + 1), Nat.add_right_comm]
        · rw [List.take_succ_cons, ih]

def found (r : Regex) (text : String) : List Match :=
  r.program.findAll text.toList (2 * text.toList.length + 3) (text.toList.length + 1) 0 none

def replaced (r : Regex) (text replacement : String) (matched : List Match) : String :=
  String.ofList (r.substitute text.toList
    (readTemplate (replacement.toList.length + 1) replacement.toList) 0 matched)

theorem replace_true (r : Regex) (text replacement : String) :
    r.replace true text replacement = r.replaced text replacement (r.found text) := rfl

theorem replace_false (r : Regex) (text replacement : String) :
    r.replace false text replacement = r.replaced text replacement ((r.found text).take 1) := by
  unfold found
  rw [Nat.add_comm text.toList.length 1, Program.take_findAll]
  rfl

end Regex

section Replacing

open Subtags

def Subtags.regexReplaceSignature (description : String) : Signature Handler where
  parameters := [⟨"text", .eager, .required⟩, ⟨"regex", .eager, .required⟩,
    ⟨"replacement", .eager, .required⟩]
  description
  handler := .script regexReplace
  least := 3

theorem Subtags.declares_regexreplace : Declares regexreplaceDeclaration regexReplaceSignature :=
  ⟨by simp [standardDeclarations, computationDeclarations], _, _, _, rfl, rfl⟩

theorem Subtags.allRequired_regexReplace (description : String) :
    (regexReplaceSignature description).AllRequired := by
  simp [Signature.AllRequired, regexReplaceSignature]

theorem Subtags.exec_regexReplace {svc : Services} {eval : Eval} {t : Activation}
    {text source replacement : String} (htext : t.args.Holds 0 [text])
    (hsource : t.args.Holds 1 [source]) (hreplacement : t.args.Holds 2 [replacement])
    {c : Invocation} {regex : Regex} (hregex : c.plugins.regex source = .ok regex) :
    (regexReplace c).exec svc eval t =
      (.ok (some (regex.replace (Regex.replacesAll source) text replacement)), t) := by
  unfold regexReplace
  rw [Action.exec_bind, htext.exec_value]
  dsimp only
  rw [Action.exec_bind, hsource.exec_value]
  dsimp only
  rw [Action.exec_bind, hreplacement.exec_value]
  dsimp only
  rw [Action.exec_bind, hregex]
  rfl

namespace BoundCall

variable {e : Engine} (he : e.Standard) {r : Request} {s : State} {name : Statement}
  {args : List Statement} {span : Span} (c : BoundCall (e.env r) s name args span)
  (hid : c.definition.id = "regexreplace")

include he hid

theorem handled_of_regexreplace (hstarts : c.resolved.2.isRunning = true) :
    ∃ text source replacement,
      evalEach (e.env r).eval args c.entered = ([text, source, replacement], c.resolved.2) ∧
      ∀ regex, (e.env r).services.plugins.regex source = .ok regex →
        c.handled = (.ok (some (regex.replace (Regex.replacesAll source) text replacement)),
          c.opening) := by
  obtain ⟨description, hsignature⟩ := c.signature_of_declares he declares_regexreplace hid
  have hrequired : c.signature.AllRequired := hsignature ▸ allRequired_regexReplace description
  obtain ⟨texts, heach, hcount, hholds⟩ := c.texts_of_required hrequired hstarts
  obtain ⟨text, source, replacement, rfl⟩ :=
    List.length_eq_three.mp (hcount.trans (hsignature ▸ rfl))
  refine ⟨text, source, replacement, heach, ?_⟩
  intro regex hregex
  rw [c.handled_of_script (congrArg Signature.handler hsignature)]
  exact exec_regexReplace (hholds 0 text rfl) (hholds 1 source rfl) (hholds 2 replacement rfl)
    (c := c.invocation) hregex

end BoundCall

end Replacing

/-- Every match is replaced if the source is a literal with the flag `g`, and also if it is a
pattern alone that starts with a slash and has a `g` behind the last one; otherwise the first match
is. -/
theorem Engine.replaces_every_match_iff {e : Engine} (he : e.Standard) {r : Request} {s : State}
    {name : Statement} {args : List Statement} {span : Span}
    (c : BoundCall (e.env r) s name args span) (hid : c.definition.id = "regexreplace")
    (hstarts : c.resolved.2.isRunning = true) (span' : Span) :
    ∃ text source replacement,
      evalEach (e.env r).eval args c.entered = ([text, source, replacement], c.resolved.2) ∧
      (∀ pattern flags, Regex.literal? source = some (pattern, flags) ↔
        Regex.IsLiteral source pattern flags) ∧
      ∀ regex, (e.env r).services.plugins.regex source = .ok regex →
        let called := (e.env r).eval (.mk [.call name args span] span') s
        let every := regex.replaced text replacement (regex.found text)
        let first := regex.replaced text replacement ((regex.found text).take 1)
        called.2 = c.opening.state.popCall ∧
        (Regex.HasGlobal source ∨ Regex.IsStray source → called.1 = every) ∧
        (¬(Regex.HasGlobal source ∨ Regex.IsStray source) → called.1 = first) ∧
        ((Regex.HasGlobal source → called.1 = every) ∧
            (¬Regex.HasGlobal source → called.1 = first) ↔
          ¬Regex.IsStray source ∨ every = first) := by
  obtain ⟨text, source, replacement, heach, hhandled⟩ := c.handled_of_regexreplace he hid hstarts
  refine ⟨text, source, replacement, heach, fun _ _ ↦ Regex.literal?_eq_some_iff, ?_⟩
  intro regex hregex called every first
  have hcalled : called = (regex.replace (Regex.replacesAll source) text replacement,
      c.opening.state.popCall) := by
    have heval := c.eval_eq he.scripted span'
    rw [if_pos hstarts, hhandled regex hregex] at heval
    exact heval
  have hevery (h : Regex.HasGlobal source ∨ Regex.IsStray source) : called.1 = every := by
    rw [hcalled, (Regex.replacesAll_iff source).mpr h]
    exact regex.replace_true text replacement
  have hfirst (h : ¬(Regex.HasGlobal source ∨ Regex.IsStray source)) : called.1 = first := by
    rw [← Regex.replacesAll_iff, Bool.not_eq_true] at h
    rw [hcalled, h]
    exact regex.replace_false text replacement
  refine ⟨congrArg Prod.snd hcalled, hevery, hfirst, ?_⟩
  constructor
  · rintro ⟨-, hothers⟩
    by_cases hstray : Regex.IsStray source
    · have hno : ¬Regex.HasGlobal source := by
        rintro ⟨pattern, flags, hliteral, -⟩
        rw [hstray.1] at hliteral
        cases hliteral
      exact Or.inr ((hevery (Or.inr hstray)).symm.trans (hothers hno))
    · exact Or.inl hstray
  · intro h
    refine ⟨fun hglobal ↦ hevery (Or.inl hglobal), fun hno ↦ ?_⟩
    by_cases hstray : Regex.IsStray source
    · exact (hevery (Or.inr hstray)).trans (h.resolve_left (not_not_intro hstray))
    · exact hfirst (not_or.mpr ⟨hno, hstray⟩)

theorem Engine.plugins_of_build {b : Blueprint} (hstandard : b.withStandard = true)
    (hdefinitions : b.definitions = []) {e : Engine} (h : Engine.build b = .ok e) :
    e.plugins = b.plugins?.getD (.standard b.config.regexSizeLimit b.explain) := by
  obtain ⟨scopes, registry, -, -, rfl⟩ := (build_eq_ok_iff hstandard hdefinitions).mp h
  rfl

/-- A literal with a slash in its pattern and two flags. -/
theorem Engine.replaces_every_match_inner_slash :
    let place : Span := ⟨⟨0, 1, 1⟩, ⟨0, 1, 1⟩⟩
    let plain := Statement.plain place
    let args := ["a/a a/a", "/a/a/mg", "x"].map plain
    ∃ e : Engine, e.Standard ∧
      ∃ c : BoundCall (e.env (.patient {})) {} (plain "regexreplace") args place,
        c.definition.id = "regexreplace" ∧ c.resolved.2.isRunning = true ∧
        ((e.env (.patient {})).services.plugins.regex "/a/a/mg").toBool = true ∧
        Regex.HasGlobal "/a/a/mg" ∧
        ((e.env (.patient {})).eval (.mk [.call (plain "regexreplace") args place] place) {}).1 =
          "x x" := by
  intro place plain args
  obtain ⟨e, hbuild, he⟩ := exists_standard (b := {}) rfl rfl Scopes.exists_ofProviders_standard
  have hbuilder : (e.env (.patient {})).services.plugins.regex =
      Regex.build Regex.unreadable 65536 :=
    congrArg Plugins.regex (plugins_of_build rfl rfl hbuild)
  have hcalls : 0 < ({} : Limits).maxCalls := by decide
  have hdepth : 0 < ({} : Limits).maxDepth := by decide
  obtain ⟨c, hid, -, -⟩ := he.exists_boundCall args Subtags.declares_regexreplace.mem rfl rfl rfl
    (by decide +kernel : normalize (normalize "regexreplace") ∈ _) hcalls hdepth [] place place
  have hentered := c.isRunning_entered
  have heach := Env.evalEach_plain (e.env (.patient {})) hentered place ["a/a a/a", "/a/a/mg", "x"]
  have hstarts : c.resolved.2.isRunning = true := by
    obtain ⟨description, hsignature⟩ :=
      c.signature_of_declares he Subtags.declares_regexreplace hid
    rw [c.resolved_of_required (hsignature ▸ Subtags.allRequired_regexReplace description), heach]
    exact hentered
  obtain ⟨text, source, replacement, hsame, -, hreplaced⟩ :=
    replaces_every_match_iff he c hid hstarts place
  obtain ⟨htexts, -⟩ := Prod.mk.inj (heach.symm.trans hsame)
  cases htexts
  have hglobal : Regex.HasGlobal "/a/a/mg" :=
    ⟨"a/a", ['m', 'g'], Regex.literal?_eq_some_iff.mpr ⟨rfl, by simp⟩, by simp⟩
  have hrun : ((Regex.build Regex.unreadable 65536 "/a/a/mg").toOption.any fun regex ↦
      decide (regex.replaced "a/a a/a" "x" (regex.found "a/a a/a") = "x x")) = true := by
    decide +kernel
  rw [← hbuilder] at hrun
  cases hregex : (e.env (.patient {})).services.plugins.regex "/a/a/mg" with
  | error _ =>
    rw [hregex] at hrun
    cases hrun
  | ok regex =>
    rw [hregex] at hrun
    have hcalled := (hreplaced regex hregex).2.1 (Or.inl hglobal)
    exact ⟨e, he, c, hid, hstarts, hregex ▸ rfl, hglobal, hcalled.trans (of_decide_eq_true hrun)⟩

/-- A pattern alone has no flags, but its own `g` stands behind its own slash. -/
theorem Engine.replaces_every_match_without_flag :
    ∃ e : Engine, e.Standard ∧ Regex.literal? "/g" = none ∧
      (e.execute "\x7bregexreplace;/g /g;/g;x\x7d" {} []).1.output = "x x" := by
  obtain ⟨e, -, he, hrun⟩ := exists_standard_of_any (b := { providers := [⟨"", .tag⟩] }) rfl rfl
    (p := fun e ↦ decide ((e.execute "\x7bregexreplace;/g /g;/g;x\x7d" {} []).1.output = "x x"))
    (by decide +kernel)
  exact ⟨e, he, by decide, of_decide_eq_true hrun⟩

end BraceScript
