import BraceScript.Proofs.Call.Acceptance
import Mathlib.Order.Bounds.Basic

namespace BraceScript

variable {η : Type}

namespace Binding

/-- The numbers of arguments that some signature accepts. -/
def accepted (signatures : List (Signature η)) : Set Nat :=
  {count | ∃ s ∈ signatures, s.accepts count = true}

section Mismatch

variable {signatures : List (Signature η)} {count : Nat}

theorem find?_eq_none_iff (signatures : List (Signature η)) (count : Nat) :
    signatures.find? (·.accepts count) = none ↔ count ∉ accepted signatures := by
  simp [accepted]

theorem bind_eq_error_iff {args : List Statement} {e : Error} :
    bind signatures args = .error e ↔
      args.length ∉ accepted signatures ∧ mismatch signatures args.length = e := by
  rw [← find?_eq_none_iff, bind]
  cases signatures.find? (·.accepts args.length) with
  | none => simp
  | some s => simp

theorem exists_isLeast_accepted (hsome : signatures ≠ []) :
    ∃ least, (signatures.map Signature.least).min? = some least ∧
      IsLeast (accepted signatures) least := by
  obtain ⟨least, hmin⟩ : ∃ least, (signatures.map Signature.least).min? = some least := by
    rw [← Option.isSome_iff_exists]
    simpa using hsome
  obtain ⟨hmem, hle⟩ := List.min?_eq_some_iff.mp hmin
  obtain ⟨s, hs, rfl⟩ := List.mem_map.mp hmem
  refine ⟨_, hmin, ⟨s, hs, s.accepts_least⟩, ?_⟩
  rintro n ⟨t, ht, haccepts⟩
  have hleast := hle _ (List.mem_map_of_mem ht)
  exact hleast.trans ((t.accepts_iff n).mp haccepts).1

/-- An accepted number below one that is not accepted lies in an interval that ends between them. -/
theorem exists_greatest_of_accepted (hcount : count ∉ accepted signatures) {n : Nat}
    (hn : n ∈ accepted signatures) (hlt : n < count) :
    ∃ g ∈ (signatures.filterMap Signature.greatest?).filter (· < count), n ≤ g := by
  obtain ⟨s, hs, haccepts⟩ := hn
  obtain ⟨hleast, hgreatest⟩ := (s.accepts_iff n).mp haccepts
  have hrefused : s.accepts count = false := by
    apply Bool.eq_false_iff.mpr
    intro hcount'
    exact hcount ⟨s, hs, hcount'⟩
  obtain ⟨g, hg, hgcount⟩ := s.exists_greatest_lt (hleast.trans hlt.le) hrefused
  refine ⟨g, List.mem_filter.mpr ⟨?_, decide_eq_true hgcount⟩, hgreatest g hg⟩
  exact List.mem_filterMap.mpr ⟨s, hs, hg⟩

theorem exists_isGreatest_accepted (hcount : count ∉ accepted signatures) {n : Nat}
    (hn : n ∈ accepted signatures) (hlt : n < count) :
    ∃ greatest, ((signatures.filterMap Signature.greatest?).filter (· < count)).max? = some greatest ∧
      IsGreatest {n ∈ accepted signatures | n < count} greatest := by
  obtain ⟨g, hg, -⟩ := exists_greatest_of_accepted hcount hn hlt
  obtain ⟨greatest, hmax⟩ := Option.isSome_iff_exists.mp (List.isSome_max?_of_mem hg)
  obtain ⟨hmem, hle⟩ := List.max?_eq_some_iff.mp hmax
  obtain ⟨hgreatest, hbelow⟩ := List.mem_filter.mp hmem
  obtain ⟨s, hs, hs'⟩ := List.mem_filterMap.mp hgreatest
  refine ⟨greatest, hmax, ⟨⟨s, hs, s.accepts_greatest hs'⟩, of_decide_eq_true hbelow⟩, ?_⟩
  rintro m ⟨hm, hmcount⟩
  obtain ⟨g', hg', hle'⟩ := exists_greatest_of_accepted hcount hm hmcount
  exact hle'.trans (hle g' hg')

theorem mismatch_below (hsome : signatures ≠ []) (h : ∀ n ∈ accepted signatures, count < n) :
    ∃ least, IsLeast (accepted signatures) least ∧
      mismatch signatures count = .notEnoughArguments least count := by
  obtain ⟨least, hmin, hleast⟩ := exists_isLeast_accepted hsome
  refine ⟨least, hleast, ?_⟩
  simp only [mismatch, hmin, Option.getD_some]
  exact if_pos (h least hleast.1)

theorem mismatch_above (hcount : count ∉ accepted signatures) {n : Nat}
    (hn : n ∈ accepted signatures) (hle : n ≤ count) :
    ∃ greatest, IsGreatest {n ∈ accepted signatures | n < count} greatest ∧
      mismatch signatures count = .tooManyArguments greatest count := by
  have hsome : signatures ≠ [] := by
    rintro rfl
    obtain ⟨s, hs, -⟩ := hn
    cases hs
  have hne : n ≠ count := by
    rintro rfl
    exact hcount hn
  obtain ⟨least, hmin, hleast⟩ := exists_isLeast_accepted hsome
  -- Some interval ends below the number, so that the error never falls back on the least one.
  obtain ⟨greatest, hmax, hgreatest⟩ := exists_isGreatest_accepted hcount hn (by omega)
  refine ⟨greatest, hgreatest, ?_⟩
  have hbound : least ≤ n := hleast.2 hn
  simp only [mismatch, hmin, hmax, Option.getD_some]
  exact if_neg (by omega)

/-- Binding fails just if no signature accepts the number of arguments. The error names the least of
all accepted numbers if the given one lies below them, and else the greatest one below the given. -/
theorem bind_error_nearest {d : Declaration η} {b : Definition η}
    (hbuilt : Definition.ofDeclaration d = .ok b) (args : List Statement) :
    ((∃ e, bind b.signatures args = .error e) ↔
      ∀ s ∈ b.signatures, s.accepts args.length = false) ∧
    ((∀ count ∈ accepted b.signatures, args.length < count) →
      ∃ least, IsLeast (accepted b.signatures) least ∧
        bind b.signatures args = .error ⟨.noMatchingSignature, "Not enough arguments",
          some (.ofFields [("expected", .int least), ("got", .int args.length)]), none⟩) ∧
    ((∃ e, bind b.signatures args = .error e) →
      (¬∀ count ∈ accepted b.signatures, args.length < count) →
      ∃ greatest, IsGreatest {count ∈ accepted b.signatures | count < args.length} greatest ∧
        bind b.signatures args = .error ⟨.noMatchingSignature, "Too many arguments",
          some (.ofFields [("expected", .int greatest), ("got", .int args.length)]), none⟩) := by
  simp only [bind_eq_error_iff]
  refine ⟨?_, ?_, ?_⟩
  · simp [accepted]
  · intro hbelow
    obtain ⟨least, hleast, herror⟩ :=
      mismatch_below (Definition.signatures_ne_nil hbuilt) hbelow
    exact ⟨least, hleast, fun hmem ↦ Nat.lt_irrefl _ (hbelow _ hmem), herror⟩
  · rintro ⟨-, hcount, -⟩ habove
    push Not at habove
    obtain ⟨n, hn, hle⟩ := habove
    obtain ⟨greatest, hgreatest, herror⟩ := mismatch_above hcount hn hle
    exact ⟨greatest, hgreatest, hcount, herror⟩

end Mismatch

/-- Signatures that accept one, three, four and from seven arguments on. -/
theorem bind_error_nearest_gaps :
    let d := Definition.declared [["a"], ["a", "b", "c", "d?"], ["a", "b", "c", "d", "e", "~f+2"]]
    let args (n : Nat) : List Statement := .replicate n (.mk [] ⟨⟨0, 1, 1⟩, ⟨0, 1, 1⟩⟩)
    ∃ b, Definition.ofDeclaration d = .ok b ∧
      bind b.signatures (args 0) = .error (.notEnoughArguments 1 0) ∧
      bind b.signatures (args 6) = .error (.tooManyArguments 4 6) := by
  intro d args
  obtain ⟨signatures, hcompiled, hnone, haccepted⟩ : ∃ signatures, d.compiled = .ok signatures ∧
      Definition.ambiguity? 0 signatures = none ∧ ∀ n ≤ 6,
        (signatures.any (·.accepts n) = true ↔ n = 1 ∨ n = 3 ∨ n = 4) :=
    ⟨_, rfl, rfl, by decide⟩
  obtain ⟨b, hb, rfl⟩ := Definition.ofDeclaration_of_pairwise (List.cons_ne_nil _ _) hcompiled
    ((Definition.ambiguity?_eq_none_iff 0 signatures).mp hnone)
  have hmem (n : Nat) (hn : n ≤ 6) : n ∈ accepted b.signatures ↔ n = 1 ∨ n = 3 ∨ n = 4 := by
    rw [← haccepted n hn, List.any_eq_true]
    rfl
  refine ⟨b, hb, ?_, ?_⟩
  · have hbelow : ∀ n ∈ accepted b.signatures, (args 0).length < n := by
      intro n hn
      apply Nat.pos_of_ne_zero
      rintro rfl
      simpa using (hmem 0 (by decide)).mp hn
    obtain ⟨least, hleast, herror⟩ := (bind_error_nearest hb (args 0)).2.1 hbelow
    have hpos : 0 < least := hbelow least hleast.1
    have hone : least ≤ 1 := hleast.2 ((hmem 1 (by decide)).mpr (by decide))
    obtain rfl : least = 1 := by omega
    exact herror
  · have hsix : ∃ e, bind b.signatures (args 6) = .error e := by
      have hnot : (args 6).length ∉ accepted b.signatures := (hmem 6 (by decide)).not.mpr (by decide)
      exact ⟨_, bind_eq_error_iff.mpr ⟨hnot, rfl⟩⟩
    have hfour : 4 ∈ accepted b.signatures := (hmem 4 (by decide)).mpr (by decide)
    obtain ⟨greatest, hgreatest, herror⟩ := (bind_error_nearest hb (args 6)).2.2 hsix
      fun hbelow ↦ absurd (hbelow 4 hfour) (by decide)
    have hlt : greatest < 6 := hgreatest.1.2
    have hle : 4 ≤ greatest := hgreatest.2 ⟨hfour, by decide⟩
    have hcases := (hmem greatest hlt.le).mp hgreatest.1.1
    obtain rfl : greatest = 4 := by omega
    exact herror

end Binding

end BraceScript
