import BraceScript.Proofs.Call.Distribution
import BraceScript.Proofs.Run.Standard
import Mathlib.Data.List.Pairwise
import Mathlib.Data.List.Perm.Basic
import Mathlib.Data.Prod.Lex

namespace BraceScript

variable {η : Type}

namespace Signature

variable {s t : Signature η}

theorem accepts_iff (s : Signature η) (count : Nat) :
    s.accepts count = true ↔ s.least ≤ count ∧ ∀ g, s.greatest? = some g → count ≤ g := by
  simp [accepts, Option.all_eq_true]

theorem overlaps_iff (s t : Signature η) :
    s.overlaps t = true ↔ ∃ count, s.accepts count = true ∧ t.accepts count = true := by
  simp only [overlaps, Bool.and_eq_true, Option.all_eq_true, decide_eq_true_eq, accepts_iff]
  constructor
  · rintro ⟨hs, ht⟩
    exact ⟨max s.least t.least, ⟨Nat.le_max_left _ _, hs⟩, Nat.le_max_right _ _, ht⟩
  · rintro ⟨count, ⟨hs, hs'⟩, ht, ht'⟩
    have hle : max s.least t.least ≤ count := Nat.max_le.mpr ⟨hs, ht⟩
    exact ⟨fun g hg ↦ hle.trans (hs' g hg), fun g hg ↦ hle.trans (ht' g hg)⟩

def Apart (s t : Signature η) : Prop := s.overlaps t = false

theorem apart_iff : Apart s t ↔ ∀ count, s.accepts count = true → t.accepts count = false := by
  rw [Apart, ← Bool.not_eq_true, overlaps_iff]
  simp

theorem Apart.symm (h : Apart s t) : Apart t s := by
  rw [apart_iff] at h ⊢
  intro count ht
  apply Bool.eq_false_iff.mpr
  intro hs
  rw [h count hs] at ht
  cases ht

instance : Std.Symm (Apart (η := η)) := ⟨fun _ _ h ↦ h.symm⟩

theorem least_le_of_greatest? {g : Nat} (h : s.greatest? = some g) : s.least ≤ g := by
  unfold greatest? at h
  split at h
  · cases h
  · rename_i hnone
    cases h
    have hall : ∀ p ∈ s.parameters, p.repeat?.isSome = false := by simpa using hnone
    have hlength := Binding.demand_of_unrepeated hall
    have hleast := Binding.least_eq_demand s
    omega

theorem accepts_least (s : Signature η) : s.accepts s.least = true :=
  (s.accepts_iff _).mpr ⟨Nat.le_refl _, fun _ hg ↦ least_le_of_greatest? hg⟩

theorem accepts_greatest {g : Nat} (h : s.greatest? = some g) : s.accepts g = true := by
  rw [accepts_iff, h]
  refine ⟨least_le_of_greatest? h, ?_⟩
  rintro _ ⟨⟩
  exact Nat.le_refl _

theorem exists_greatest_lt {count : Nat} (hleast : s.least ≤ count)
    (hrefused : s.accepts count = false) : ∃ g, s.greatest? = some g ∧ g < count := by
  by_contra! hnone
  have haccepts := (s.accepts_iff count).mpr ⟨hleast, hnone⟩
  rw [hrefused] at haccepts
  cases haccepts

end Signature

namespace Definition

/-- The signatures at two different places accept a number in common. -/
def Clash (signatures : List (Signature η)) (i j : Nat) : Prop :=
  i ≠ j ∧ ∃ s t count, signatures[i]? = some s ∧ signatures[j]? = some t ∧
    s.accepts count = true ∧ t.accepts count = true

section Clash

variable {s : Signature η} {signatures rest : List (Signature η)} {i j : Nat}

theorem Clash.symm (h : Clash signatures i j) : Clash signatures j i := by
  obtain ⟨hne, s, t, count, hi, hj, hs, ht⟩ := h
  exact ⟨hne.symm, t, s, count, hj, hi, ht, hs⟩

theorem clash_succ : Clash (s :: rest) (i + 1) (j + 1) ↔ Clash rest i j := by
  simp [Clash]

theorem clash_zero :
    Clash (s :: rest) 0 (j + 1) ↔ ∃ t, rest[j]? = some t ∧ s.overlaps t = true := by
  simp [Clash, Signature.overlaps_iff]

theorem not_clash_of_pairwise (h : signatures.Pairwise Signature.Apart) (i j : Nat) :
    ¬Clash signatures i j := by
  have hordered {i j : Nat} (hlt : i < j) : ¬Clash signatures i j := by
    rintro ⟨-, s, t, count, hi, hj, hs, ht⟩
    obtain ⟨hi', rfl⟩ := List.getElem?_eq_some_iff.mp hi
    obtain ⟨hj', rfl⟩ := List.getElem?_eq_some_iff.mp hj
    have hapart := Signature.apart_iff.mp (List.pairwise_iff_getElem.mp h i j hi' hj' hlt)
    rw [hapart count hs] at ht
    cases ht
  intro hclash
  rcases Nat.lt_or_gt_of_ne hclash.1 with hlt | hgt
  · exact hordered hlt hclash
  · exact hordered hgt hclash.symm

theorem firstOverlap?_eq (s : Signature η) (i : Nat) (rest : List (Signature η)) :
    firstOverlap? s i rest = (rest.findIdx? s.overlaps).map (i + ·) := by
  induction rest generalizing i with
  | nil => rfl
  | cons t rest ih =>
    rw [firstOverlap?, List.findIdx?_cons, ih]
    split
    · rfl
    · rw [Option.map_map]
      congr 1
      funext j
      simp only [Function.comp_apply]
      omega

theorem ambiguity?_eq_none_iff (k : Nat) (signatures : List (Signature η)) :
    ambiguity? k signatures = none ↔ signatures.Pairwise Signature.Apart := by
  induction signatures generalizing k with
  | nil => simp [ambiguity?]
  | cons s rest ih =>
    rw [ambiguity?, firstOverlap?_eq, List.pairwise_cons]
    cases hfirst : rest.findIdx? s.overlaps with
    | none =>
      have hrest := List.findIdx?_eq_none_iff.mp hfirst
      exact (ih (k + 1)).trans ⟨fun h ↦ ⟨hrest, h⟩, And.right⟩
    | some b =>
      obtain ⟨hb, hoverlaps, -⟩ := List.findIdx?_eq_some_iff_getElem.mp hfirst
      refine iff_of_false (Option.some_ne_none _) ?_
      rintro ⟨hapart, -⟩
      rw [hapart _ (List.getElem_mem hb)] at hoverlaps
      cases hoverlaps

/-- No pair of signatures with a number in common comes before this one. -/
structure FirstClash (signatures : List (Signature η)) (i j : Nat) : Prop where
  clash : Clash signatures i j
  first : ∀ k l, Clash signatures k l → toLex (i, j) ≤ toLex (k, l)

theorem firstClash_zero {b : Nat} (h : rest.findIdx? s.overlaps = some b) :
    FirstClash (s :: rest) 0 (b + 1) := by
  obtain ⟨hb, hoverlaps, hfirst⟩ := List.findIdx?_eq_some_iff_getElem.mp h
  refine ⟨clash_zero.mpr ⟨_, List.getElem?_eq_getElem hb, hoverlaps⟩, ?_⟩
  intro k l hclash
  rw [Prod.Lex.toLex_le_toLex]
  cases k with
  | succ k => exact Or.inl (Nat.succ_pos k)
  | zero =>
    cases l with
    | zero => exact absurd rfl hclash.1
    | succ l =>
      obtain ⟨t, hl, ht⟩ := clash_zero.mp hclash
      obtain ⟨hl, rfl⟩ := List.getElem?_eq_some_iff.mp hl
      refine Or.inr ⟨rfl, ?_⟩
      by_contra hlt
      exact hfirst l (by simpa using hlt) ht

theorem FirstClash.cons (h : FirstClash rest i j) (hs : ∀ t ∈ rest, s.overlaps t = false) :
    FirstClash (s :: rest) (i + 1) (j + 1) := by
  have hnone (l : Nat) : ¬Clash (s :: rest) 0 (l + 1) := by
    intro hclash
    obtain ⟨t, hl, ht⟩ := clash_zero.mp hclash
    rw [hs t (List.mem_of_getElem? hl)] at ht
    cases ht
  refine ⟨clash_succ.mpr h.clash, ?_⟩
  intro k l hclash
  -- The new signature is in no pair, on either side.
  cases k with
  | zero =>
    cases l with
    | zero => exact absurd rfl hclash.1
    | succ l => exact absurd hclash (hnone l)
  | succ k =>
    cases l with
    | zero => exact absurd hclash.symm (hnone k)
    | succ l =>
      have hle := h.first k l (clash_succ.mp hclash)
      rw [Prod.Lex.toLex_le_toLex] at hle ⊢
      simpa using hle

theorem firstClash_of_ambiguity? {k i j : Nat} (h : ambiguity? k signatures = some (i, j)) :
    ∃ a b, i = k + a ∧ j = k + b ∧ FirstClash signatures a b := by
  induction signatures generalizing k with
  | nil => cases h
  | cons s rest ih =>
    rw [ambiguity?, firstOverlap?_eq] at h
    cases hfirst : rest.findIdx? s.overlaps with
    | none =>
      rw [hfirst] at h
      obtain ⟨a, b, rfl, rfl, hab⟩ := ih h
      have hrest := List.findIdx?_eq_none_iff.mp hfirst
      exact ⟨a + 1, b + 1, by omega, by omega, hab.cons hrest⟩
    | some b =>
      rw [hfirst] at h
      obtain ⟨rfl, rfl⟩ : k = i ∧ k + 1 + b = j := by simpa using h
      exact ⟨0, b + 1, by omega, by omega, firstClash_zero hfirst⟩

end Clash

end Definition

def Declaration.compiled (d : Declaration η) : Except BuildError (List (Signature η)) :=
  d.signatures.mapM fun declared ↦ Signature.compile declared.1 declared.2.1 declared.2.2

theorem mapM_eq_ok_iff {ε α β : Type} {f : α → Except ε β} {xs : List α} {ys : List β} :
    xs.mapM f = .ok ys ↔ List.Forall₂ (fun x y ↦ f x = .ok y) xs ys := by
  induction xs generalizing ys with
  | nil =>
    rw [List.mapM_nil, List.forall₂_nil_left_iff]
    exact ⟨fun h ↦ (Except.ok.inj h).symm, fun h ↦ congrArg Except.ok h.symm⟩
  | cons x xs ih =>
    rw [List.mapM_cons, List.forall₂_cons_left_iff]
    constructor
    · intro h
      obtain ⟨y, hy, h⟩ := exists_of_bind_eq_ok h
      obtain ⟨zs, hzs, h⟩ := exists_of_bind_eq_ok h
      exact ⟨y, zs, hy, ih.mp hzs, (Except.ok.inj h).symm⟩
    · rintro ⟨y, zs, hy, hzs, rfl⟩
      rw [hy, ih.mpr hzs]
      rfl

namespace Definition

section Built

variable {d : Declaration η} {b : Definition η} {signatures : List (Signature η)}

theorem ofDeclaration_eq (hsome : d.signatures ≠ []) (hcompiled : d.compiled = .ok signatures) :
    ofDeclaration d = (ambiguity? 0 signatures).elim
      (.ok ⟨Text.lower d.id, d.aliases.map Text.lower, d.category, d.description, signatures, d.family⟩)
      fun pair ↦ .error (.ambiguousSignatures (Text.lower d.id) pair.1 pair.2) := by
  have hempty : ¬d.signatures.isEmpty = true := by simpa using hsome
  change (if d.signatures.isEmpty = true then _ else d.compiled >>= _) = _
  rw [if_neg hempty, hcompiled]
  dsimp only [bind, Except.bind]
  cases ambiguity? 0 signatures with
  | none => rfl
  | some pair => rfl

theorem ofDeclaration_of_pairwise (hsome : d.signatures ≠ [])
    (hcompiled : d.compiled = .ok signatures) (h : signatures.Pairwise Signature.Apart) :
    ∃ b, ofDeclaration d = .ok b ∧ b.signatures = signatures := by
  rw [ofDeclaration_eq hsome hcompiled, (ambiguity?_eq_none_iff 0 signatures).mpr h]
  exact ⟨_, rfl, rfl⟩

theorem compiled_of_built (h : ofDeclaration d = .ok b) :
    d.signatures ≠ [] ∧ d.compiled = .ok b.signatures ∧ b.signatures.Pairwise Signature.Apart := by
  obtain ⟨signatures, hcompiled, rfl⟩ := eq_of_declaration h
  have hsome : d.signatures ≠ [] := by
    intro hnil
    simp [ofDeclaration, hnil] at h
  refine ⟨hsome, hcompiled, (ambiguity?_eq_none_iff 0 signatures).mp ?_⟩
  rw [ofDeclaration_eq hsome hcompiled] at h
  cases hfirst : ambiguity? 0 signatures with
  | none => rfl
  | some pair =>
    rw [hfirst] at h
    cases h

theorem signatures_ne_nil (h : ofDeclaration d = .ok b) : b.signatures ≠ [] := by
  obtain ⟨hsome, hcompiled, -⟩ := compiled_of_built h
  have hlength := (mapM_eq_ok_iff.mp hcompiled).length_eq
  intro hnil
  rw [hnil] at hlength
  exact hsome (List.eq_nil_of_length_eq_zero hlength)

theorem firstClash_of_error (hsome : d.signatures ≠ []) (hcompiled : d.compiled = .ok signatures)
    {id : String} {i j : Nat} (h : ofDeclaration d = .error (.ambiguousSignatures id i j)) :
    FirstClash signatures i j := by
  rw [ofDeclaration_eq hsome hcompiled] at h
  cases hpair : ambiguity? 0 signatures with
  | none =>
    rw [hpair] at h
    cases h
  | some pair =>
    rw [hpair] at h
    cases h
    obtain ⟨a, b, ha, hb, hab⟩ := firstClash_of_ambiguity? hpair
    rwa [ha, hb, Nat.zero_add, Nat.zero_add]

theorem exists_error_of_clash (hsome : d.signatures ≠ []) (hcompiled : d.compiled = .ok signatures)
    {i j : Nat} (h : Clash signatures i j) :
    ∃ id k l, ofDeclaration d = .error (.ambiguousSignatures id k l) := by
  rw [ofDeclaration_eq hsome hcompiled]
  cases hpair : ambiguity? 0 signatures with
  | none =>
    have hapart := (ambiguity?_eq_none_iff 0 signatures).mp hpair
    exact absurd h (not_clash_of_pairwise hapart i j)
  | some pair => exact ⟨_, _, _, rfl⟩

theorem compiled_perm (hcompiled : d.compiled = .ok signatures)
    {order : List (List String × String × η)} (hperm : order.Perm d.signatures) :
    ∃ signatures', Declaration.compiled { d with signatures := order } = .ok signatures' ∧
      signatures'.Perm signatures := by
  obtain ⟨signatures', hall, hperm'⟩ := List.perm_comp_forall₂ hperm (mapM_eq_ok_iff.mp hcompiled)
  exact ⟨signatures', mapM_eq_ok_iff.mpr hall, hperm'⟩

theorem built_perm (h : ofDeclaration d = .ok b) {order : List (List String × String × η)}
    (hperm : order.Perm d.signatures) :
    ∃ b', ofDeclaration { d with signatures := order } = .ok b' ∧
      b'.signatures.Perm b.signatures := by
  obtain ⟨hsome, hcompiled, hapart⟩ := compiled_of_built h
  obtain ⟨signatures, hcompiled', hperm'⟩ := compiled_perm hcompiled hperm
  have hsome' : order ≠ [] := by
    rintro rfl
    exact hsome hperm.nil_eq.symm
  have hapart' := (hperm'.pairwise_iff Signature.Apart.symm).mpr hapart
  obtain ⟨b', hb', rfl⟩ := ofDeclaration_of_pairwise (d := { d with signatures := order })
    hsome' hcompiled' hapart'
  exact ⟨b', hb', hperm'⟩

end Built

end Definition

namespace Binding

variable {s t : Signature η} {signatures order : List (Signature η)}

theorem eq_of_accepts (h : signatures.Pairwise Signature.Apart) (hs : s ∈ signatures)
    (ht : t ∈ signatures) {count : Nat} (hcount : s.accepts count = true)
    (hcount' : t.accepts count = true) : s = t := by
  by_contra hne
  have hapart := Signature.apart_iff.mp (h.forall hs ht hne) count hcount
  rw [hapart] at hcount'
  cases hcount'

theorem find?_accepts_iff (h : signatures.Pairwise Signature.Apart) (count : Nat) :
    signatures.find? (·.accepts count) = some s ↔ s ∈ signatures ∧ s.accepts count = true := by
  constructor
  · intro hfind
    exact ⟨List.mem_of_find?_eq_some hfind, (List.find?_some hfind :)⟩
  · rintro ⟨hs, hcount⟩
    cases hfind : signatures.find? (·.accepts count) with
    | none => exact absurd hcount (List.find?_eq_none.mp hfind s hs)
    | some t =>
      have ht := List.mem_of_find?_eq_some hfind
      rw [eq_of_accepts h ht hs (List.find?_some hfind :) hcount]

theorem find?_accepts_perm (h : signatures.Pairwise Signature.Apart)
    (hperm : order.Perm signatures) (count : Nat) :
    order.find? (·.accepts count) = signatures.find? (·.accepts count) := by
  have horder := (hperm.pairwise_iff Signature.Apart.symm).mpr h
  ext s
  rw [find?_accepts_iff horder, find?_accepts_iff h, hperm.mem_iff]

theorem mismatch_perm (hperm : order.Perm signatures) (count : Nat) :
    mismatch order count = mismatch signatures count := by
  have hmin : (order.map Signature.least).min? = (signatures.map Signature.least).min? := by
    ext n
    simp only [List.min?_eq_some_iff, (hperm.map Signature.least).mem_iff]
  have hbelow := (hperm.filterMap Signature.greatest?).filter (· < count)
  have hmax : ((order.filterMap Signature.greatest?).filter (· < count)).max? =
      ((signatures.filterMap Signature.greatest?).filter (· < count)).max? := by
    ext n
    simp only [List.max?_eq_some_iff, hbelow.mem_iff]
  simp only [mismatch, hmin, hmax]

theorem bind_perm (h : signatures.Pairwise Signature.Apart) (hperm : order.Perm signatures)
    (args : List Statement) : bind order args = bind signatures args := by
  rw [bind, bind, find?_accepts_perm h hperm, mismatch_perm hperm]

end Binding

namespace Definition

/-- A declaration whose patterns compile is refused for ambiguity just if two signatures accept a
number in common, and the error names the first such pair. So at most one signature of a definition
accepts a number, and declared in another order the signatures bind all arguments alike. -/
theorem unambiguous_signatures (d : Declaration η) :
    (∀ signatures, d.signatures ≠ [] → d.compiled = .ok signatures →
      ((∃ id i j, ofDeclaration d = .error (.ambiguousSignatures id i j)) ↔
        ∃ i j, Clash signatures i j) ∧
      ∀ id i j, ofDeclaration d = .error (.ambiguousSignatures id i j) →
        FirstClash signatures i j) ∧
    ∀ b, ofDeclaration d = .ok b →
      (∀ i j, ¬Clash b.signatures i j) ∧
      ∀ order : List (List String × String × η), order.Perm d.signatures →
        ∃ b', ofDeclaration { d with signatures := order } = .ok b' ∧
          ∀ args, Binding.bind b'.signatures args = Binding.bind b.signatures args := by
  refine ⟨fun signatures hsome hcompiled ↦ ⟨⟨?_, ?_⟩, ?_⟩, fun b hbuilt ↦ ⟨?_, ?_⟩⟩
  · rintro ⟨id, i, j, herror⟩
    exact ⟨i, j, (firstClash_of_error hsome hcompiled herror).clash⟩
  · rintro ⟨i, j, hclash⟩
    exact exists_error_of_clash hsome hcompiled hclash
  · intro id i j herror
    exact firstClash_of_error hsome hcompiled herror
  · exact not_clash_of_pairwise (compiled_of_built hbuilt).2.2
  · intro order hperm
    obtain ⟨b', hb', hperm'⟩ := built_perm hbuilt hperm
    exact ⟨b', hb', Binding.bind_perm (compiled_of_built hbuilt).2.2 hperm'⟩

def declared (signatures : List (List String)) : Declaration Unit :=
  { id := "t", category := .text, signatures := signatures.map (·, "", ()) }

/-- Four signatures of which three pairs have a number in common, and three that are told apart. -/
theorem unambiguous_signatures_three_pairs :
    let d := declared [["a"], ["a", "b", "c"], ["a", "b?"], ["a", "b", "c*"]]
    let d' := declared [[], ["a", "b?"], ["a", "~b+3"]]
    (∃ signatures id, d.compiled = .ok signatures ∧
      ofDeclaration d = .error (.ambiguousSignatures id 0 2) ∧ FirstClash signatures 0 2) ∧
    ∃ b b', ofDeclaration d' = .ok b ∧
      ofDeclaration { d' with signatures := d'.signatures.reverse } = .ok b' ∧
      ∀ args, Binding.bind b'.signatures args = Binding.bind b.signatures args := by
  intro d d'
  constructor
  · obtain ⟨signatures, hcompiled, hpair⟩ : ∃ signatures, d.compiled = .ok signatures ∧
        ambiguity? 0 signatures = some (0, 2) := ⟨_, rfl, rfl⟩
    have hsome : d.signatures ≠ [] := List.cons_ne_nil _ _
    have herror := ofDeclaration_eq hsome hcompiled
    rw [hpair] at herror
    have hfirst := ((unambiguous_signatures d).1 signatures hsome hcompiled).2
    exact ⟨signatures, _, hcompiled, herror, hfirst _ 0 2 herror⟩
  · obtain ⟨signatures, hcompiled, hnone⟩ : ∃ signatures, d'.compiled = .ok signatures ∧
        ambiguity? 0 signatures = none := ⟨_, rfl, rfl⟩
    obtain ⟨b, hb, -⟩ := ofDeclaration_of_pairwise (List.cons_ne_nil _ _) hcompiled
      ((ambiguity?_eq_none_iff 0 signatures).mp hnone)
    obtain ⟨b', hb', hbind⟩ := ((unambiguous_signatures d').2 b hb).2 _ d'.signatures.reverse_perm
    exact ⟨b, b', hb, hb', hbind⟩

end Definition

end BraceScript
