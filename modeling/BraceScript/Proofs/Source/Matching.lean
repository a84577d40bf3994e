import BraceScript.Proofs.Source.Masking

namespace BraceScript.Braces

/-- Matches the braces of `text`, which starts at byte `i`, when the braces at the given bytes are
open before it, innermost first: the pairs, and the braces that are still open at the end. -/
def matchFrom : Nat → List Nat → List Char → List (Nat × Nat) × List Nat
  | _, opens, [] => ([], opens)
  | i, opens, c :: text =>
    if c = opening then matchFrom (i + 1) (i :: opens) text
    else if c = closing then
      match opens with
      | [] => matchFrom (i + 1) [] text
      | j :: opens =>
        ((j, i) :: (matchFrom (i + 1) opens text).1, (matchFrom (i + 1) opens text).2)
    else matchFrom (i + c.utf8Size) opens text

/-- The braces of `source` that match each other. -/
def pairs (source : String) : List (Nat × Nat) := (matchFrom 0 [] source.toList).1

def unclosed (source : String) : List Nat := (matchFrom 0 [] source.toList).2

def pairsAround (source : String) (i : Nat) : Nat :=
  (pairs source).countP fun p ↦ p.1 < i ∧ i < p.2

/-- The number of never closed braces before byte `i`. -/
def unclosedBefore (source : String) (i : Nat) : Nat := (unclosed source).countP (· < i)

section

variable (i j : Nat) (opens : List Nat) (text : List Char)

@[simp] theorem matchFrom_nil : matchFrom i opens [] = ([], opens) := rfl

theorem matchFrom_opening :
    matchFrom i opens (opening :: text) = matchFrom (i + 1) (i :: opens) text := by
  simp [matchFrom]

theorem matchFrom_stray : matchFrom i [] (closing :: text) = matchFrom (i + 1) [] text := by
  simp [matchFrom, closing_ne_opening]

theorem matchFrom_closing :
    matchFrom i (j :: opens) (closing :: text) =
      ((j, i) :: (matchFrom (i + 1) opens text).1, (matchFrom (i + 1) opens text).2) := by
  simp [matchFrom, closing_ne_opening]

theorem matchFrom_other {c : Char} (ho : c ≠ opening) (hc : c ≠ closing) :
    matchFrom i opens (c :: text) = matchFrom (i + c.utf8Size) opens text := by
  simp [matchFrom, ho, hc]

theorem matchFrom_masked : matchFrom i opens (masked :: text) = matchFrom (i + 1) opens text :=
  matchFrom_other i opens text masked_ne_opening masked_ne_closing

end

def width : List Char → Nat
  | [] => 0
  | c :: text => c.utf8Size + width text

@[simp] theorem width_nil : width [] = 0 := rfl

@[simp] theorem width_cons (c : Char) (text : List Char) :
    width (c :: text) = c.utf8Size + width text := rfl

@[simp] theorem width_append (u v : List Char) : width (u ++ v) = width u + width v := by
  induction u with
  | nil => simp
  | cons c u ih => rw [List.cons_append, width_cons, ih, width_cons, Nat.add_assoc]

@[simp] theorem width_toList (s : String) : width s.toList = s.utf8ByteSize := by
  have h (text : List Char) : width text = (String.ofList text).utf8ByteSize := by
    induction text with
    | nil => rfl
    | cons c text ih => rw [width_cons, ih, String.ofList_cons, String.utf8ByteSize_append,
        String.utf8ByteSize_singleton]
  rw [h, String.ofList_toList]

theorem utf8Size_opening : opening.utf8Size = 1 := rfl

theorem utf8Size_closing : closing.utf8Size = 1 := rfl

theorem matchFrom_append (i : Nat) (opens : List Nat) (u v : List Char) :
    matchFrom i opens (u ++ v) =
      ((matchFrom i opens u).1 ++ (matchFrom (i + width u) (matchFrom i opens u).2 v).1,
        (matchFrom (i + width u) (matchFrom i opens u).2 v).2) := by
  fun_induction matchFrom i opens u with
  | case1 i opens => simp
  | case2 i opens u ih =>
    rw [List.cons_append, matchFrom_opening, ih, width_cons, utf8Size_opening, Nat.add_assoc]
  | case3 i u _ ih =>
    rw [List.cons_append, matchFrom_stray, ih, width_cons, utf8Size_closing, Nat.add_assoc]
  | case4 i u _ j opens ih =>
    rw [List.cons_append, matchFrom_closing, ih, width_cons, utf8Size_closing, Nat.add_assoc,
      List.cons_append]
  | case5 i opens c u ho hc ih =>
    rw [List.cons_append, matchFrom_other _ _ _ ho hc, ih, width_cons, Nat.add_assoc]

theorem snd_mem_bounds {i : Nat} {opens : List Nat} {text : List Char} {p : Nat × Nat}
    (hp : p ∈ (matchFrom i opens text).1) : i ≤ p.2 ∧ p.2 < i + width text := by
  fun_induction matchFrom i opens text with
  | case1 => simp at hp
  | case2 i opens text ih =>
    have h := ih hp
    rw [width_cons, utf8Size_opening]
    omega
  | case3 i text _ ih =>
    have h := ih hp
    rw [width_cons, utf8Size_closing]
    omega
  | case4 i text _ j opens ih =>
    rw [width_cons, utf8Size_closing]
    rcases List.mem_cons.mp hp with rfl | hp
    · omega
    · have h := ih hp
      omega
  | case5 i opens c text _ _ ih =>
    have h := ih hp
    rw [width_cons]
    omega

theorem left_lt {i : Nat} {opens : List Nat} {text : List Char} (ho : ∀ a ∈ opens, a < i) {a : Nat}
    (ha : a ∈ (matchFrom i opens text).2) : a < i + width text := by
  fun_induction matchFrom i opens text with
  | case1 => exact ho a ha
  | case2 i opens text ih =>
    rw [width_cons, ← Nat.add_assoc]
    exact ih (List.forall_mem_cons.mpr ⟨i.lt_succ_self, fun b hb ↦ Nat.lt_succ_of_lt (ho b hb)⟩) ha
  | case3 i text _ ih =>
    rw [width_cons, ← Nat.add_assoc]
    exact ih (by simp) ha
  | case4 i text _ j opens ih =>
    rw [width_cons, ← Nat.add_assoc]
    exact ih (fun b hb ↦ Nat.lt_succ_of_lt (ho b (List.mem_cons_of_mem _ hb))) ha
  | case5 i opens c text _ _ ih =>
    rw [width_cons, ← Nat.add_assoc]
    exact ih (fun b hb ↦ Nat.lt_add_right _ (ho b hb)) ha

/-- Of the braces open before a text, those before byte `k` are closed by it or stay open. -/
theorem countP_opens {i k : Nat} (hk : k ≤ i) (opens : List Nat) (text : List Char) :
    opens.countP (· < k) =
      (matchFrom i opens text).1.countP (·.1 < k) + (matchFrom i opens text).2.countP (· < k) := by
  fun_induction matchFrom i opens text with
  | case1 => simp
  | case2 i opens text ih =>
    rw [← ih (by omega), List.countP_cons_of_neg (by simpa using hk)]
  | case3 i text _ ih => exact ih (by omega)
  | case4 i text _ j opens ih =>
    have h := ih (by omega)
    rw [List.countP_cons, List.countP_cons, h]
    dsimp only
    omega
  | case5 i opens c text _ _ ih => exact ih (by omega)

/-- The braces open before an opening brace are those of the pairs around it and those that are
never closed. -/
theorem length_opens {source : String} {u v : List Char} (h : source.toList = u ++ opening :: v) :
    (matchFrom 0 [] u).2.length =
      pairsAround source (width u) + unclosedBefore source (width u) := by
  have hsplit := matchFrom_append 0 [] u (opening :: v)
  rw [← h, Nat.zero_add, matchFrom_opening] at hsplit
  have hopens : ∀ a ∈ (matchFrom 0 [] u).2, a < width u := by
    intro a ha
    simpa using left_lt (by simp) ha
  have hcount := countP_opens (Nat.le_succ (width u)) (width u :: (matchFrom 0 [] u).2) v
  rw [List.countP_cons_of_neg (by simp), List.countP_eq_length.mpr (by simpa using hopens)] at hcount
  -- The pairs of `u` end before the brace, and all later pairs end after it.
  have hu : (matchFrom 0 [] u).1.countP (fun p ↦ p.1 < width u ∧ width u < p.2) = 0 := by
    rw [List.countP_eq_zero]
    intro p hp
    have hb := snd_mem_bounds hp
    simp
    omega
  have hv : ∀ p ∈ (matchFrom (width u + 1) (width u :: (matchFrom 0 [] u).2) v).1,
      (decide (p.1 < width u ∧ width u < p.2) = true ↔ decide (p.1 < width u) = true) := by
    intro p hp
    have hb := snd_mem_bounds hp
    simp
    omega
  rw [hcount, pairsAround, unclosedBefore, pairs, unclosed, hsplit, List.countP_append, hu,
    List.countP_congr hv, Nat.zero_add]

def survivors : List Nat → List Bool → List Nat
  | i :: opens, stays :: fates => if stays then i :: survivors opens fates else survivors opens fates
  | _, _ => []

/-- `keep` says of a brace whether less than the limit are open before it, both for the braces open
before the text and for those in it. -/
structure KeepsWithin (keep : Nat → Bool) (i : Nat) (opens : List Nat) (text : List Char) :
    Prop where
  before : ∀ a rest, a :: rest <:+ opens → keep a = decide (rest.length < maxNesting)
  inside : ∀ u v, text = u ++ opening :: v →
    keep (i + width u) = decide ((matchFrom i opens u).2.length < maxNesting)

namespace KeepsWithin

variable {keep : Nat → Bool} {i : Nat} {opens opens' : List Nat} {c : Char} {text : List Char}

theorem tail (h : KeepsWithin keep i opens (c :: text))
    (hm : ∀ u, (matchFrom i opens (c :: u)).2 = (matchFrom (i + c.utf8Size) opens' u).2)
    (hb : ∀ a rest, a :: rest <:+ opens' → keep a = decide (rest.length < maxNesting)) :
    KeepsWithin keep (i + c.utf8Size) opens' text where
  before := hb
  inside := by
    intro u v huv
    have hkeep := h.inside (c :: u) v (by rw [huv, List.cons_append])
    rwa [width_cons, ← Nat.add_assoc, hm] at hkeep

theorem head (h : KeepsWithin keep i opens (opening :: text)) :
    keep i = decide (opens.length < maxNesting) := h.inside [] text rfl

theorem opened (h : KeepsWithin keep i opens (opening :: text)) :
    KeepsWithin keep (i + 1) (i :: opens) text := by
  refine h.tail (fun u ↦ by rw [matchFrom_opening]; rfl) ?_
  intro a rest hs
  rcases List.suffix_cons_iff.mp hs with he | hs
  · cases he
    exact h.head
  · exact h.before a rest hs

theorem stray (h : KeepsWithin keep i [] (closing :: text)) : KeepsWithin keep (i + 1) [] text :=
  h.tail (fun u ↦ by rw [matchFrom_stray]; rfl) (by simp)

theorem closed {j : Nat} (h : KeepsWithin keep i (j :: opens) (closing :: text)) :
    KeepsWithin keep (i + 1) opens text :=
  h.tail (fun u ↦ by rw [matchFrom_closing]; rfl)
    fun a rest hs ↦ h.before a rest (hs.trans (List.suffix_cons j opens))

theorem other (h : KeepsWithin keep i opens (c :: text)) (ho : c ≠ opening) (hc : c ≠ closing) :
    KeepsWithin keep (i + c.utf8Size) opens text :=
  h.tail (fun u ↦ by rw [matchFrom_other _ _ _ ho hc]) h.before

end KeepsWithin

/-- The pairs of the masked text are those pairs of the text itself that `keep` keeps. -/
theorem MaskRun.pairs_eq {text shapes : List Char} {stack fates : List Bool} {depth : Nat}
    (h : MaskRun text stack depth shapes fates) {keep : Nat → Bool} {i : Nat} {opens : List Nat}
    (hk : KeepsWithin keep i opens text) (hs : stack = opens.map keep)
    (hd : depth = min opens.length maxNesting) :
    (matchFrom i (survivors opens fates) shapes).1 =
      (matchFrom i opens text).1.filter fun p ↦ keep p.1 := by
  induction h generalizing i opens with
  | nil => rfl
  | @opened text shapes stack fates depth kept stays hkept _ ih =>
    -- The depth stops at the limit, so it answers for the number of open braces.
    have hkeep : kept = keep i := by
      rw [hkept, hk.head, hd]
      congr 1
      exact propext (by omega)
    have hdepth : (if kept then depth + 1 else depth) = min (i :: opens).length maxNesting := by
      rw [hkept, List.length_cons]
      simp only [decide_eq_true_eq]
      split <;> omega
    have hpairs := ih hk.opened (by rw [hkeep, hs, List.map_cons]) hdepth
    rw [matchFrom_opening, ← hpairs]
    cases stays
    · exact congrArg Prod.fst (matchFrom_masked ..)
    · exact congrArg Prod.fst (matchFrom_opening ..)
  | @stray text shapes fates depth _ ih =>
    obtain rfl : opens = [] := List.map_eq_nil_iff.mp hs.symm
    rw [matchFrom_stray, matchFrom_masked]
    exact ih hk.stray hs hd
  | @closed text shapes stack fates depth kept _ ih =>
    cases opens with
    | nil => simp at hs
    | cons j opens =>
      obtain ⟨hkeep, hs⟩ := List.cons.inj hs
      have hj := hk.before j opens (List.suffix_refl _)
      have hdepth : (if kept then depth - 1 else depth) = min opens.length maxNesting := by
        rw [hkeep, hj, hd, List.length_cons]
        simp only [decide_eq_true_eq]
        split <;> omega
      have hpairs := ih hk.closed hs hdepth
      rw [matchFrom_closing, List.filter_cons, ← hpairs, ← hkeep]
      cases kept
      · exact congrArg Prod.fst (matchFrom_masked ..)
      · exact congrArg Prod.fst (matchFrom_closing ..)
  | @other c text shapes stack fates depth ho hc _ ih =>
    rw [matchFrom_other _ _ _ ho hc, matchFrom_other _ _ _ ho hc]
    exact ih (hk.other ho hc) hs hd

/-- A pair survives masking if and only if less than the limit are open before it, counting the
braces that are never closed. -/
theorem mem_matchFrom_mask {source : String} {i j : Nat} :
    (i, j) ∈ (matchFrom 0 [] (mask source.toList)).1 ↔
      (i, j) ∈ pairs source ∧ pairsAround source i + unclosedBefore source i < maxNesting := by
  let keep (i : Nat) : Bool := decide (pairsAround source i + unclosedBefore source i < maxNesting)
  have hk : KeepsWithin keep 0 [] source.toList := by
    refine ⟨by simp, fun u v huv ↦ ?_⟩
    rw [length_opens huv, Nat.zero_add]
  have h := (mask_run source.toList).pairs_eq hk rfl (by simp)
  change (matchFrom 0 [] (mask source.toList)).1 = _ at h
  rw [h, List.mem_filter, pairs]
  simp [keep]

end BraceScript.Braces
