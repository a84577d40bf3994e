import BraceScript.Proofs.Source.Nesting

namespace BraceScript

namespace Braces

theorem mem_left {i : Nat} {opens : List Nat} {text : List Char} {a : Nat}
    (ha : a ∈ (matchFrom i opens text).2) : a ∈ opens ∨ i ≤ a := by
  fun_induction matchFrom i opens text with
  | case1 => exact Or.inl ha
  | case2 i opens text ih =>
    rcases ih ha with ha | ha
    · rcases List.mem_cons.mp ha with rfl | ha
      · exact Or.inr (Nat.le_refl a)
      · exact Or.inl ha
    · exact Or.inr (by omega)
  | case3 i text _ ih =>
    rcases ih ha with ha | ha
    · cases ha
    · exact Or.inr (by omega)
  | case4 i text _ j opens ih =>
    rcases ih ha with ha | ha
    · exact Or.inl (List.mem_cons_of_mem _ ha)
    · exact Or.inr (by omega)
  | case5 i opens c text _ _ ih =>
    rcases ih ha with ha | ha
    · exact Or.inl ha
    · exact Or.inr (by omega)

/-- A text after which brace `i` is the innermost open one leaves the same of any other braces. -/
theorem left_of_head {i : Nat} {ys : List Nat} (hys : ∀ a ∈ ys, a < i) {text : List Char} {k : Nat}
    (xs xs' : List Nat) (hk : i < k) (hxs : ∀ a ∈ xs, i < a)
    (h : (matchFrom k (xs ++ i :: ys) text).2.head? = some i) {k' i' : Nat} {ys' : List Nat}
    (hlength : xs'.length = xs.length) :
    (matchFrom k' (xs' ++ i' :: ys') text).2 = i' :: ys' := by
  induction text generalizing k k' xs xs' with
  | nil =>
    -- A brace after `i` would be the innermost one.
    cases xs with
    | nil =>
      obtain rfl := List.length_eq_zero_iff.mp hlength
      rfl
    | cons x xs =>
      obtain rfl : x = i := by simpa using h
      exact absurd (hxs x List.mem_cons_self) (Nat.lt_irrefl x)
  | cons c text ih =>
    by_cases ho : c = opening
    · subst ho
      rw [matchFrom_opening, ← List.cons_append] at h ⊢
      have hxs' : ∀ a ∈ k :: xs, i < a := List.forall_mem_cons.mpr ⟨hk, hxs⟩
      exact ih (k :: xs) (k' :: xs') (Nat.lt_succ_of_lt hk) hxs' h (congrArg (· + 1) hlength)
    by_cases hc : c = closing
    · subst hc
      cases xs with
      | nil =>
        -- Once brace `i` is closed it is open no more.
        rw [List.nil_append, matchFrom_closing] at h
        rcases mem_left (List.mem_of_head? h) with hmem | hle
        · exact absurd (hys i hmem) (Nat.lt_irrefl i)
        · omega
      | cons x xs =>
        obtain ⟨x', xs', rfl⟩ := List.exists_cons_of_length_eq_add_one hlength
        rw [List.cons_append, matchFrom_closing] at h ⊢
        exact ih xs xs' (Nat.lt_succ_of_lt hk) (fun a ha ↦ hxs a (List.mem_cons_of_mem x ha)) h
          (Nat.succ.inj hlength)
    · rw [matchFrom_other _ _ _ ho hc] at h ⊢
      exact ih xs xs' (by omega) hxs h hlength

theorem mem_pairs_excerpt {before inner after : String}
    (h : (before.utf8ByteSize, before.utf8ByteSize + 1 + inner.utf8ByteSize) ∈
      pairs (before ++ ("\x7b" ++ inner ++ "\x7d") ++ after)) :
    (0, inner.utf8ByteSize + 1) ∈ pairs ("\x7b" ++ inner ++ "\x7d") := by
  have hopen : "\x7b".toList = [opening] := rfl
  have hclose : "\x7d".toList = [closing] := rfl
  have htext : ("\x7b" ++ inner ++ "\x7d").toList = opening :: (inner.toList ++ [closing]) := by
    simp [hopen, hclose]
  have hsource : (before ++ ("\x7b" ++ inner ++ "\x7d") ++ after).toList =
      before.toList ++ opening :: (inner.toList ++ closing :: after.toList) := by
    rw [String.toList_append, String.toList_append, htext]
    simp
  rw [pairs, hsource, matchFrom_append, width_toList, Nat.zero_add, matchFrom_opening,
    matchFrom_append, width_toList] at h
  -- Pairs end where their closing brace stands, so this one ends with the brace after `inner`.
  have hopens : ∀ a ∈ (matchFrom 0 [] before.toList).2, a < before.utf8ByteSize := by
    intro a ha
    have hlt := left_lt (by simp) ha
    rwa [width_toList, Nat.zero_add] at hlt
  have hhead : (matchFrom (before.utf8ByteSize + 1)
      (before.utf8ByteSize :: (matchFrom 0 [] before.toList).2) inner.toList).2.head? =
      some before.utf8ByteSize := by
    rcases List.mem_append.mp h with h | h
    · have hbounds := snd_mem_bounds h
      rw [width_toList] at hbounds
      omega
    rcases List.mem_append.mp h with h | h
    · have hbounds := snd_mem_bounds h
      rw [width_toList] at hbounds
      omega
    cases hleft : (matchFrom (before.utf8ByteSize + 1)
        (before.utf8ByteSize :: (matchFrom 0 [] before.toList).2) inner.toList).2 with
    | nil =>
      rw [hleft, matchFrom_stray] at h
      have hbounds := snd_mem_bounds h
      omega
    | cons a rest =>
      rw [hleft, matchFrom_closing] at h
      rcases List.mem_cons.mp h with h | h
      · rw [List.head?_cons, (Prod.mk.inj h).1]
      · have hbounds := snd_mem_bounds h
        omega
  have hleft : (matchFrom 1 [0] inner.toList).2 = [0] :=
    left_of_head hopens [] [] (Nat.lt_succ_self _) (by simp) hhead rfl
  rw [pairs, htext, matchFrom_opening, matchFrom_append, hleft, width_toList, Nat.zero_add,
    Nat.add_comm 1, matchFrom_closing]
  simp

end Braces

namespace Part

theorem StandsAt.start_lt_of_inside {p c : Part} {m : Marker} (hc : c.StandsAt m)
    (h : p.Inside c) : c.span.start.index < p.span.start.index := by
  cases c with
  | literal text span => exact h.elim
  | call name args span =>
    have hspan := hc.span_eq
    simp only [Part.StandsAt] at hc
    obtain ⟨-, hname, hargs⟩ := hc
    have hbrace : "\x7b".utf8ByteSize = 1 := rfl
    obtain ⟨s, hs, t, ht, hp⟩ := h
    -- A name or an argument stands at least one brace after its call.
    have hplaced : ∃ m', s.StandsAt m' ∧ m.index < m'.index := by
      rcases List.mem_cons.mp hs with rfl | hs
      · exact ⟨_, hname, by rw [Marker.index_after, hbrace]; omega⟩
      · obtain ⟨u, v, -, hu⟩ := hargs.of_mem hs
        refine ⟨_, hu, ?_⟩
        rw [Marker.index_after, Marker.index_after, String.utf8ByteSize_append, hbrace]
        omega
    obtain ⟨m', hm', hlt⟩ := hplaced
    obtain ⟨u, v, -, hu⟩ := ht.standsAt hm'
    obtain ⟨x, y, -, hx⟩ := hu.parts.of_mem hp
    rw [hspan, hx.span_eq]
    change m.index < ((m'.after u).after x).index
    rw [Marker.index_after, Marker.index_after]
    omega

end Part

theorem eq_nil_of_printParts {parts : List Part}
    (htexts : ∀ text span, .literal text span ∈ parts → text ≠ "")
    (h : (printParts parts).utf8ByteSize = 0) : parts = [] := by
  cases parts with
  | nil => rfl
  | cons p parts =>
    exfalso
    rw [printParts, String.utf8ByteSize_append, Nat.add_eq_zero_iff] at h
    cases p with
    | literal text span =>
      exact htexts text span List.mem_cons_self (String.utf8ByteSize_eq_zero_iff.mp h.1)
    | call name args span =>
      have hbrace : "\x7b".utf8ByteSize = 1 := rfl
      simp only [Part.print, String.utf8ByteSize_append, hbrace] at h
      omega

theorem parts_of_callAt {source : String} {j : Nat} (h : CallAt source 0 j)
    (hj : j + 1 = source.utf8ByteSize) :
    ∃ name args span, (parse source).parts = [.call name args span] := by
  obtain ⟨p, hcall, hwithin, hstart, hstop⟩ := h
  obtain ⟨hstands, hprint, htidy⟩ := parse_spec source
  have htexts := (htidy _ .self).1
  have hmem : p ∈ (parse source).parts := by
    have hunder : p.Under (parse source).parts := by
      cases hparse : parse source with
      | mk parts span => exact Part.within_mk.mp (hparse ▸ hwithin)
    obtain ⟨c, hc, rfl | hinside⟩ := hunder
    · exact hc
    · obtain ⟨u, v, -, hplaced⟩ := hstands.parts.of_mem hc
      have hlt := hplaced.start_lt_of_inside hinside
      omega
  obtain ⟨us, vs, hparts⟩ := List.append_of_mem hmem
  have hplaced := hstands.parts
  rw [hparts, partsStandAt_append] at hplaced
  simp only [PartsStandAt] at hplaced
  have hspan := hplaced.2.1.span_eq
  rw [Statement.print_eq, hparts, printParts_append, printParts] at hprint
  have hsize := congrArg String.utf8ByteSize hprint
  rw [String.utf8ByteSize_append, String.utf8ByteSize_append] at hsize
  rw [hspan, Marker.index_after] at hstart
  rw [hspan, Marker.index_after, Marker.index_after] at hstop
  have hus : us = [] := eq_nil_of_printParts
    (fun text span hin ↦ htexts text span (hparts ▸ List.mem_append_left _ hin)) (by omega)
  have hvs : vs = [] := eq_nil_of_printParts
    (fun text span hin ↦ htexts text span
      (hparts ▸ List.mem_append_right _ (List.mem_cons_of_mem p hin))) (by omega)
  cases p with
  | literal => simp [Part.isCall] at hcall
  | call name args span => exact ⟨name, args, span, by rw [hparts, hus, hvs]; rfl⟩

/-- The text of a call of a document starts and ends with a brace, and is a single call when it is
read on its own. -/
theorem excerpt_of_within {source : String} {name : Statement} {args : List Statement} {span : Span}
    (h : (Part.call name args span).Within (parse source)) :
    ∃ inner, span.Covers source ("\x7b" ++ inner ++ "\x7d") ∧
      ∃ name' args' span',
        (parse ("\x7b" ++ inner ++ "\x7d")).parts = [.call name' args' span'] := by
  obtain ⟨-, -, -, hlaid⟩ := parse_laidOut source
  obtain ⟨s, hs, hp⟩ := h
  have hcovers := (hlaid s hs).parts_cover _ hp
  have hprint : (Part.call name args span).print =
      "\x7b" ++ (name.print ++ printArgs args) ++ "\x7d" := by
    simp only [Part.print, String.append_assoc]
  rw [hprint] at hcovers
  refine ⟨name.print ++ printArgs args, hcovers, ?_⟩
  generalize name.print ++ printArgs args = inner at hcovers ⊢
  obtain ⟨before, after, rfl, hstart, hstop⟩ := hcovers
  have hsize : ("\x7b" ++ inner ++ "\x7d").utf8ByteSize = inner.utf8ByteSize + 1 + 1 := by
    have hopen : "\x7b".utf8ByteSize = 1 := rfl
    have hclose : "\x7d".utf8ByteSize = 1 := rfl
    rw [String.utf8ByteSize_append, String.utf8ByteSize_append, hopen, hclose]
    omega
  have hcall : CallAt (before ++ ("\x7b" ++ inner ++ "\x7d") ++ after) before.utf8ByteSize
      (before.utf8ByteSize + 1 + inner.utf8ByteSize) := by
    refine ⟨_, rfl, ⟨s, hs, hp⟩, hstart, ?_⟩
    rw [hstop, hsize]
    omega
  have hpair := Braces.mem_pairs_excerpt ((callAt_iff _ _ _).mp hcall).1
  have hfirst : Braces.pairsAround ("\x7b" ++ inner ++ "\x7d") 0 +
      Braces.unclosedBefore ("\x7b" ++ inner ++ "\x7d") 0 < Braces.maxNesting := by
    simp [Braces.pairsAround, Braces.unclosedBefore, Braces.maxNesting]
  exact parts_of_callAt ((callAt_iff _ _ _).mpr ⟨hpair, hfirst⟩) hsize.symm

end BraceScript
