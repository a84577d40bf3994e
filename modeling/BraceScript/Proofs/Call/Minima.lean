import BraceScript.Proofs.Call.Acceptance
import BraceScript.Proofs.Call.Patterns

namespace BraceScript

theorem exists_of_mapM_eq_error {ε α β : Type} {f : α → Except ε β} {xs : List α} {e : ε}
    (h : xs.mapM f = .error e) : ∃ x ∈ xs, f x = .error e := by
  induction xs with
  | nil => cases h
  | cons x xs ih =>
    rw [List.mapM_cons] at h
    cases hx : f x with
    | error e' =>
      rw [hx] at h
      cases h
      exact ⟨x, List.mem_cons_self, hx⟩
    | ok y =>
      rw [hx] at h
      cases hxs : xs.mapM f with
      | error e' =>
        change (xs.mapM f >>= _) = _ at h
        rw [hxs] at h
        cases h
        obtain ⟨x', hx', hfx'⟩ := ih hxs
        exact ⟨x', List.mem_cons_of_mem x hx', hfx'⟩
      | ok ys =>
        change (xs.mapM f >>= _) = _ at h
        rw [hxs] at h
        cases h

theorem Parameter.exists_of_ofPattern_eq_error {text : String} {e : BuildError}
    (h : ofPattern text = .error e) : ∃ fault, e = .invalidParameter text fault := by
  unfold ofPattern at h
  split at h
  · cases h
    exact ⟨_, rfl⟩
  · split at h
    · cases h
      exact ⟨_, rfl⟩
    · cases h

namespace Binding

open Parameter

variable {η : Type} {s : Signature η}

theorem least_le_demand {ps : List Parameter} {p : Parameter} (hp : p ∈ ps) :
    p.least ≤ demand ps := by
  induction ps with
  | nil => cases hp
  | cons q ps ih =>
    rw [demand_cons]
    rcases List.mem_cons.mp hp with rfl | hp
    · omega
    · have hle := ih hp
      omega

/-- A sum that is no count is what is wrong with patterns that are well formed and of which at most
one repeats. -/
theorem compile_eq_overflow_iff {patterns : List String} {description : String} {handler : η} :
    Signature.compile patterns description handler = .error .countOverflow ↔
      ∃ ps, patterns.mapM ofPattern = .ok ps ∧ ps.countP (·.repeat?.isSome) ≤ 1 ∧
        countBound ≤ demand ps := by
  unfold Signature.compile
  cases hps : patterns.mapM ofPattern with
  | error e =>
    refine iff_of_false ?_ (by simp)
    rintro ⟨⟩
    obtain ⟨text, -, htext⟩ := exists_of_mapM_eq_error hps
    obtain ⟨fault, hfault⟩ := exists_of_ofPattern_eq_error htext
    cases hfault
  | ok ps =>
    simp only [Except.ok.injEq, exists_eq_left']
    change (if 1 < ps.countP (·.repeat?.isSome) then _ else _) = _ ↔ _
    split
    · exact iff_of_false (by simp) (by omega)
    · rename_i hone
      rw [← total?_eq_none_iff]
      split
      · rename_i hnone
        exact iff_of_true rfl ⟨Nat.le_of_not_lt hone, hnone⟩
      · rename_i least hleast
        exact iff_of_false (by simp) (by simp [hleast])

/-- Any call that the signature accepts gives each required parameter an argument. -/
def ServesRequired (s : Signature η) : Prop :=
  ∀ signatures args, signatures.find? (·.accepts args.length) = some s →
    ∃ bound, bind signatures args = .ok (s, bound) ∧
      ∀ i (p : Parameter), s.parameters[i]? = some p → p.isRequired = true → bound.all i ≠ []

/-- In any call that the signature accepts, the share of a repeatable parameter is a count. -/
def SharesFit (s : Signature η) : Prop :=
  ∀ count, s.accepts count = true → count < countBound →
    ∀ i (p : Parameter) least, s.parameters[i]? = some p → p.arity = .repeated least →
      least + remaining (s.parameters.take i) (count - s.least) < countBound

theorem servesRequired (s : Signature η) : ServesRequired s := by
  intro signatures args hpicked
  have hfits := fits_of_accepts (List.find?_some hpicked :)
  refine ⟨_, bind_of_find? hpicked, ?_⟩
  intro i p hp hrequired
  obtain ⟨rest, after, hall, hslot⟩ := all_of_fits hfits hp
  have hshare := hslot.share_le
  have harity : p.arity = .required := by simpa [isRequired] using hrequired
  rw [hall]
  cases rest with
  | nil => simp [share, harity] at hshare
  | cons statement rest =>
    rw [slot_required harity]
    exact List.cons_ne_nil _ _

/-- The share and what the other parameters demand are not more than the arguments of the call. -/
theorem sharesFit (s : Signature η) : SharesFit s := by
  intro count haccepts hword i p least hp harity
  have hremaining := remaining_le (s.parameters.take i) (count - s.least)
  have hdemand := least_le_demand (List.mem_of_getElem? hp)
  have hleast := least_eq_demand s
  have hcount := ((s.accepts_iff count).mp haccepts).1
  simp only [Parameter.least, harity] at hdemand
  omega

/-- The least number of arguments of a compiled signature is the sum of those of its parameters,
which is a count: no required parameter goes without its argument and no share overflows in any
accepted call. Patterns whose sum is no count are refused. -/
theorem compile_minima (patterns : List String) (description : String) (handler : η) :
    (∀ s, Signature.compile patterns description handler = .ok s →
      patterns.mapM ofPattern = .ok s.parameters ∧ s.least = demand s.parameters ∧
        demand s.parameters < countBound ∧ ServesRequired s ∧ SharesFit s) ∧
    (Signature.compile patterns description handler = .error .countOverflow ↔
      ∃ ps, patterns.mapM ofPattern = .ok ps ∧ ps.countP (·.repeat?.isSome) ≤ 1 ∧
        countBound ≤ demand ps) := by
  refine ⟨?_, compile_eq_overflow_iff⟩
  intro s hcompile
  exact ⟨(Signature.compile_eq_ok_iff.mp hcompile).1, least_eq_demand s, demand_lt_countBound s,
    servesRequired s, sharesFit s⟩

/-- The greatest sum that is a count, and the one after it. -/
theorem compile_minima_greatest_count :
    let s : Signature Unit := ⟨[⟨"a", .eager, .required⟩, ⟨"b", .eager, .optional none⟩,
      ⟨"rest", .deferred, .repeated 18446744073709551614⟩], "", (), 18446744073709551615, rfl⟩
    Signature.compile ["a", "b?", "~rest+18446744073709551614"] "" () = .ok s ∧
    demand s.parameters = 18446744073709551615 ∧ ServesRequired s ∧ SharesFit s ∧
    Signature.compile ["a", "b?", "~rest+18446744073709551615"] "" () = .error .countOverflow := by
  intro s
  have hcompile : Signature.compile ["a", "b?", "~rest+18446744073709551614"] "" () = .ok s := by rfl
  obtain ⟨-, hleast, -, hserves, hshares⟩ := (compile_minima _ "" ()).1 s hcompile
  have hover := (compile_minima ["a", "b?", "~rest+18446744073709551615"] "" ()).2.mpr
    ⟨_, rfl, by decide, by decide⟩
  exact ⟨hcompile, hleast.symm, hserves, hshares, hover⟩

end Binding

end BraceScript
