import BraceScript.Call.Binding

namespace BraceScript

namespace Parameter

variable (p : Parameter) (surplus : Nat)

def share : Nat :=
  match p.arity with
  | .required => 1
  | .optional _ => if 0 < surplus then 1 else 0
  | .repeated least => least + surplus

def leaves : Nat :=
  match p.arity with
  | .required => surplus
  | .optional _ => surplus - 1
  | .repeated _ => 0

def slot (supplied : List Statement) : List Argument :=
  if p.isOptional && surplus == 0 then [.omitted p]
  else (supplied.take (p.share surplus)).map (.supplied p)

theorem share_add_leaves : p.share surplus + p.leaves surplus = p.least + surplus := by
  unfold share leaves least
  cases p.arity with
  | required => rfl
  | optional text =>
    dsimp only
    split <;> omega
  | repeated least => rfl

theorem leaves_le : p.leaves surplus ≤ surplus := by
  unfold leaves
  split <;> omega

theorem repeat?_isSome_iff : p.repeat?.isSome = true ↔ ∃ least, p.arity = .repeated least := by
  unfold repeat?
  cases p.arity <;> simp

theorem isOptional_iff : p.isOptional = true ↔ ∃ text, p.arity = .optional text := by
  unfold isOptional
  cases p.arity <;> simp

end Parameter

theorem Argument.filterMap_statement?_supplied (p : Parameter) (list : List Statement) :
    (list.map (Argument.supplied p)).filterMap Argument.statement? = list := by
  rw [List.filterMap_map]
  exact List.filterMap_some

namespace Parameter

variable {p : Parameter} {surplus : Nat}

/-- An optional parameter without surplus takes nothing, and all others what is their share. -/
theorem filterMap_slot (p : Parameter) (surplus : Nat) (supplied : List Statement) :
    (p.slot surplus supplied).filterMap Argument.statement? = supplied.take (p.share surplus) := by
  unfold slot
  split
  · rename_i homitted
    obtain ⟨hoptional, hzero⟩ := Bool.and_eq_true_iff.mp homitted
    obtain ⟨text, harity⟩ := p.isOptional_iff.mp hoptional
    have hshare : p.share surplus = 0 := by
      rw [share, harity, beq_iff_eq.mp hzero]
      rfl
    rw [hshare]
    rfl
  · exact Argument.filterMap_statement?_supplied p _

theorem slot_required (h : p.arity = .required) (statement : Statement) (rest : List Statement) :
    p.slot surplus (statement :: rest) = [.supplied p statement] := by
  simp [slot, share, isOptional, h]

theorem slot_omitted (h : p.isOptional = true) (supplied : List Statement) :
    p.slot 0 supplied = [.omitted p] := by
  simp [slot, h]

theorem slot_given (h : p.isOptional = true) (hsurplus : 0 < surplus) (statement : Statement)
    (rest : List Statement) : p.slot surplus (statement :: rest) = [.supplied p statement] := by
  obtain ⟨text, harity⟩ := p.isOptional_iff.mp h
  have hzero : (surplus == 0) = false := by
    rw [beq_eq_false_iff_ne]
    omega
  simp [slot, share, harity, hzero, hsurplus]

theorem slot_repeated {least : Nat} (h : p.arity = .repeated least) (supplied : List Statement) :
    p.slot surplus supplied = (supplied.take (least + surplus)).map (.supplied p) := by
  simp [slot, share, isOptional, h]

end Parameter

namespace Binding

/-- The least number of arguments of the parameters together. -/
def demand (ps : List Parameter) : Nat := (ps.map Parameter.least).foldr (· + ·) 0

theorem demand_cons (p : Parameter) (ps : List Parameter) : demand (p :: ps) = p.least + demand ps :=
  rfl

/-- Adding from left to right gives the sum if that is a count, and otherwise stops at a partial sum
that is none. -/
theorem foldlM_total {start : Nat} (hstart : start < Parameter.countBound) (ps : List Parameter) :
    ps.foldlM (fun n p ↦ if n + p.least < Parameter.countBound then some (n + p.least) else none) start =
      if start + demand ps < Parameter.countBound then some (start + demand ps) else none := by
  induction ps generalizing start with
  | nil => exact (if_pos hstart).symm
  | cons p ps ih =>
    rw [List.foldlM_cons, demand_cons, ← Nat.add_assoc]
    by_cases hp : start + p.least < Parameter.countBound
    · rw [if_pos hp]
      exact ih hp
    · rw [if_neg hp, if_neg (by omega)]
      rfl

theorem total?_eq (ps : List Parameter) :
    Parameter.total? ps = if demand ps < Parameter.countBound then some (demand ps) else none := by
  have h := foldlM_total (by decide : 0 < Parameter.countBound) ps
  rwa [Nat.zero_add] at h

theorem total?_eq_some_iff {ps : List Parameter} {n : Nat} :
    Parameter.total? ps = some n ↔ n = demand ps ∧ demand ps < Parameter.countBound := by
  rw [total?_eq, Option.ite_none_right_eq_some, Option.some_inj, and_comm, eq_comm]

theorem total?_eq_none_iff {ps : List Parameter} :
    Parameter.total? ps = none ↔ Parameter.countBound ≤ demand ps := by
  simp [total?_eq]

def remaining (ps : List Parameter) (surplus : Nat) : Nat :=
  ps.foldl (fun surplus p ↦ p.leaves surplus) surplus

theorem remaining_le (ps : List Parameter) (surplus : Nat) : remaining ps surplus ≤ surplus := by
  induction ps generalizing surplus with
  | nil => exact Nat.le_refl surplus
  | cons p ps ih =>
    have hps := ih (p.leaves surplus)
    have hp := p.leaves_le surplus
    change remaining ps (p.leaves surplus) ≤ surplus
    omega

theorem remaining_zero (ps : List Parameter) : remaining ps 0 = 0 :=
  Nat.le_zero.mp (remaining_le ps 0)

theorem remaining_append (ps qs : List Parameter) (surplus : Nat) :
    remaining (ps ++ qs) surplus = remaining qs (remaining ps surplus) :=
  List.foldl_append

theorem remaining_of_repeated {ps : List Parameter} {p : Parameter} (hp : p ∈ ps)
    (hrepeated : p.repeat?.isSome = true) (surplus : Nat) : remaining ps surplus = 0 := by
  obtain ⟨before, after, rfl⟩ := List.append_of_mem hp
  obtain ⟨least, harity⟩ := p.repeat?_isSome_iff.mp hrepeated
  have hleaves : p.leaves (remaining before surplus) = 0 := by rw [Parameter.leaves, harity]
  rw [remaining_append]
  change remaining after (p.leaves (remaining before surplus)) = 0
  rw [hleaves, remaining_zero]

/-- Without a repeatable parameter each optional one takes one argument of the surplus. -/
theorem remaining_of_unrepeated {ps : List Parameter} (h : ∀ p ∈ ps, p.repeat?.isSome = false)
    (surplus : Nat) : remaining ps surplus = surplus - ps.countP Parameter.isOptional := by
  induction ps generalizing surplus with
  | nil => rfl
  | cons p ps ih =>
    obtain ⟨hp, hps⟩ := List.forall_mem_cons.mp h
    have hrest := ih hps (p.leaves surplus)
    change remaining ps (p.leaves surplus) = _
    rw [hrest, List.countP_cons]
    cases harity : p.arity with
    | required => simp [Parameter.leaves, Parameter.isOptional, harity]
    | optional text =>
      simp only [Parameter.leaves, Parameter.isOptional, harity, if_true]
      omega
    | repeated least => simp [Parameter.repeat?, harity] at hp

theorem demand_of_unrepeated {ps : List Parameter} (h : ∀ p ∈ ps, p.repeat?.isSome = false) :
    demand ps + ps.countP Parameter.isOptional = ps.length := by
  induction ps with
  | nil => rfl
  | cons p ps ih =>
    obtain ⟨hp, hps⟩ := List.forall_mem_cons.mp h
    have hrest := ih hps
    rw [demand_cons, List.countP_cons, List.length_cons]
    cases harity : p.arity with
    | required =>
      simp only [Parameter.least, Parameter.isOptional, harity, Bool.false_eq_true, if_false]
      omega
    | optional text =>
      simp only [Parameter.least, Parameter.isOptional, harity, if_true]
      omega
    | repeated least => simp [Parameter.repeat?, harity] at hp

theorem assign_cons (p : Parameter) (surplus : Nat) (ps : List Parameter)
    (supplied : List Statement) :
    assign (p :: ps) surplus supplied =
      p.slot surplus supplied :: assign ps (p.leaves surplus) (supplied.drop (p.share surplus)) := by
  cases harity : p.arity with
  | required => simp [assign, Parameter.slot, Parameter.leaves, Parameter.share, Parameter.isOptional,
      harity]
  | optional text =>
    by_cases hsurplus : 0 < surplus
    · have hzero : (surplus == 0) = false := by
        rw [beq_eq_false_iff_ne]
        omega
      simp [assign, Parameter.slot, Parameter.leaves, Parameter.share, harity, hsurplus, hzero]
    · obtain rfl : surplus = 0 := by omega
      simp [assign, Parameter.slot, Parameter.leaves, Parameter.share, Parameter.isOptional, harity]
  | repeated least =>
    simp [assign, Parameter.slot, Parameter.leaves, Parameter.share, Parameter.isOptional, harity]

def Fits (ps : List Parameter) (surplus : Nat) (supplied : List Statement) : Prop :=
  supplied.length = demand ps + surplus

section Fits

variable {p : Parameter} {ps : List Parameter} {surplus : Nat} {supplied : List Statement}

theorem Fits.share_le (h : Fits (p :: ps) surplus supplied) :
    p.share surplus ≤ supplied.length := by
  have hshare := p.share_add_leaves surplus
  rw [Fits, demand_cons] at h
  omega

theorem Fits.tail (h : Fits (p :: ps) surplus supplied) :
    Fits ps (p.leaves surplus) (supplied.drop (p.share surplus)) := by
  have hshare := p.share_add_leaves surplus
  rw [Fits, demand_cons] at h
  rw [Fits, List.length_drop]
  omega

theorem length_assign (ps : List Parameter) (surplus : Nat) (supplied : List Statement) :
    (assign ps surplus supplied).length = ps.length := by
  induction ps generalizing surplus supplied with
  | nil => rfl
  | cons p ps ih =>
    unfold assign
    cases p.arity with
    | required => exact congrArg (· + 1) (ih _ _)
    | optional text =>
      dsimp only
      split <;> exact congrArg (· + 1) (ih _ _)
    | repeated least => exact congrArg (· + 1) (ih _ _)

/-- If no surplus is left at the end, the supplied arguments of all slots are those of the call. -/
theorem Fits.flatten_assign (h : Fits ps surplus supplied) (hnone : remaining ps surplus = 0) :
    (assign ps surplus supplied).flatten.filterMap Argument.statement? = supplied := by
  induction ps generalizing surplus supplied with
  | nil =>
    have hlength : supplied.length = 0 + surplus := h
    obtain rfl : surplus = 0 := hnone
    rw [List.eq_nil_of_length_eq_zero hlength]
    rfl
  | cons p ps ih =>
    have hrest := ih h.tail hnone
    rw [assign_cons, List.flatten_cons, List.filterMap_append, hrest, Parameter.filterMap_slot,
      List.take_append_drop]

theorem Fits.getElem?_assign (h : Fits ps surplus supplied) {i : Nat} (hp : ps[i]? = some p) :
    ∃ rest after, (assign ps surplus supplied)[i]? =
      some (p.slot (remaining (ps.take i) surplus) rest) ∧
      Fits (p :: after) (remaining (ps.take i) surplus) rest := by
  induction i generalizing ps surplus supplied with
  | zero =>
    cases ps with
    | nil => cases hp
    | cons q qs =>
      cases hp
      rw [assign_cons]
      exact ⟨supplied, qs, rfl, h⟩
  | succ i ih =>
    cases ps with
    | nil => cases hp
    | cons q qs =>
      rw [assign_cons]
      exact ih h.tail hp

end Fits

end Binding

namespace Signature

variable {η : Type} {patterns : List String} {description : String} {handler : η}

theorem compile_eq_ok_iff {s : Signature η} :
    compile patterns description handler = .ok s ↔
      patterns.mapM Parameter.ofPattern = .ok s.parameters ∧
        s.parameters.countP (·.repeat?.isSome) ≤ 1 ∧ s.description = description ∧
        s.handler = handler := by
  constructor
  · intro h
    unfold compile at h
    cases hparameters : patterns.mapM Parameter.ofPattern with
    | error e =>
      rw [hparameters] at h
      cases h
    | ok parameters =>
      rw [hparameters] at h
      change (if 1 < parameters.countP (·.repeat?.isSome) then _ else _) = _ at h
      split at h
      · cases h
      · rename_i hone
        split at h
        · cases h
        · cases h
          exact ⟨rfl, Nat.le_of_not_lt hone, rfl, rfl⟩
  · rintro ⟨hparameters, hone, rfl, rfl⟩
    unfold compile
    rw [hparameters]
    change (if 1 < s.parameters.countP (·.repeat?.isSome) then _ else _) = _
    rw [if_neg (Nat.not_lt.mpr hone)]
    split
    · rename_i hnone
      cases hnone.symm.trans s.total_eq
    · rename_i least hleast
      obtain rfl : least = s.least := Option.some.inj (hleast.symm.trans s.total_eq)
      rfl

end Signature

/-- What a parameter gets: one argument if it is required, one or its default if it is optional, and
at least its least number if it is repeatable. -/
inductive Parameter.Gets (p : Parameter) : List Argument → Prop
  | required (h : p.arity = .required) (statement : Statement) : Gets p [.supplied p statement]
  | given (h : p.isOptional = true) (statement : Statement) : Gets p [.supplied p statement]
  | omitted (h : p.isOptional = true) : Gets p [.omitted p]
  | repeated {least : Nat} (h : p.arity = .repeated least) (statements : List Statement)
    (hleast : least ≤ statements.length) : Gets p (statements.map (.supplied p))

namespace Binding

section Slots

variable {p : Parameter} {ps : List Parameter} {surplus : Nat} {supplied : List Statement}

theorem Fits.gets_slot (h : Fits (p :: ps) surplus supplied) : p.Gets (p.slot surplus supplied) := by
  have hshare := h.share_le
  cases harity : p.arity with
  | required =>
    cases supplied with
    | nil => simp [Parameter.share, harity] at hshare
    | cons statement rest =>
      rw [Parameter.slot_required harity]
      exact .required harity statement
  | optional text =>
    have hoptional := p.isOptional_iff.mpr ⟨text, harity⟩
    by_cases hsurplus : 0 < surplus
    · cases supplied with
      | nil => simp [Parameter.share, harity, hsurplus] at hshare
      | cons statement rest =>
        rw [Parameter.slot_given hoptional hsurplus]
        exact .given hoptional statement
    · obtain rfl : surplus = 0 := by omega
      rw [Parameter.slot_omitted hoptional]
      exact .omitted hoptional
  | repeated least =>
    rw [Parameter.slot_repeated harity]
    refine .repeated harity _ ?_
    simp only [Parameter.share, harity] at hshare
    rw [List.length_take]
    omega

theorem Fits.isSupplied_slot (h : Fits (p :: ps) surplus supplied) (hp : p.isOptional = true) :
    (p.slot surplus supplied)[0]?.any Argument.isSupplied = true ↔ 0 < surplus := by
  by_cases hsurplus : 0 < surplus
  · obtain ⟨text, harity⟩ := p.isOptional_iff.mp hp
    have hshare := h.share_le
    cases supplied with
    | nil => simp [Parameter.share, harity, hsurplus] at hshare
    | cons statement rest =>
      rw [Parameter.slot_given hp hsurplus]
      exact iff_of_true rfl hsurplus
  · obtain rfl : surplus = 0 := by omega
    rw [Parameter.slot_omitted hp]
    exact iff_of_false Bool.false_ne_true hsurplus

theorem Fits.length_slot (h : Fits (p :: ps) surplus supplied) {least : Nat}
    (hp : p.arity = .repeated least) : (p.slot surplus supplied).length = least + surplus := by
  have hshare := h.share_le
  simp only [Parameter.share, hp] at hshare
  rw [Parameter.slot_repeated hp, List.length_map, List.length_take]
  omega

end Slots

section Bind

variable {η : Type} {signatures : List (Signature η)} {s : Signature η} {args : List Statement}

theorem bind_of_find? (h : signatures.find? (·.accepts args.length) = some s) :
    bind signatures args =
      .ok (s, ⟨s.parameters, assign s.parameters (args.length - s.least) args⟩) := by
  rw [bind, h]

theorem least_eq_demand (s : Signature η) : s.least = demand s.parameters :=
  (total?_eq_some_iff.mp s.total_eq).1

theorem demand_lt_countBound (s : Signature η) : demand s.parameters < Parameter.countBound :=
  (total?_eq_some_iff.mp s.total_eq).2

theorem fits_of_accepts (h : s.accepts args.length = true) :
    Fits s.parameters (args.length - s.least) args := by
  have hleast := least_eq_demand s
  have hle : s.least ≤ args.length := of_decide_eq_true (Bool.and_eq_true_iff.mp h).1
  rw [Fits]
  omega

theorem remaining_of_accepts (h : s.accepts args.length = true) :
    remaining s.parameters (args.length - s.least) = 0 := by
  by_cases hrepeated : s.parameters.any (·.repeat?.isSome) = true
  · obtain ⟨p, hp, hsome⟩ := List.any_eq_true.mp hrepeated
    exact remaining_of_repeated hp hsome _
  · have hunrepeated : ∀ p ∈ s.parameters, p.repeat?.isSome = false := by
      intro p hp
      refine Bool.eq_false_iff.mpr fun hsome ↦ hrepeated ?_
      exact List.any_eq_true.mpr ⟨p, hp, hsome⟩
    have hgreatest := (Bool.and_eq_true_iff.mp h).2
    rw [Signature.greatest?, if_neg hrepeated] at hgreatest
    have hle : args.length ≤ s.parameters.length := of_decide_eq_true hgreatest
    have hleast := least_eq_demand s
    have hlength := demand_of_unrepeated hunrepeated
    rw [remaining_of_unrepeated hunrepeated]
    omega

theorem all_of_fits {ps : List Parameter} {surplus : Nat} {p : Parameter} {i : Nat}
    (h : Fits ps surplus args) (hp : ps[i]? = some p) :
    ∃ rest after, Arguments.all ⟨ps, assign ps surplus args⟩ i =
      p.slot (remaining (ps.take i) surplus) rest ∧
      Fits (p :: after) (remaining (ps.take i) surplus) rest := by
  obtain ⟨rest, after, hslot, hfits⟩ := h.getElem?_assign hp
  refine ⟨rest, after, ?_, hfits⟩
  rw [Arguments.all, List.getD_eq_getElem?_getD, hslot, Option.getD_some]

theorem isSupplied_get? {ps : List Parameter} {surplus : Nat} {p : Parameter} {i : Nat}
    (h : Fits ps surplus args) (hp : ps[i]? = some p) (hoptional : p.isOptional = true) :
    (Arguments.get? ⟨ps, assign ps surplus args⟩ i).any Argument.isSupplied = true ↔
      0 < remaining (ps.take i) surplus := by
  obtain ⟨rest, after, hall, hfits⟩ := all_of_fits h hp
  rw [Arguments.get?, Arguments.at?, hall]
  exact hfits.isSupplied_slot hoptional

theorem remaining_take_le (ps : List Parameter) (surplus : Nat) {i j : Nat} (h : i ≤ j) :
    remaining (ps.take j) surplus ≤ remaining (ps.take i) surplus := by
  obtain ⟨n, rfl⟩ := Nat.exists_eq_add_of_le h
  rw [List.take_add, remaining_append]
  exact remaining_le _ _

/-- Binding loses no argument, gives none out twice and keeps their order. Every parameter gets what
it may get, and of any two optional parameters the left one is served first. -/
theorem bind_distributes (hpicked : signatures.find? (·.accepts args.length) = some s) :
    ∃ bound, bind signatures args = .ok (s, bound) ∧
      bound.slots.flatten.filterMap Argument.statement? = args ∧
      bound.slots.length = s.parameters.length ∧
      (∀ i (p : Parameter), s.parameters[i]? = some p → p.Gets (bound.all i)) ∧
      ∀ i j p q, i < j → s.parameters[i]? = some p → s.parameters[j]? = some q →
        p.isOptional = true → q.isOptional = true →
        (bound.get? j).any Argument.isSupplied = true →
        (bound.get? i).any Argument.isSupplied = true := by
  have haccepts : s.accepts args.length = true := (List.find?_some hpicked :)
  have hfits := fits_of_accepts haccepts
  refine ⟨_, bind_of_find? hpicked, ?_, length_assign _ _ _, ?_, ?_⟩
  · exact hfits.flatten_assign (remaining_of_accepts haccepts)
  · intro i p hp
    obtain ⟨rest, after, hall, hslot⟩ := all_of_fits hfits hp
    rw [hall]
    exact hslot.gets_slot
  · intro i j p q hij hp hq hpoptional hqoptional hgiven
    have hj := (isSupplied_get? hfits hq hqoptional).mp hgiven
    have hle := remaining_take_le s.parameters (args.length - s.least)
      (Nat.le_of_lt hij)
    exact (isSupplied_get? hfits hp hpoptional).mpr (by omega)

/-- Parameters of every kind, with a surplus for one of three optional ones. -/
theorem bind_distributes_mixed :
    let place (n : Nat) : Statement := .mk [] ⟨⟨n, 1, n + 1⟩, ⟨n, 1, n + 1⟩⟩
    let args := [3, 4, 5, 6, 7].map place
    let s : Signature Unit :=
      ⟨[⟨"a", .eager, .required⟩, ⟨"b", .eager, .optional none⟩, ⟨"c", .eager, .optional (some "x")⟩,
        ⟨"d", .deferred, .repeated 2⟩, ⟨"e", .raw, .optional none⟩, ⟨"f", .eager, .required⟩], "", (), 4, rfl⟩
    Signature.compile ["a", "b?", "c:x", "~d+2", "!e?", "f"] "" () = .ok s ∧
    [s].find? (·.accepts args.length) = some s ∧
    ∃ bound, bind [s] args = .ok (s, bound) ∧
      bound.slots.flatten.filterMap Argument.statement? = args ∧
      bound.slots.map (·.map Argument.isSupplied) =
        [[true], [true], [false], [true, true], [false], [true]] := by
  intro place args s
  have hpicked : [s].find? (·.accepts args.length) = some s := rfl
  obtain ⟨bound, hbind, hsupplied, -⟩ := bind_distributes hpicked
  refine ⟨rfl, hpicked, bound, hbind, hsupplied, ?_⟩
  cases hbind
  rfl

/-- Of the surplus the first `k` optional parameters get one argument each as long as there is any,
and the repeatable parameter gets what is left of it. -/
structure Serves (parameters : List Parameter) (surplus k : Nat) (bound : Arguments) : Prop where
  optional : ∀ i (q : Parameter), parameters[i]? = some q → q.isOptional = true →
    ((bound.get? i).any Argument.isSupplied = true ↔
      (parameters.take i).countP Parameter.isOptional < min surplus k)
  repeated : ∀ i (q : Parameter) least, parameters[i]? = some q → q.arity = .repeated least →
    (bound.all i).length = least + (surplus - min surplus k)

/-- Two ways to serve the parameters agree if they leave as much to the repeatable one. -/
theorem Serves.iff_of_repeated {parameters : List Parameter} {surplus k l : Nat} {bound : Arguments}
    (h : Serves parameters surplus k bound) {i : Nat} {p : Parameter} {least : Nat}
    (hp : parameters[i]? = some p) (hrepeated : p.arity = .repeated least) (hle : k ≤ l) :
    Serves parameters surplus l bound ↔ surplus ≤ k ∨ l = k := by
  constructor
  · intro h'
    have hk := h.repeated i p least hp hrepeated
    have hl := h'.repeated i p least hp hrepeated
    omega
  · intro hsame
    have hmin : min surplus l = min surplus k := by omega
    exact ⟨by rw [hmin]; exact h.optional, by rw [hmin]; exact h.repeated⟩

theorem countP_repeat_of_compile {patterns : List String} {description : String} {handler : η}
    (h : Signature.compile patterns description handler = .ok s) :
    s.parameters.countP (·.repeat?.isSome) ≤ 1 :=
  (Signature.compile_eq_ok_iff.mp h).2.1

theorem unrepeated_of_split {parameters before after : List Parameter} {p : Parameter}
    (hone : parameters.countP (·.repeat?.isSome) ≤ 1) (hsplit : parameters = before ++ p :: after)
    (hp : p.repeat?.isSome = true) :
    (∀ q ∈ before, q.repeat?.isSome = false) ∧ ∀ q ∈ after, q.repeat?.isSome = false := by
  rw [hsplit, List.countP_append, List.countP_cons, if_pos hp] at hone
  have hbefore : before.countP (·.repeat?.isSome) = 0 := by omega
  have hafter : after.countP (·.repeat?.isSome) = 0 := by omega
  rw [List.countP_eq_zero] at hbefore hafter
  exact ⟨fun q hq ↦ Bool.eq_false_iff.mpr (hbefore q hq),
    fun q hq ↦ Bool.eq_false_iff.mpr (hafter q hq)⟩

theorem remaining_take {before after : List Parameter} {p : Parameter}
    (hbefore : ∀ q ∈ before, q.repeat?.isSome = false) (hp : p.repeat?.isSome = true)
    (surplus i : Nat) :
    remaining ((before ++ p :: after).take i) surplus =
      if i ≤ before.length then surplus - (before.take i).countP Parameter.isOptional else 0 := by
  split
  · rename_i hle
    rw [List.take_append_of_le_length hle]
    exact remaining_of_unrepeated (fun q hq ↦ hbefore q (List.mem_of_mem_take hq)) surplus
  · rename_i hlt
    refine remaining_of_repeated (p := p) ?_ hp surplus
    obtain ⟨n, hn⟩ : ∃ n, i = before.length + (n + 1) := ⟨i - before.length - 1, by omega⟩
    rw [hn, List.take_length_add_append, List.take_succ_cons]
    exact List.mem_append_right before List.mem_cons_self

theorem place_cases {before after : List Parameter} {p q : Parameter} {i : Nat}
    (h : (before ++ p :: after)[i]? = some q) :
    before[i]? = some q ∧ i < before.length ∨ i = before.length ∧ q = p ∨
      before.length < i ∧ q ∈ after := by
  rcases Nat.lt_trichotomy i before.length with hlt | rfl | hgt
  · rw [List.getElem?_append_left hlt] at h
    exact Or.inl ⟨h, hlt⟩
  · rw [List.getElem?_append_right (Nat.le_refl _), Nat.sub_self] at h
    exact Or.inr (Or.inl ⟨rfl, (Option.some.inj h).symm⟩)
  · obtain ⟨n, rfl⟩ : ∃ n, i = before.length + (n + 1) := ⟨i - before.length - 1, by omega⟩
    rw [List.getElem?_append_right (by omega), Nat.add_sub_cancel_left, List.getElem?_cons_succ] at h
    exact Or.inr (Or.inr ⟨hgt, List.mem_of_getElem? h⟩)

theorem countP_take_lt {ps : List Parameter} {q : Parameter} {i : Nat} (h : ps[i]? = some q)
    (hq : q.isOptional = true) :
    (ps.take i).countP Parameter.isOptional < ps.countP Parameter.isOptional := by
  have hsplit : ps.take (i + 1) = ps.take i ++ [q] := by rw [List.take_add_one, h]; rfl
  have hle := (List.take_sublist (i + 1) ps).countP_le (p := Parameter.isOptional)
  rw [hsplit, List.countP_append, List.countP_singleton, if_pos hq] at hle
  omega

/-- Optional parameters before the repeatable one are served from left to right, then the repeatable
one gets all that is left, and the optional parameters after it get nothing. -/
theorem serves_of_fits {before after : List Parameter} {p : Parameter} {least surplus : Nat}
    (hbefore : ∀ q ∈ before, q.repeat?.isSome = false)
    (hafter : ∀ q ∈ after, q.repeat?.isSome = false) (hp : p.arity = .repeated least)
    (h : Fits (before ++ p :: after) surplus args) :
    Serves (before ++ p :: after) surplus (before.countP Parameter.isOptional)
      ⟨before ++ p :: after, assign (before ++ p :: after) surplus args⟩ := by
  have hsome := p.repeat?_isSome_iff.mpr ⟨least, hp⟩
  constructor
  · intro i q hq hoptional
    rw [isSupplied_get? h hq hoptional, remaining_take hbefore hsome]
    rcases place_cases hq with ⟨hqbefore, hlt⟩ | ⟨-, rfl⟩ | ⟨hgt, -⟩
    · have hcount := countP_take_lt hqbefore hoptional
      rw [if_pos (Nat.le_of_lt hlt), List.take_append_of_le_length (Nat.le_of_lt hlt)]
      omega
    · simp [Parameter.isOptional, hp] at hoptional
    · have hall : before.Sublist ((before ++ p :: after).take i) := by
        rw [List.take_append, List.take_of_length_le (Nat.le_of_lt hgt)]
        exact List.sublist_append_left _ _
      have hcount := hall.countP_le (p := Parameter.isOptional)
      rw [if_neg (Nat.not_le.mpr hgt)]
      omega
  · intro i q least' hq hrepeated
    have hqsome := q.repeat?_isSome_iff.mpr ⟨least', hrepeated⟩
    rcases place_cases hq with ⟨hqbefore, -⟩ | ⟨rfl, rfl⟩ | ⟨-, hqafter⟩
    · exact absurd hqsome (Bool.eq_false_iff.mp (hbefore q (List.mem_of_getElem? hqbefore)))
    · obtain ⟨rest, after', hslot, hfits⟩ := all_of_fits h hq
      rw [hslot, hfits.length_slot hrepeated, remaining_take hbefore hsome,
        if_pos (Nat.le_refl _), List.take_length]
      omega
    · exact absurd hqsome (Bool.eq_false_iff.mp (hafter q hqafter))

/-- The optional parameters before the repeatable one take their arguments of the surplus first, and
the repeatable parameter takes all that is left. Those after it get nothing, so that the optional
parameters come before the overflow just if there are none of them or nothing overflows. -/
theorem bind_surplus {patterns : List String} {description : String} {handler : η}
    (hcompile : Signature.compile patterns description handler = .ok s)
    {before after : List Parameter} {p : Parameter} {least : Nat}
    (hsplit : s.parameters = before ++ p :: after) (hp : p.arity = .repeated least)
    (hpicked : signatures.find? (·.accepts args.length) = some s) {surplus : Nat}
    (hcount : args.length = demand s.parameters + surplus) :
    ∃ bound, bind signatures args = .ok (s, bound) ∧
      Serves s.parameters surplus (before.countP Parameter.isOptional) bound ∧
      (Serves s.parameters surplus (s.parameters.countP Parameter.isOptional) bound ↔
        surplus ≤ before.countP Parameter.isOptional ∨
        after.countP Parameter.isOptional = 0) := by
  have hleast := least_eq_demand s
  have hsurplus : args.length - s.least = surplus := by omega
  have hfits : Fits s.parameters surplus args := hcount
  have hsome := p.repeat?_isSome_iff.mpr ⟨least, hp⟩
  obtain ⟨hbefore, hafter⟩ :=
    unrepeated_of_split (countP_repeat_of_compile hcompile) hsplit hsome
  have hbind := bind_of_find? hpicked
  rw [hsurplus] at hbind
  rw [hsplit] at hbind hfits ⊢
  have hserves := serves_of_fits hbefore hafter hp hfits
  have hat : (before ++ p :: after)[before.length]? = some p := by simp
  have hoptional : p.isOptional = false := by simp [Parameter.isOptional, hp]
  have hall : (before ++ p :: after).countP Parameter.isOptional =
      before.countP Parameter.isOptional + after.countP Parameter.isOptional := by
    rw [List.countP_append, List.countP_cons, hoptional]
    rfl
  refine ⟨_, hbind, hserves, ?_⟩
  rw [hserves.iff_of_repeated hat hp (by omega), hall]
  omega

/-- Surplus for an optional parameter on each side of the repeatable one, of which the right one
gets none. -/
theorem bind_surplus_both_sides :
    let place (n : Nat) : Statement := .mk [] ⟨⟨n, 1, n + 1⟩, ⟨n, 1, n + 1⟩⟩
    let args := [3, 4, 5, 6].map place
    let p : Parameter := ⟨"items", .deferred, .repeated 1⟩
    let s : Signature Unit :=
      ⟨[⟨"first", .eager, .optional none⟩] ++ p :: [⟨"last", .eager, .optional none⟩], "", (), 1, rfl⟩
    Signature.compile ["first?", "~items+", "last?"] "" () = .ok s ∧ p.arity = .repeated 1 ∧
    [s].find? (·.accepts args.length) = some s ∧ args.length = demand s.parameters + 3 ∧
    ∃ bound, bind [s] args = .ok (s, bound) ∧ Serves s.parameters 3 1 bound ∧
      ¬Serves s.parameters 3 2 bound ∧ (bound.all 1).length = 3 := by
  intro place args p s
  have hcompile : Signature.compile ["first?", "~items+", "last?"] "" () = .ok s := rfl
  have hpicked : [s].find? (·.accepts args.length) = some s := rfl
  have hcount : args.length = demand s.parameters + 3 := rfl
  obtain ⟨bound, hbind, hserves, hiff⟩ := bind_surplus hcompile rfl rfl hpicked hcount
  have hnot : ¬(3 ≤ 1 ∨ 1 = 0) := by decide
  exact ⟨hcompile, rfl, hpicked, hcount, bound, hbind, hserves, fun h ↦ hnot (hiff.mp h),
    hserves.repeated 1 p 1 rfl rfl⟩

/-- The one argument goes to the repeatable parameter, although an optional one follows. -/
theorem bind_overflow_before_optional :
    let args : List Statement := [.mk [.literal "x" ⟨⟨3, 1, 4⟩, ⟨4, 1, 5⟩⟩] ⟨⟨3, 1, 4⟩, ⟨4, 1, 5⟩⟩]
    let s : Signature Unit :=
      ⟨[⟨"items", .eager, .repeated 0⟩, ⟨"last", .eager, .optional none⟩], "", (), 0, rfl⟩
    Signature.compile ["items*", "last?"] "" () = .ok s ∧ args.length = demand s.parameters + 1 ∧
    ∃ bound, bind [s] args = .ok (s, bound) ∧ (bound.all 0).length = 1 ∧
      (bound.get? 1).any Argument.isSupplied = false ∧
      ¬Serves s.parameters 1 (s.parameters.countP Parameter.isOptional) bound := by
  intro args s
  refine ⟨rfl, rfl, _, rfl, rfl, rfl, fun h ↦ ?_⟩
  have hlength := h.repeated 0 _ 0 rfl rfl
  cases hlength

end Bind

end Binding

end BraceScript
