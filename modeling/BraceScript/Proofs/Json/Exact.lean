import BraceScript.Json.Read
import Mathlib.Tactic.SplitIfs

namespace BraceScript

namespace Value

section Fields

def IsOrdered (fields : List (String × Value)) : Prop := fields.Pairwise fun f g ↦ f.1 < g.1

theorem insertField_of_last {name : String} {fields : List (String × Value)}
    (h : ∀ f ∈ fields, f.1 < name) (v : Value) :
    insertField name v fields = fields ++ [(name, v)] := by
  induction fields with
  | nil => rfl
  | cons f fields ih =>
    obtain ⟨hf, hfields⟩ := List.forall_mem_cons.mp h
    rw [insertField, if_neg (String.lt_asymm hf), if_neg (String.ne_of_lt hf).symm, ih hfields,
      List.cons_append]

theorem foldl_insertField {start fields : List (String × Value)} (h : IsOrdered (start ++ fields)) :
    fields.foldl (fun acc f ↦ insertField f.1 f.2 acc) start = start ++ fields := by
  induction fields generalizing start with
  | nil => simp
  | cons f fields ih =>
    have hlast : ∀ g ∈ start, g.1 < f.1 := fun g hg ↦
      (List.pairwise_append.mp h).2.2 g hg f List.mem_cons_self
    rw [List.foldl_cons, insertField_of_last hlast, ih (by simpa using h), List.append_assoc]
    rfl

theorem mem_insertField {name : String} {v : Value} {f : String × Value}
    {fields : List (String × Value)} (h : f ∈ insertField name v fields) :
    f = (name, v) ∨ f ∈ fields := by
  induction fields with
  | nil => simpa [insertField] using h
  | cons g fields ih =>
    rw [insertField] at h
    split at h
    · simpa using h
    · split at h <;> grind

theorem isOrdered_insertField {fields : List (String × Value)} (h : IsOrdered fields) (name : String)
    (v : Value) : IsOrdered (insertField name v fields) := by
  induction fields with
  | nil => simp [insertField, IsOrdered]
  | cons g fields ih =>
    obtain ⟨hg, hfields⟩ := List.pairwise_cons.mp h
    rw [insertField]
    split_ifs with hlt heq
    · refine List.pairwise_cons.mpr ⟨fun f hf ↦ ?_, h⟩
      rcases List.mem_cons.mp hf with rfl | hf
      · exact hlt
      · exact String.lt_trans hlt (hg f hf)
    · exact List.pairwise_cons.mpr ⟨fun f hf ↦ heq ▸ hg f hf, hfields⟩
    · have hgt : g.1 < name := Std.lt_of_le_of_ne (String.not_lt.mp hlt) (Ne.symm heq)
      refine List.pairwise_cons.mpr ⟨fun f hf ↦ ?_, ih hfields⟩
      rcases mem_insertField hf with rfl | hf
      · exact hgt
      · exact hg f hf

theorem exists_ofFields (fields : List (String × Value)) :
    ∃ kept, ofFields fields = .object kept ∧ IsOrdered kept ∧ ∀ f ∈ kept, f ∈ fields := by
  have hfold (start : List (String × Value)) (hstart : IsOrdered start) :
      IsOrdered (fields.foldl (fun acc f ↦ insertField f.1 f.2 acc) start) ∧
        ∀ f ∈ fields.foldl (fun acc f ↦ insertField f.1 f.2 acc) start, f ∈ start ∨ f ∈ fields := by
    induction fields generalizing start with
    | nil => exact ⟨hstart, fun f hf ↦ Or.inl hf⟩
    | cons g fields ih =>
      obtain ⟨hordered, hmem⟩ := ih _ (isOrdered_insertField hstart g.1 g.2)
      refine ⟨hordered, fun f hf ↦ ?_⟩
      rcases hmem f hf with hf | hf
      · rcases mem_insertField hf with rfl | hf
        · exact Or.inr List.mem_cons_self
        · exact Or.inl hf
      · exact Or.inr (List.mem_cons_of_mem g hf)
  obtain ⟨hordered, hmem⟩ := hfold [] List.Pairwise.nil
  exact ⟨_, rfl, hordered, fun f hf ↦ by simpa using hmem f hf⟩

theorem ofFields_of_isOrdered {fields : List (String × Value)} (h : IsOrdered fields) :
    ofFields fields = .object fields := by
  rw [ofFields, foldl_insertField (by simpa using h), List.nil_append]

end Fields

/-- An exact value has whole numbers of a word only, and objects with their fields in order. At most
`depth` arrays and objects are nested in it. -/
inductive Exact : Nat → Value → Prop
  | null (depth : Nat) : Exact depth .null
  | bool (depth : Nat) (b : Bool) : Exact depth (.bool b)
  | int (depth : Nat) {n : Int} (h : Json.isWord n = true) : Exact depth (.int n)
  | text (depth : Nat) (s : String) : Exact depth (.text s)
  | list {depth : Nat} {items : List Value} (h : ∀ v ∈ items, Exact depth v) :
    Exact (depth + 1) (.list items)
  | object {depth : Nat} {fields : List (String × Value)} (hordered : IsOrdered fields)
    (h : ∀ f ∈ fields, Exact depth f.2) : Exact (depth + 1) (.object fields)

mutual

def doubles : Value → List Double
  | .double d => [d]
  | .list items => doublesOfItems items
  | .object fields => doublesOfFields fields
  | _ => []

def doublesOfItems : List Value → List Double
  | [] => []
  | item :: items => item.doubles ++ doublesOfItems items

def doublesOfFields : List (String × Value) → List Double
  | [] => []
  | (_, v) :: fields => v.doubles ++ doublesOfFields fields

end

theorem doubles_of_mem_items {items : List Value} (h : doublesOfItems items = []) :
    ∀ v ∈ items, v.doubles = [] := by
  induction items with
  | nil => simp
  | cons item items ih =>
    rw [doublesOfItems, List.append_eq_nil_iff] at h
    exact List.forall_mem_cons.mpr ⟨h.1, ih h.2⟩

theorem doubles_of_mem_fields {fields : List (String × Value)} (h : doublesOfFields fields = []) :
    ∀ f ∈ fields, f.2.doubles = [] := by
  induction fields with
  | nil => simp
  | cons f fields ih =>
    rw [doublesOfFields, List.append_eq_nil_iff] at h
    exact List.forall_mem_cons.mpr ⟨h.1, ih h.2⟩

end Value

namespace Json

theorem Numeral.exact_of_value? {n : Numeral} {v : Value} (h : n.value? = some v)
    (hdoubles : v.doubles = []) (depth : Nat) : v.Exact depth := by
  unfold Numeral.value? at h
  dsimp only at h
  generalize (if n.negative = true then -(Decimal.ofDigits n.whole : Int)
    else (Decimal.ofDigits n.whole : Int)) = signed at h
  split at h
  case isTrue hwhole =>
    cases h
    refine .int depth ?_
    simp only [Bool.and_eq_true] at hwhole
    exact hwhole.1.2
  case isFalse =>
    obtain ⟨d, -, rfl⟩ := Option.map_eq_some_iff.mp h
    cases hdoubles

mutual

theorem Tree.exact_of_value? : (tree : Tree) → ∀ {depth : Nat} {v : Value},
    tree.value? depth = some v → v.doubles = [] → v.Exact depth
  | .null, depth, v, h, _ => by
    cases h
    exact .null depth
  | .bool b, depth, v, h, _ => by
    cases h
    exact .bool depth b
  | .number n, depth, v, h, hdoubles => n.exact_of_value? h hdoubles depth
  | .string pieces, depth, v, h, _ => by
    obtain ⟨s, -, rfl⟩ := Option.map_eq_some_iff.mp h
    exact .text depth s
  | .array trees, depth, v, h, hdoubles => by
    cases depth with
    | zero => cases h
    | succ depth =>
      obtain ⟨items, hitems, rfl⟩ := Option.map_eq_some_iff.mp h
      refine .list fun v hv ↦ ?_
      exact exact_of_itemValues? trees hitems v hv (Value.doubles_of_mem_items hdoubles v hv)
  | .object trees, depth, v, h, hdoubles => by
    cases depth with
    | zero => cases h
    | succ depth =>
      obtain ⟨fields, hfields, rfl⟩ := Option.map_eq_some_iff.mp h
      obtain ⟨kept, hkept, hordered, hmem⟩ := Value.exists_ofFields fields
      rw [hkept] at hdoubles ⊢
      refine .object hordered fun f hf ↦ ?_
      exact exact_of_fieldValues? trees hfields f (hmem f hf)
        (Value.doubles_of_mem_fields hdoubles f hf)

theorem exact_of_itemValues? : (trees : List Tree) → ∀ {depth : Nat} {items : List Value},
    itemValues? depth trees = some items → ∀ v ∈ items, v.doubles = [] → v.Exact depth
  | [], _, items, h => by
    cases h
    simp
  | tree :: trees, depth, items, h => by
    simp only [itemValues?, Option.bind_eq_bind, Option.bind_eq_some_iff, Option.pure_def,
      Option.some.injEq] at h
    obtain ⟨v, hv, vs, hvs, rfl⟩ := h
    exact List.forall_mem_cons.mpr ⟨tree.exact_of_value? hv, exact_of_itemValues? trees hvs⟩

theorem exact_of_fieldValues? : (trees : List (List Piece × Tree)) → ∀ {depth : Nat}
    {fields : List (String × Value)}, fieldValues? depth trees = some fields →
    ∀ f ∈ fields, f.2.doubles = [] → f.2.Exact depth
  | [], _, fields, h => by
    cases h
    simp
  | (key, tree) :: trees, depth, fields, h => by
    simp only [fieldValues?, Option.bind_eq_bind, Option.bind_eq_some_iff, Option.pure_def,
      Option.some.injEq] at h
    obtain ⟨name, -, v, hv, vs, hvs, rfl⟩ := h
    exact List.forall_mem_cons.mpr ⟨tree.exact_of_value? hv, exact_of_fieldValues? trees hvs⟩

end

end Json

theorem Value.exact_of_items? {t : String} {items : List Value} (h : items? t = some items)
    (hdoubles : (list items).doubles = []) : (list items).Exact maxDepth := by
  unfold items? at h
  split at h
  case h_1 read hread =>
    cases h
    obtain ⟨tree, -, htree⟩ := Option.bind_eq_some_iff.mp hread
    exact tree.exact_of_value? htree hdoubles
  case h_2 => cases h

end BraceScript
