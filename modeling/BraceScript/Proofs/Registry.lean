import BraceScript.Proofs.Run.Standard
import BraceScript.Proofs.Text.Lead
import Mathlib.Data.List.Nodup
import Mathlib.Data.List.Pairwise

namespace BraceScript

def IsLead (lead name : String) : Prop := ∃ rest, rest ≠ "" ∧ name = lead ++ rest

theorem isLead_iff (lead name : String) :
    IsLead lead name ↔ lead.toList <+: name.toList ∧ lead.utf8ByteSize < name.utf8ByteSize := by
  constructor
  · rintro ⟨rest, hrest, rfl⟩
    have hpos : rest.utf8ByteSize ≠ 0 := fun hzero ↦ hrest (String.utf8ByteSize_eq_zero_iff.mp hzero)
    rw [String.toList_append, String.utf8ByteSize_append]
    exact ⟨List.prefix_append _ _, by omega⟩
  · rintro ⟨hlead, hlt⟩
    obtain ⟨rest, rfl⟩ := exists_append_of_toList hlead
    refine ⟨rest, fun hempty ↦ ?_, rfl⟩
    rw [hempty, String.append_empty] at hlt
    exact Nat.lt_irrefl _ hlt

theorem IsLead.eq_of_size {lead lead' name : String} (h : IsLead lead name) (h' : IsLead lead' name)
    (hsize : lead.utf8ByteSize = lead'.utf8ByteSize) : lead = lead' :=
  eq_of_prefix_of_size ((isLead_iff lead name).mp h).1 ((isLead_iff lead' name).mp h').1 hsize

namespace Registry

variable {η : Type} {r r' : Registry η} {d : Definition η} {ds : List (Definition η)}

theorem inFamily_iff (d : Definition η) (name : String) :
    inFamily d name = true ↔ IsLead d.id name := by
  rw [inFamily, Bool.and_eq_true_iff, List.isPrefixOf_iff_prefix, decide_eq_true_eq, isLead_iff]

def Apart (d d' : Definition η) : Prop := ∀ key ∈ keys d, key ∉ keys d'

theorem Apart.symm {d d' : Definition η} (h : Apart d d') : Apart d' d :=
  fun key hkey hkey' ↦ h key hkey' hkey

instance : Std.Symm (Apart (η := η)) := ⟨fun _ _ h ↦ h.symm⟩

theorem normalize_id_mem_keys (d : Definition η) : normalize d.id ∈ keys d := List.mem_cons_self

/-- The registry holds these definitions and no others. -/
structure Holds (r : Registry η) (ds : List (Definition η)) : Prop where
  found : ∀ key d, r.names.get? key = some d ↔ d ∈ ds ∧ key ∈ keys d
  once : (r.names.map Prod.fst).Nodup
  families : r.families.Perm (ds.filter Definition.family)
  sorted : r.families.Pairwise fun a b ↦ b.id.utf8ByteSize ≤ a.id.utf8ByteSize
  apart : ds.Pairwise Apart

theorem holds_nil : Holds ({} : Registry η) [] where
  found key d := by simp [Table.get?]
  once := List.nodup_nil
  families := List.Perm.refl _
  sorted := List.Pairwise.nil
  apart := List.Pairwise.nil

theorem Holds.contains_iff (h : r.Holds ds) (key : String) :
    r.names.contains key = true ↔ ∃ d ∈ ds, key ∈ keys d := by
  rw [Table.contains, Option.isSome_iff_exists]
  constructor
  · rintro ⟨d, hd⟩
    exact ⟨d, (h.found key d).mp hd⟩
  · rintro ⟨d, hd⟩
    exact ⟨d, (h.found key d).mpr hd⟩

theorem nodup_foldl_set {names : Table String (Definition η)} (h : (names.map Prod.fst).Nodup)
    (keys : List String) (d : Definition η) :
    ((keys.foldl (fun names key ↦ names.set key d) names).map Prod.fst).Nodup := by
  induction keys generalizing names with
  | nil => exact h
  | cons key keys ih => exact ih (Table.nodup_set h key d)

theorem Holds.register_error (h : r.Holds ds) {e : BuildError}
    (herror : (r.register d).1 = .error e) : r.register d = (.error e, r) ∧
      ∃ key ∈ keys d, (∃ d' ∈ ds, key ∈ keys d') ∧ e = .duplicateSubtag key := by
  rcases r.register_cases d with ⟨key, hkey, htaken, hregister⟩ | ⟨-, hregister⟩
  · rw [hregister] at herror ⊢
    cases herror
    exact ⟨rfl, key, hkey, (h.contains_iff key).mp htaken, rfl⟩
  · rw [hregister] at herror
    cases herror

theorem sorted_families (families : List (Definition η)) :
    (families.mergeSort fun a b ↦ b.id.utf8ByteSize ≤ a.id.utf8ByteSize).Pairwise
      fun a b ↦ b.id.utf8ByteSize ≤ a.id.utf8ByteSize := by
  have htrans (a b c : Definition η) (hab : decide (b.id.utf8ByteSize ≤ a.id.utf8ByteSize) = true)
      (hbc : decide (c.id.utf8ByteSize ≤ b.id.utf8ByteSize) = true) :
      decide (c.id.utf8ByteSize ≤ a.id.utf8ByteSize) = true := by
    simp only [decide_eq_true_eq] at hab hbc ⊢
    omega
  have htotal (a b : Definition η) : (decide (b.id.utf8ByteSize ≤ a.id.utf8ByteSize) ||
      decide (a.id.utf8ByteSize ≤ b.id.utf8ByteSize)) = true := by
    simp only [Bool.or_eq_true, decide_eq_true_eq]
    omega
  exact (List.pairwise_mergeSort htrans htotal families).imp of_decide_eq_true

theorem Holds.apart_of_register (h : r.Holds ds) (hok : r.register d = (.ok (), r')) :
    ∀ d' ∈ ds, Apart d' d := by
  intro d' hd' key hkey' hkey
  exact (register_eq_ok_iff.mp hok).1 key hkey ((h.contains_iff key).mpr ⟨d', hd', hkey'⟩)

theorem Holds.register (h : r.Holds ds) (hok : r.register d = (.ok (), r')) :
    r'.Holds (ds ++ [d]) := by
  have hapart := h.apart_of_register hok
  obtain ⟨-, rfl⟩ := register_eq_ok_iff.mp hok
  constructor
  · intro key x
    rw [get?_add]
    split
    · rename_i hkey
      constructor
      · intro hx
        cases hx
        exact ⟨List.mem_append_right ds List.mem_cons_self, hkey⟩
      · rintro ⟨hx, hkeyx⟩
        rcases List.mem_append.mp hx with hx | hx
        · exact absurd hkey (hapart x hx key hkeyx)
        · rw [List.mem_singleton.mp hx]
    · rename_i hkey
      rw [h.found]
      constructor
      · rintro ⟨hx, hkeyx⟩
        exact ⟨List.mem_append_left [d] hx, hkeyx⟩
      · rintro ⟨hx, hkeyx⟩
        rcases List.mem_append.mp hx with hx | hx
        · exact ⟨hx, hkeyx⟩
        · rw [List.mem_singleton.mp hx] at hkeyx
          exact absurd hkeyx hkey
  · exact nodup_foldl_set h.once (keys d) d
  · rw [List.filter_append, add]
    by_cases hfamily : d.family = true
    · rw [if_pos hfamily, List.filter_cons_of_pos hfamily]
      exact (List.mergeSort_perm _ _).trans (h.families.append_right [d])
    · rw [if_neg hfamily, List.filter_cons_of_neg hfamily, List.filter_nil, List.append_nil]
      exact h.families
  · unfold add
    dsimp only
    split
    · exact sorted_families _
    · exact h.sorted
  · rw [List.pairwise_append]
    refine ⟨h.apart, List.pairwise_singleton _ d, fun d' hd' x hx ↦ ?_⟩
    rw [List.mem_singleton.mp hx]
    exact hapart d' hd'

theorem Holds.register_of_apart (h : r.Holds ds) (hapart : ∀ d' ∈ ds, Apart d' d) :
    r.register d = (.ok (), r.add d) := by
  refine register_eq_ok_iff.mpr ⟨fun key hkey htaken ↦ ?_, rfl⟩
  obtain ⟨d', hd', hkey'⟩ := (h.contains_iff key).mp htaken
  exact hapart d' hd' key hkey' hkey

/-- The registry after a definition has been offered to it, whether it was accepted or not. -/
def offer (r : Registry η) (d : Definition η) : Registry η := (r.register d).2

/-- The definitions that are accepted when these are offered one after another. -/
def accepted (r : Registry η) : List (Definition η) → List (Definition η)
  | [] => []
  | d :: ds =>
    match r.register d with
    | (.ok (), r) => d :: accepted r ds
    | (.error _, r) => accepted r ds

theorem accepted_append (r : Registry η) (xs ys : List (Definition η)) :
    accepted r (xs ++ ys) = accepted r xs ++ accepted (xs.foldl offer r) ys := by
  induction xs generalizing r with
  | nil => rfl
  | cons d xs ih =>
    rw [List.cons_append, accepted, accepted, List.foldl_cons, offer]
    rcases r.register d with ⟨e | _, r'⟩
    · exact ih r'
    · exact congrArg (List.cons d) (ih r')

theorem Holds.offers (h : r.Holds ds) (offered : List (Definition η)) :
    (offered.foldl offer r).Holds (ds ++ accepted r offered) := by
  induction offered generalizing r ds with
  | nil =>
    rw [accepted, List.append_nil]
    exact h
  | cons d offered ih =>
    rw [List.foldl_cons, offer, accepted]
    rcases r.register_cases d with ⟨key, -, -, hregister⟩ | ⟨-, hregister⟩
    · rw [hregister]
      exact ih h
    · have hrest := ih (h.register hregister)
      rw [List.append_assoc] at hrest
      rw [hregister]
      exact hrest

theorem Holds.registerAll (h : r.Holds ds) {xs : List (Definition η)}
    (hok : r.registerAll xs = (.ok (), r')) : r'.Holds (ds ++ xs) := by
  induction xs generalizing r ds with
  | nil =>
    cases hok
    rw [List.append_nil]
    exact h
  | cons d xs ih =>
    obtain ⟨r₁, hregister, hok⟩ := registerAll_cons_eq_ok_iff.mp hok
    have hrest := ih (h.register hregister) hok
    rw [List.append_assoc] at hrest
    exact hrest

theorem Holds.exists_registerAll (h : r.Holds ds) {xs : List (Definition η)}
    (hapart : (ds ++ xs).Pairwise Apart) : ∃ r', r.registerAll xs = (.ok (), r') := by
  induction xs generalizing r ds with
  | nil => exact ⟨r, rfl⟩
  | cons d xs ih =>
    have hregister := h.register_of_apart fun d' hd' ↦
      hapart.rel_of_mem_append hd' List.mem_cons_self
    rw [← List.singleton_append, ← List.append_assoc] at hapart
    obtain ⟨r', hrest⟩ := ih (h.register hregister) hapart
    exact ⟨r', registerAll_cons_eq_ok_iff.mpr ⟨_, hregister, hrest⟩⟩

/-- Adding definitions in order stops at the first that is refused, and keeps those before it. -/
theorem exists_of_registerAll_eq_error {xs : List (Definition η)} {e : BuildError}
    (h : r.registerAll xs = (.error e, r')) : ∃ before d after, xs = before ++ d :: after ∧
      r.registerAll before = (.ok (), r') ∧ r'.register d = (.error e, r') := by
  induction xs generalizing r with
  | nil => cases h
  | cons d xs ih =>
    rw [Registry.registerAll] at h
    rcases r.register_cases d with ⟨key, -, -, hregister⟩ | ⟨-, hregister⟩
    · rw [hregister] at h
      cases h
      exact ⟨[], d, xs, rfl, rfl, hregister⟩
    · rw [hregister] at h
      obtain ⟨before, d', after, rfl, hbefore, herror⟩ := ih h
      exact ⟨d :: before, d', after, rfl,
        registerAll_cons_eq_ok_iff.mpr ⟨_, hregister, hbefore⟩, herror⟩

/-- What `name` means where these definitions are held: the one that is called so, or else the
family with the longest id that `name` goes on from, or else nothing. -/
inductive Means (ds : List (Definition η)) (name : String) : Option (Definition η) → Prop
  | called {d : Definition η} (hd : d ∈ ds) (hkey : normalize name ∈ keys d) : Means ds name (some d)
  | family {d : Definition η} (hnone : ∀ x ∈ ds, normalize name ∉ keys x) (hd : d ∈ ds)
    (hfamily : d.family = true) (hlead : IsLead d.id (normalize name))
    (hlongest : ∀ x ∈ ds, x.family = true → IsLead x.id (normalize name) →
      x.id.utf8ByteSize ≤ d.id.utf8ByteSize) : Means ds name (some d)
  | unknown (hnone : ∀ x ∈ ds, normalize name ∉ keys x)
    (hlead : ∀ x ∈ ds, x.family = true → ¬IsLead x.id (normalize name)) : Means ds name none

theorem eq_of_apart (h : ds.Pairwise Apart) {x y : Definition η} (hx : x ∈ ds) (hy : y ∈ ds)
    {key : String} (hkey : key ∈ keys x) (hkey' : key ∈ keys y) : x = y := by
  by_contra hne
  exact h.forall hx hy hne key hkey hkey'

theorem Means.perm {xs : List (Definition η)} (h : ds.Perm xs) {name : String}
    {found : Option (Definition η)} (hmeans : Means ds name found) : Means xs name found := by
  cases hmeans with
  | called hd hkey => exact .called (h.mem_iff.mp hd) hkey
  | family hnone hd hfamily hlead hlongest =>
    exact .family (fun x hx ↦ hnone x (h.mem_iff.mpr hx)) (h.mem_iff.mp hd) hfamily hlead
      fun x hx ↦ hlongest x (h.mem_iff.mpr hx)
  | unknown hnone hlead =>
    exact .unknown (fun x hx ↦ hnone x (h.mem_iff.mpr hx)) fun x hx ↦ hlead x (h.mem_iff.mpr hx)

theorem Means.unique (h : ds.Pairwise Apart) {name : String} {found found' : Option (Definition η)}
    (hmeans : Means ds name found) (hmeans' : Means ds name found') : found = found' := by
  cases hmeans with
  | called hd hkey =>
    cases hmeans' with
    | called hd' hkey' => rw [eq_of_apart h hd hd' hkey hkey']
    | family hnone => exact absurd hkey (hnone _ hd)
    | unknown hnone => exact absurd hkey (hnone _ hd)
  | family hnone hd hfamily hlead hlongest =>
    cases hmeans' with
    | called hd' hkey' => exact absurd hkey' (hnone _ hd')
    | family hnone' hd' hfamily' hlead' hlongest' =>
      have hle := hlongest _ hd' hfamily' hlead'
      have hle' := hlongest' _ hd hfamily hlead
      have hid := hlead.eq_of_size hlead' (Nat.le_antisymm hle' hle)
      rw [eq_of_apart h hd hd' (normalize_id_mem_keys _) (hid ▸ normalize_id_mem_keys _)]
    | unknown hnone' hlead' => exact absurd hlead (hlead' _ hd hfamily)
  | unknown hnone hlead =>
    cases hmeans' with
    | called hd' hkey' => exact absurd hkey' (hnone _ hd')
    | family hnone' hd' hfamily' hlead' => exact absurd hlead' (hlead _ hd' hfamily')
    | unknown => rfl

/-- A family is found if it is the first one from whose id the name goes on, that is, one with the
longest id. -/
theorem Holds.find?_families (h : r.Holds ds) {name : String} {d : Definition η}
    (hfind : r.families.find? (inFamily · name) = some d) :
    d ∈ ds ∧ d.family = true ∧ IsLead d.id name ∧
      ∀ x ∈ ds, x.family = true → IsLead x.id name → x.id.utf8ByteSize ≤ d.id.utf8ByteSize := by
  have hmem := h.families.mem_iff.mp (List.mem_of_find?_eq_some hfind)
  obtain ⟨hmem, hfamily⟩ := List.mem_filter.mp hmem
  have hin : inFamily d name = true := (List.find?_some hfind :)
  refine ⟨hmem, hfamily, (inFamily_iff d name).mp hin, ?_⟩
  intro x hx hxfamily hxlead
  have hxmem := h.families.mem_iff.mpr (List.mem_filter.mpr ⟨hx, hxfamily⟩)
  exact le_of_find? h.sorted hfind x hxmem ((inFamily_iff x name).mpr hxlead)

theorem Holds.lookup (h : r.Holds ds) (name : String) : Means ds name (r.lookup name) := by
  unfold Registry.lookup
  dsimp only
  cases hget : r.names.get? (normalize name) with
  | some d =>
    obtain ⟨hd, hkey⟩ := (h.found (normalize name) d).mp hget
    exact .called hd hkey
  | none =>
    have hnone : ∀ x ∈ ds, normalize name ∉ keys x := by
      intro x hx hkey
      rw [(h.found (normalize name) x).mpr ⟨hx, hkey⟩] at hget
      cases hget
    dsimp only
    cases hfind : r.families.find? (inFamily · (normalize name)) with
    | some d =>
      obtain ⟨hd, hfamily, hlead, hlongest⟩ := h.find?_families hfind
      exact .family hnone hd hfamily hlead hlongest
    | none =>
      refine .unknown hnone fun x hx hfamily hlead ↦ ?_
      have hmem := h.families.mem_iff.mpr (List.mem_filter.mpr ⟨hx, hfamily⟩)
      exact List.find?_eq_none.mp hfind x hmem ((inFamily_iff x _).mpr hlead)

theorem Holds.perm_names {xs : List (Definition η)} (h : r.Holds ds) (h' : r'.Holds xs)
    (hperm : ds.Perm xs) : r.names.Perm r'.names := by
  rw [List.perm_ext_iff_of_nodup h.once.of_map h'.once.of_map]
  intro e
  rw [Table.mem_iff_get? h.once, Table.mem_iff_get? h'.once, h.found, h'.found, hperm.mem_iff]

theorem sorted_ids (r : Registry η) : r.ids.Pairwise (· ≤ ·) := by
  have htrans (a b c : String) (hab : decide (a ≤ b) = true) (hbc : decide (b ≤ c) = true) :
      decide (a ≤ c) = true :=
    decide_eq_true (String.le_trans (of_decide_eq_true hab) (of_decide_eq_true hbc))
  have htotal (a b : String) : (decide (a ≤ b) || decide (b ≤ a)) = true := by
    simpa only [Bool.or_eq_true, decide_eq_true_eq] using String.le_total a b
  exact (List.pairwise_mergeSort htrans htotal _).imp of_decide_eq_true

theorem perm_ids (r : Registry η) :
    r.ids.Perm ((r.names.filter fun e ↦ e.1 = e.2.id).map Prod.fst) :=
  List.mergeSort_perm _ _

theorem ids_of_perm (h : r.names.Perm r'.names) : r.ids = r'.ids := by
  have hlisted := (h.filter fun e ↦ e.1 = e.2.id).map Prod.fst
  have hperm := r.perm_ids.trans (hlisted.trans r'.perm_ids.symm)
  exact List.Perm.eq_of_pairwise (fun a b _ _ hab hba ↦ String.le_antisymm hab hba) r.sorted_ids
    r'.sorted_ids hperm

/-- What a registry is after any definitions have been offered to it. A definition is refused just
if one of its names is taken, and then nothing changes; every name means what the accepted
definitions say. Definitions that are all accepted are accepted in any order, and then they mean the
same. -/
theorem offered_meaning (offered : List (Definition η)) :
    let r := offered.foldl offer {}
    let ds := accepted {} offered
    (∀ d e r', r.register d = (.error e, r') →
      r' = r ∧ (offered ++ [d]).foldl offer {} = r ∧ accepted {} (offered ++ [d]) = ds ∧
      ∃ key ∈ keys d, (∃ x ∈ ds, key ∈ keys x) ∧ e = .duplicateSubtag key) ∧
    (∀ xs e r', registerAll r xs = (.error e, r') → ∃ before d after, xs = before ++ d :: after ∧
      registerAll r before = (.ok (), r') ∧ r'.register d = (.error e, r')) ∧
    (∀ d r', r.register d = (.ok (), r') → (offered ++ [d]).foldl offer {} = r' ∧
      accepted {} (offered ++ [d]) = ds ++ [d] ∧ ∀ key ∈ keys d, ∀ x ∈ ds, key ∉ keys x) ∧
    (∀ x ∈ ds, ∀ y ∈ ds, ∀ key ∈ keys x, key ∈ keys y → x = y) ∧
    (∀ name found, r.lookup name = found ↔ Means ds name found) ∧
    ∀ r', registerAll {} offered = (.ok (), r') → ∀ xs, xs.Perm offered →
      ∃ r'', registerAll {} xs = (.ok (), r'') ∧ (∀ name, r''.lookup name = r'.lookup name) ∧
        r''.ids = r'.ids := by
  intro r ds
  have hholds : r.Holds ds := holds_nil.offers offered
  refine ⟨fun d e r' herror ↦ ?_, fun xs e r' herror ↦ exists_of_registerAll_eq_error herror,
    fun d r' hok ↦ ?_, fun x hx y hy key hkey hkey' ↦ ?_,
    fun name found ↦ ?_, fun r' hok xs hperm ↦ ?_⟩
  · obtain ⟨hsame, hkey⟩ := hholds.register_error (congrArg Prod.fst herror)
    cases herror.symm.trans hsame
    refine ⟨rfl, ?_, ?_, hkey⟩
    · rw [List.foldl_append, List.foldl_cons, List.foldl_nil, offer, herror]
    · rw [accepted_append, accepted, herror]
      exact List.append_nil ds
  · refine ⟨?_, ?_, fun key hkey x hx hkey' ↦ hholds.apart_of_register hok x hx key hkey' hkey⟩
    · rw [List.foldl_append, List.foldl_cons, List.foldl_nil, offer, hok]
    · rw [accepted_append, accepted, hok]
      rfl
  · exact eq_of_apart hholds.apart hx hy hkey hkey'
  · have hlookup := hholds.lookup name
    constructor
    · rintro rfl
      exact hlookup
    · exact hlookup.unique hholds.apart
  · have hall : r'.Holds offered := holds_nil.registerAll hok
    have hapart : xs.Pairwise Apart := (hperm.pairwise_iff Apart.symm).mpr hall.apart
    obtain ⟨r'', hok''⟩ := holds_nil.exists_registerAll hapart
    have hall'' : r''.Holds xs := holds_nil.registerAll hok''
    refine ⟨r'', hok'', fun name ↦ ?_, ids_of_perm (hall''.perm_names hall hperm)⟩
    exact ((hall''.lookup name).perm hperm).unique hall.apart (hall.lookup name)

def bare (id : String) (aliases : List String) (family : Bool) : Definition Unit :=
  ⟨id, aliases, .text, "", [], family⟩

/-- Two families of which one goes on from the other. -/
def nested : List (Definition Unit) := [bare "func." [] true, bare "func.x" [" FX "] true]

theorem offered_meaning_nested_families :
    let r := nested.foldl offer {}
    accepted {} nested = nested ∧
    r.register (bare "fx" [] false) = (.error (.duplicateSubtag "fx"), r) ∧
    (nested ++ [bare "fx" [] false]).foldl offer {} = r ∧
    accepted {} (nested ++ [bare "fx" [] false]) = nested ∧
    r.lookup " Func.XYZ" = some (bare "func.x" [" FX "] true) ∧
    ∃ r₁ r₂, registerAll {} nested = (.ok (), r₁) ∧ registerAll {} nested.reverse = (.ok (), r₂) ∧
      (∀ name, r₂.lookup name = r₁.lookup name) ∧ r₂.ids = r₁.ids := by
  have hname : normalize " Func.XYZ" = "func.xyz" := by decide +kernel
  have hlead : IsLead "func.x" (normalize " Func.XYZ") := ⟨"yz", by decide, by rw [hname]; rfl⟩
  have hnone : ∀ x ∈ nested, normalize " Func.XYZ" ∉ keys x := by decide +kernel
  have hlongest : ∀ x ∈ nested, x.id.utf8ByteSize ≤ "func.x".utf8ByteSize := by decide
  have hmeans : Means nested " Func.XYZ" (some (bare "func.x" [" FX "] true)) :=
    .family hnone (List.mem_cons_of_mem _ List.mem_cons_self) rfl hlead
      fun x hx _ _ ↦ hlongest x hx
  have hds : accepted {} nested = nested := by rfl
  obtain ⟨r', herror⟩ : ∃ r', (nested.foldl offer {}).register (bare "fx" [] false) =
      (.error (.duplicateSubtag "fx"), r') := by exact ⟨_, rfl⟩
  obtain ⟨r₁, hall⟩ : ∃ r₁, registerAll {} nested = (.ok (), r₁) := by exact ⟨_, rfl⟩
  obtain ⟨hrefused, -, -, -, hlookup, horder⟩ := offered_meaning nested
  obtain ⟨rfl, hoffered, hsame, -⟩ := hrefused _ _ _ herror
  have hfound := (hlookup _ _).mpr (hds ▸ hmeans)
  obtain ⟨r₂, hok, hlookups, hids⟩ := horder r₁ hall nested.reverse nested.reverse_perm
  exact ⟨hds, herror, hoffered, hsame.trans hds, hfound, r₁, r₂, hall, hok, hlookups, hids⟩

end Registry

end BraceScript
