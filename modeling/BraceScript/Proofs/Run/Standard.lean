import BraceScript.Engine
import BraceScript.Proofs.Call.Distribution
import BraceScript.Proofs.Run.Anatomy
import BraceScript.Proofs.Scope.Leads
import BraceScript.Proofs.Table
import Mathlib.Data.List.Nodup

namespace BraceScript

section Except

variable {ε α β : Type}

theorem exists_of_bind_eq_ok {x : Except ε α} {f : α → Except ε β} {b : β}
    (h : x >>= f = .ok b) : ∃ a, x = .ok a ∧ f a = .ok b := by
  cases x with
  | error e => cases h
  | ok a => exact ⟨a, rfl, h⟩

theorem exists_of_toBool {x : Except ε α} (h : x.toBool = true) : ∃ a, x = .ok a := by
  cases x with
  | error e => cases h
  | ok a => exact ⟨a, rfl⟩

theorem exists_of_mem_mapM {f : α → Except ε β} {xs : List α} {ys : List β}
    (h : xs.mapM f = .ok ys) {y : β} (hy : y ∈ ys) : ∃ x ∈ xs, f x = .ok y := by
  induction xs generalizing ys with
  | nil =>
    cases h
    cases hy
  | cons x xs ih =>
    rw [List.mapM_cons] at h
    obtain ⟨z, hz, h⟩ := exists_of_bind_eq_ok h
    obtain ⟨zs, hzs, h⟩ := exists_of_bind_eq_ok h
    cases h
    cases hy with
    | head => exact ⟨x, List.mem_cons_self, hz⟩
    | tail _ hy =>
      obtain ⟨x', hx', hfx'⟩ := ih hzs hy
      exact ⟨x', List.mem_cons_of_mem x hx', hfx'⟩

theorem exists_mem_of_mapM {f : α → Except ε β} {xs : List α} {ys : List β}
    (h : xs.mapM f = .ok ys) {x : α} (hx : x ∈ xs) : ∃ y ∈ ys, f x = .ok y := by
  induction xs generalizing ys with
  | nil => cases hx
  | cons z xs ih =>
    rw [List.mapM_cons] at h
    obtain ⟨y, hy, h⟩ := exists_of_bind_eq_ok h
    obtain ⟨ys', hys', h⟩ := exists_of_bind_eq_ok h
    cases h
    cases hx with
    | head => exact ⟨y, List.mem_cons_self, hy⟩
    | tail _ hx =>
      obtain ⟨y', hmem, hy'⟩ := ih hys' hx
      exact ⟨y', List.mem_cons_of_mem y hmem, hy'⟩

end Except

variable {η : Type}

theorem Signature.handler_of_compile {patterns : List String} {description : String} {handler : η}
    {s : Signature η} (h : Signature.compile patterns description handler = .ok s) :
    s.handler = handler :=
  (Signature.compile_eq_ok_iff.mp h).2.2.2

theorem Definition.eq_of_declaration {declaration : Declaration η} {d : Definition η}
    (h : Definition.ofDeclaration declaration = .ok d) :
    ∃ signatures, declaration.signatures.mapM (fun declared ↦
        Signature.compile declared.1 declared.2.1 declared.2.2) = .ok signatures ∧
      d = ⟨Text.lower declaration.id, declaration.aliases.map Text.lower, declaration.category,
        declaration.description, signatures, declaration.family⟩ := by
  unfold Definition.ofDeclaration at h
  dsimp only at h
  split at h
  · cases h
  obtain ⟨signatures, hcompile, h⟩ := exists_of_bind_eq_ok h
  split at h
  · cases h
  cases h
  exact ⟨signatures, hcompile, rfl⟩

theorem Definition.of_declaration {declaration : Declaration η} {d : Definition η}
    (h : Definition.ofDeclaration declaration = .ok d) :
    d.id = Text.lower declaration.id ∧
    declaration.signatures.mapM (fun declared ↦
      Signature.compile declared.1 declared.2.1 declared.2.2) = .ok d.signatures := by
  obtain ⟨signatures, hcompile, rfl⟩ := Definition.eq_of_declaration h
  exact ⟨rfl, hcompile⟩

/-- The names that the definition of a declaration is found by. -/
def Declaration.keys (declaration : Declaration η) : List String :=
  (declaration.id :: declaration.aliases).map fun name ↦ normalize (Text.lower name)

theorem Definition.keys_of_declaration {declaration : Declaration η} {d : Definition η}
    (h : Definition.ofDeclaration declaration = .ok d) : Registry.keys d = declaration.keys := by
  obtain ⟨signatures, -, rfl⟩ := Definition.eq_of_declaration h
  simp [Registry.keys, Declaration.keys]

theorem Definition.compiled_of_declaration {declaration : Declaration η} {d : Definition η}
    (h : Definition.ofDeclaration declaration = .ok d) {s : Signature η} (hs : s ∈ d.signatures) :
    ∃ declared ∈ declaration.signatures,
      Signature.compile declared.1 declared.2.1 declared.2.2 = .ok s :=
  exists_of_mem_mapM (Definition.of_declaration h).2 hs

theorem Definition.signatures_of_single {declaration : Declaration η} {d : Definition η}
    (h : Definition.ofDeclaration declaration = .ok d) {patterns : List String} {text : String}
    {handler : η} (hone : declaration.signatures = [(patterns, text, handler)]) {s : Signature η}
    (hcompile : Signature.compile patterns text handler = .ok s) : d.signatures = [s] := by
  have hcompiled := (Definition.of_declaration h).2
  rw [hone, List.mapM_cons, hcompile] at hcompiled
  have hsingle : [s] = d.signatures := Except.ok.inj hcompiled
  exact hsingle.symm

theorem Definition.handler_of_declaration {declaration : Declaration η} {d : Definition η}
    (h : Definition.ofDeclaration declaration = .ok d) {s : Signature η} (hs : s ∈ d.signatures) :
    ∃ declared ∈ declaration.signatures, declared.2.2 = s.handler := by
  obtain ⟨declared, hmem, hdeclared⟩ := Definition.compiled_of_declaration h hs
  exact ⟨declared, hmem, (Signature.handler_of_compile hdeclared).symm⟩

namespace Registry

variable {r r' : Registry η} {d x : Definition η}

def Has (r : Registry η) (d : Definition η) : Prop := (∃ e ∈ r.names, e.2 = d) ∨ d ∈ r.families

theorem eq_of_mem_names {keys : List String} {names : Table String (Definition η)}
    {e : String × Definition η} (h : e ∈ keys.foldl (fun names key ↦ names.set key d) names) :
    e ∈ names ∨ e.2 = d := by
  induction keys generalizing names with
  | nil => exact Or.inl h
  | cons key keys ih =>
    obtain h | h := ih h
    · exact Table.eq_of_mem_set h
    · exact Or.inr h

/-- A definition is refused for the first of its names that is taken, which changes nothing, and is
added if there is none. -/
theorem register_cases (r : Registry η) (d : Definition η) :
    (∃ key ∈ keys d, r.names.contains key = true ∧
      r.register d = (.error (.duplicateSubtag key), r)) ∨
    (∀ key ∈ keys d, ¬r.names.contains key = true) ∧ r.register d = (.ok (), r.add d) := by
  unfold register
  split
  · rename_i key hkey
    exact Or.inl ⟨key, List.mem_of_find?_eq_some hkey, List.find?_some hkey, rfl⟩
  · rename_i hfree
    exact Or.inr ⟨List.find?_eq_none.mp hfree, rfl⟩

theorem register_eq_ok_iff : r.register d = (.ok (), r') ↔
    (∀ key ∈ keys d, ¬r.names.contains key = true) ∧ r' = r.add d := by
  rcases r.register_cases d with ⟨key, hkey, htaken, h⟩ | ⟨hfree, h⟩
  · rw [h]
    exact iff_of_false (by simp) fun hfree ↦ hfree.1 key hkey htaken
  · rw [h]
    constructor
    · rintro ⟨⟩
      exact ⟨hfree, rfl⟩
    · rintro ⟨-, rfl⟩
      rfl

theorem registerAll_cons_eq_ok_iff {ds : List (Definition η)} :
    r.registerAll (d :: ds) = (.ok (), r') ↔
      ∃ r₁, r.register d = (.ok (), r₁) ∧ r₁.registerAll ds = (.ok (), r') := by
  rw [registerAll]
  rcases r.register d with ⟨e | _, r₁⟩
  · simp
  · simp

theorem extend_eq_ok_iff {ds : List (Definition η)} :
    r.extend ds = .ok r' ↔ r.registerAll ds = (.ok (), r') := by
  rw [extend]
  rcases r.registerAll ds with ⟨e | _, r₁⟩
  · simp
  · simp

theorem has_of_add (hx : (r.add d).Has x) : r.Has x ∨ x = d := by
  rcases hx with ⟨e, he, rfl⟩ | hx
  · obtain he | rfl := eq_of_mem_names he
    · exact Or.inl (Or.inl ⟨e, he, rfl⟩)
    · exact Or.inr rfl
  · unfold add at hx
    dsimp only at hx
    split at hx
    · obtain hx | hx := List.mem_append.mp (List.mem_mergeSort.mp hx)
      · exact Or.inl (Or.inr hx)
      · exact Or.inr (List.mem_singleton.mp hx)
    · exact Or.inl (Or.inr hx)

theorem has_of_registerAll {ds : List (Definition η)} (h : r.registerAll ds = (.ok (), r'))
    (hx : r'.Has x) : r.Has x ∨ x ∈ ds := by
  induction ds generalizing r with
  | nil =>
    cases h
    exact Or.inl hx
  | cons d ds ih =>
    obtain ⟨r₁, hr₁, h⟩ := registerAll_cons_eq_ok_iff.mp h
    obtain ⟨-, rfl⟩ := register_eq_ok_iff.mp hr₁
    obtain hx | hx := ih h
    · obtain hx | rfl := has_of_add hx
      · exact Or.inl hx
      · exact Or.inr List.mem_cons_self
    · exact Or.inr (List.mem_cons_of_mem d hx)

theorem get?_foldl_set {keys : List String} (names : Table String (Definition η)) (key : String) :
    (keys.foldl (fun names key ↦ names.set key d) names).get? key =
      if key ∈ keys then some d else names.get? key := by
  induction keys generalizing names with
  | nil => rfl
  | cons k keys ih =>
    rw [List.foldl_cons, ih, Table.get?_set]
    by_cases hkey : k = key
    · simp [hkey]
    · simp [hkey, Ne.symm hkey]

theorem get?_add (r : Registry η) (d : Definition η) (key : String) :
    (r.add d).names.get? key = if key ∈ keys d then some d else r.names.get? key :=
  get?_foldl_set r.names key

theorem get?_of_register (h : r.register d = (.ok (), r')) {key : String}
    (hkey : key ∈ keys d ∧ x = d ∨ r.names.get? key = some x) : r'.names.get? key = some x := by
  obtain ⟨hfree, rfl⟩ := register_eq_ok_iff.mp h
  rw [get?_add]
  rcases hkey with ⟨hmem, rfl⟩ | hfound
  · rw [if_pos hmem]
  · rw [if_neg, hfound]
    intro hmem
    have hnot := hfree key hmem
    rw [Table.contains, hfound] at hnot
    exact hnot rfl

theorem get?_of_registerAll {ds : List (Definition η)} (h : r.registerAll ds = (.ok (), r'))
    {key : String} (hkey : x ∈ ds ∧ key ∈ keys x ∨ r.names.get? key = some x) :
    r'.names.get? key = some x := by
  induction ds generalizing r with
  | nil =>
    cases h
    exact hkey.resolve_left fun hmem ↦ absurd hmem.1 List.not_mem_nil
  | cons d ds ih =>
    obtain ⟨r₁, hr₁, h⟩ := registerAll_cons_eq_ok_iff.mp h
    refine ih h ?_
    rcases hkey with ⟨hmem, hkey⟩ | hfound
    · rcases List.mem_cons.mp hmem with rfl | hmem
      · exact Or.inr (get?_of_register hr₁ (Or.inl ⟨hkey, rfl⟩))
      · exact Or.inl ⟨hmem, hkey⟩
    · exact Or.inr (get?_of_register hr₁ (Or.inr hfound))

theorem has_of_lookup {name : String} (h : r.lookup name = some d) : r.Has d := by
  unfold lookup at h
  dsimp only at h
  split at h
  · rename_i hget
    cases h
    exact Or.inl ⟨_, Table.mem_of_get? hget, rfl⟩
  · exact Or.inr (List.mem_of_find?_eq_some h)

end Registry

def Blueprint.engine (b : Blueprint) (scopes : Scopes) (registry : Registry Handler) : Engine where
  config := b.config
  scopes := scopes
  registry := registry
  plugins := b.plugins?.getD (.standard b.config.regexSizeLimit b.explain)
  directory? := b.directory?
  faults := b.faults

theorem Engine.build_eq_ok_iff {b : Blueprint} (hstandard : b.withStandard = true)
    (hdefinitions : b.definitions = []) {e : Engine} :
    Engine.build b = .ok e ↔ ∃ scopes registry, Scopes.ofProviders b.providers = .ok scopes ∧
      Subtags.standard >>= Registry.extend {} = .ok registry ∧
      e = b.engine scopes registry := by
  unfold Engine.build
  rw [hdefinitions]
  -- What the standard subtags are does not matter here.
  generalize Subtags.standard = compiled
  constructor
  · intro h
    obtain ⟨scopes, hscopes, h⟩ := exists_of_bind_eq_ok h
    rw [hstandard, if_pos rfl] at h
    obtain ⟨standard, hcompiled, h⟩ := exists_of_bind_eq_ok h
    obtain ⟨registry, hregistry, h⟩ := exists_of_bind_eq_ok h
    cases h
    rw [hcompiled]
    exact ⟨scopes, registry, hscopes, hregistry, rfl⟩
  · rintro ⟨scopes, registry, hscopes, hregistry, rfl⟩
    obtain ⟨standard, hcompiled, hregistered⟩ := exists_of_bind_eq_ok hregistry
    subst hcompiled
    simp only [hscopes, hstandard, hregistered, bind, Except.bind, if_pos]
    rfl

theorem Subtags.nodup_ids :
    (Subtags.standardDeclarations.map fun declaration ↦ Text.lower declaration.id).Nodup := by
  decide +kernel

/-- The standard declares this subtag with one signature, which is given but for its description. -/
structure Subtags.Declares (declaration : Declaration Handler)
    (signature : String → Signature Handler) : Prop where
  mem : declaration ∈ Subtags.standardDeclarations
  one : ∃ patterns text handler, declaration.signatures = [(patterns, text, handler)] ∧
    Signature.compile patterns text handler = .ok (signature text)

/-- The engine answers the standard subtags and no others. -/
def Engine.Standard (e : Engine) : Prop :=
  ∃ b : Blueprint, b.withStandard = true ∧ b.definitions = [] ∧ Engine.build b = .ok e

namespace Engine.Standard

variable {e : Engine} {name : String} {d : Definition Handler}

theorem exists_registered (he : e.Standard) : ∃ standard, Subtags.standard = .ok standard ∧
    Registry.registerAll {} standard = (.ok (), e.registry) := by
  obtain ⟨b, hstandard, hdefinitions, hbuild⟩ := he
  obtain ⟨scopes, registry, -, hregistry, rfl⟩ := (build_eq_ok_iff hstandard hdefinitions).mp hbuild
  obtain ⟨standard, hcompiled, hregistered⟩ := exists_of_bind_eq_ok hregistry
  exact ⟨standard, hcompiled, Registry.extend_eq_ok_iff.mp hregistered⟩

theorem declared (he : e.Standard) (h : e.registry.lookup name = some d) :
    ∃ declaration ∈ Subtags.standardDeclarations, Definition.ofDeclaration declaration = .ok d := by
  obtain ⟨standard, hcompiled, hregistry⟩ := he.exists_registered
  obtain (⟨_, hnone, _⟩ | hnone) | hmem := Registry.has_of_registerAll hregistry
    (Registry.has_of_lookup h)
  · cases hnone
  · cases hnone
  · exact exists_of_mem_mapM hcompiled hmem

theorem declaration_of_mem (he : e.Standard) (hd : e.registry.lookup name = some d)
    {declaration : Declaration Handler} (hmem : declaration ∈ Subtags.standardDeclarations)
    (hid : d.id = Text.lower declaration.id) : Definition.ofDeclaration declaration = .ok d := by
  obtain ⟨found, hfound, hdeclared⟩ := he.declared hd
  have hsame : Text.lower found.id = Text.lower declaration.id :=
    (Definition.of_declaration hdeclared).1.symm.trans hid
  rwa [← List.inj_on_of_nodup_map Subtags.nodup_ids hfound hmem hsame]

theorem lookup_of_key (he : e.Standard) {declaration : Declaration Handler}
    (hmem : declaration ∈ Subtags.standardDeclarations) (hkey : normalize name ∈ declaration.keys) :
    ∃ d, Definition.ofDeclaration declaration = .ok d ∧ e.registry.lookup name = some d := by
  obtain ⟨standard, hcompiled, hregistry⟩ := he.exists_registered
  obtain ⟨d, hd, hdeclaration⟩ := exists_mem_of_mapM hcompiled hmem
  rw [← Definition.keys_of_declaration hdeclaration] at hkey
  have hfound : e.registry.names.get? (normalize name) = some d :=
    Registry.get?_of_registerAll hregistry (Or.inl ⟨hd, hkey⟩)
  refine ⟨d, hdeclaration, ?_⟩
  unfold Registry.lookup
  dsimp only
  rw [hfound]

theorem lookup_of_mem (he : e.Standard) {declaration : Declaration Handler}
    (hmem : declaration ∈ Subtags.standardDeclarations)
    (hname : normalize name = normalize (Text.lower declaration.id)) :
    ∃ d, Definition.ofDeclaration declaration = .ok d ∧ e.registry.lookup name = some d := by
  refine he.lookup_of_key hmem ?_
  rw [hname]
  exact List.mem_cons_self

theorem signatures_of_declares (he : e.Standard) (hd : e.registry.lookup name = some d)
    {declaration : Declaration Handler} {signature : String → Signature Handler}
    (h : Subtags.Declares declaration signature) (hid : d.id = Text.lower declaration.id) :
    ∃ description, d.signatures = [signature description] := by
  obtain ⟨patterns, text, handler, hone, hcompile⟩ := h.one
  have hdeclaration := he.declaration_of_mem hd h.mem hid
  exact ⟨text, Definition.signatures_of_single hdeclaration hone hcompile⟩

end Engine.Standard

def Handler.isScript : Handler → Bool
  | script _ => true
  | host _ => false

theorem standardDeclarations_isScript :
    Subtags.standardDeclarations.all (·.signatures.all (·.2.2.isScript)) = true := by
  rfl

theorem Engine.Standard.scripted {e : Engine} (he : e.Standard) :
    e.registry.Scripted := by
  intro name d hd signature hsignature
  obtain ⟨declaration, hmem, hdeclaration⟩ := he.declared hd
  obtain ⟨declared, hdeclared, hhandler⟩ := Definition.handler_of_declaration hdeclaration hsignature
  have hall := List.all_eq_true.mp standardDeclarations_isScript declaration hmem
  have hscript := List.all_eq_true.mp hall declared hdeclared
  rw [hhandler] at hscript
  cases hbody : signature.handler with
  | script body => exact ⟨body, rfl⟩
  | host body =>
    rw [hbody] at hscript
    cases hscript

theorem extend_standard : (Subtags.standard >>= Registry.extend {}).toBool = true := by
  decide +kernel

theorem Engine.exists_standard {b : Blueprint} (hstandard : b.withStandard = true)
    (hdefinitions : b.definitions = [])
    (haccepted : ∃ scopes, Scopes.ofProviders b.providers = .ok scopes) :
    ∃ e, Engine.build b = .ok e ∧ e.Standard := by
  obtain ⟨scopes, hscopes⟩ := haccepted
  obtain ⟨registry, hregistry⟩ := exists_of_toBool extend_standard
  have hbuild : Engine.build b = .ok (b.engine scopes registry) :=
    (Engine.build_eq_ok_iff hstandard hdefinitions).mpr ⟨scopes, registry, hscopes, hregistry, rfl⟩
  exact ⟨_, hbuild, b, hstandard, hdefinitions, hbuild⟩

/-- A blueprint of which an engine with this property is built makes a standard engine with it. -/
theorem Engine.exists_standard_of_any {b : Blueprint} (hstandard : b.withStandard = true)
    (hdefinitions : b.definitions = []) {p : Engine → Bool}
    (h : (Engine.build b).toOption.any p = true) :
    ∃ e, Engine.build b = .ok e ∧ e.Standard ∧ p e = true := by
  cases hbuild : Engine.build b with
  | error _ =>
    rw [hbuild] at h
    cases h
  | ok e =>
    rw [hbuild] at h
    exact ⟨e, rfl, ⟨b, hstandard, hdefinitions, hbuild⟩, h⟩

theorem Scopes.exists_ofProviders_standard :
    ∃ scopes, Scopes.ofProviders Provider.standard = .ok scopes :=
  ⟨_, ofProviders_of_nodup ⟨⟨"", .tag⟩, List.mem_cons_self, rfl⟩ (by decide)⟩

end BraceScript
