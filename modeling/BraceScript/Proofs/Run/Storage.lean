import BraceScript.Proofs.Table
import BraceScript.Run.Services

namespace BraceScript

/-- The scopes of stored variables that belong to a request. -/
def Origin.Reaches (o : Origin) : StorageScope → Prop
  | .tag name => name = o.tag
  | .author id => o.author? = some id
  | .guild id => o.guild? = some id
  | .global => True

theorem Origin.reaches_of_storage {o : Origin} {kind : ScopeKind} {scope : StorageScope}
    (h : o.storage kind = .ok (some scope)) : o.Reaches scope := by
  cases kind with
  | temporary => cases h
  | tag =>
    cases h
    rfl
  | global =>
    cases h
    trivial
  | author =>
    simp only [storage] at h
    cases ha : o.author? with
    | none => simp [ha] at h
    | some id =>
      simp only [ha, Except.ok.injEq, Option.some.injEq] at h
      cases h
      exact ha
  | guild =>
    simp only [storage] at h
    cases hg : o.guild? with
    | none => simp [hg] at h
    | some id =>
      simp only [hg, Except.ok.injEq, Option.some.injEq] at h
      cases h
      exact hg

namespace Services

theorem reaches_of_locate {svc : Services} {raw name : String} {scope : StorageScope}
    (h : svc.locate raw = .ok (some scope, name)) : svc.origin.Reaches scope := by
  unfold locate at h
  split at h
  · cases h
  · split at h
    · cases h
    · rename_i hstorage
      cases h
      exact Origin.reaches_of_storage hstorage

end Services

namespace Store

variable {P : StorageScope → Prop} {s t : Store}

/-- The same variables with the same values, in the scopes that satisfy `P`. -/
def AgreeOn (P : StorageScope → Prop) (s t : Store) : Prop :=
  ∀ v : Variable, P v.scope → s.get? v = t.get? v

theorem AgreeOn.refl (P : StorageScope → Prop) (s : Store) : s.AgreeOn P s := fun _ _ ↦ rfl

theorem AgreeOn.set (h : s.AgreeOn P t) (v : Variable) (value : Value) :
    AgreeOn P (s.set v value) (t.set v value) := by
  intro w hw
  rw [Table.get?_set, Table.get?_set, h w hw]

theorem AgreeOn.erase (h : s.AgreeOn P t) (v : Variable) : AgreeOn P (s.erase v) (t.erase v) := by
  intro w hw
  rw [Table.get?_erase, Table.get?_erase, h w hw]

theorem AgreeOn.set_right (h : s.AgreeOn P t) {v : Variable} (hv : ¬P v.scope) (value : Value) :
    AgreeOn P s (t.set v value) := by
  intro w hw
  have hne : v ≠ w := fun hvw ↦ hv (hvw ▸ hw)
  rw [Table.get?_set, if_neg hne, h w hw]

theorem AgreeOn.erase_right (h : s.AgreeOn P t) {v : Variable} (hv : ¬P v.scope) :
    AgreeOn P s (t.erase v) := by
  intro w hw
  have hne : v ≠ w := fun hvw ↦ hv (hvw ▸ hw)
  rw [Table.get?_erase, if_neg hne, h w hw]

end Store

end BraceScript
