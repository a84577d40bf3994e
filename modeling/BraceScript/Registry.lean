import BraceScript.Call.Definition
import BraceScript.Table
import BraceScript.Text.Blank

namespace BraceScript

/-- Names are compared without the blanks around them and in lower case. -/
def normalize (name : String) : String := Text.lower (Text.trim name)

/-- Definitions by normalized name, and the families, those with longer ids first. -/
structure Registry (η : Type) where
  names : Table String (Definition η) := []
  families : List (Definition η) := []

namespace Registry

variable {η : Type}

def keys (d : Definition η) : List String := (d.id :: d.aliases).map normalize

/-- The registry with a definition under all its names, and among the families if it is one. -/
def add (r : Registry η) (d : Definition η) : Registry η where
  names := (keys d).foldl (fun names key ↦ names.set key d) r.names
  families :=
    if d.family then
      (r.families ++ [d]).mergeSort fun a b ↦ b.id.utf8ByteSize ≤ a.id.utf8ByteSize
    else r.families

/-- Adds a definition unless one of its names is taken: the outcome and the registry after it. -/
def register (r : Registry η) (d : Definition η) : Except BuildError Unit × Registry η :=
  match (keys d).find? r.names.contains with
  | some taken => (.error (.duplicateSubtag taken), r)
  | none => (.ok (), r.add d)

def registerAll : Registry η → List (Definition η) → Except BuildError Unit × Registry η
  | r, [] => (.ok (), r)
  | r, d :: ds =>
    match r.register d with
    | (.ok (), r) => r.registerAll ds
    | (.error e, r) => (.error e, r)

def extend (r : Registry η) (ds : List (Definition η)) : Except BuildError (Registry η) :=
  match r.registerAll ds with
  | (.ok (), r) => .ok r
  | (.error e, _) => .error e

def inFamily (d : Definition η) (name : String) : Bool :=
  d.id.toList.isPrefixOf name.toList && d.id.utf8ByteSize < name.utf8ByteSize

def lookup (r : Registry η) (name : String) : Option (Definition η) :=
  let name := normalize name
  match r.names.get? name with
  | some d => some d
  | none => r.families.find? (inFamily · name)

def ids (r : Registry η) : List String :=
  ((r.names.filter fun e ↦ e.1 = e.2.id).map Prod.fst).mergeSort fun a b ↦ a ≤ b

end Registry

end BraceScript
