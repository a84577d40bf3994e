import BraceScript.Scope
import BraceScript.Table

namespace BraceScript

/-- A variable of a storage scope. -/
structure Variable where
  scope : StorageScope
  name : String
deriving DecidableEq

abbrev Store := Table Variable Value

/-- What a host store refuses: the error of reading, writing or resetting a variable, if any. -/
structure StoreFaults where
  onGet : Variable → Option Error := fun _ ↦ none
  onSet : Variable → Option Error := fun _ ↦ none
  onReset : Variable → Option Error := fun _ ↦ none

namespace Store

variable (faults : StoreFaults)

def read (s : Store) (v : Variable) : Except Error (Option Value) :=
  match faults.onGet v with
  | some e => .error e
  | none => .ok (s.get? v)

def write (s : Store) (v : Variable) (value : Value) : Except Error Store :=
  match faults.onSet v with
  | some e => .error e
  | none => .ok (s.set v value)

/-- Removes the named variables of a scope, all of them or, when one is refused, none. -/
def reset (s : Store) (scope : StorageScope) (names : List String) : Except Error Store :=
  match names.findSome? fun name ↦ faults.onReset ⟨scope, name⟩ with
  | some e => .error e
  | none => .ok (names.foldl (fun s name ↦ s.erase ⟨scope, name⟩) s)

end Store

end BraceScript
