namespace BraceScript

/-- Entries in the order in which their keys were first set. -/
abbrev Table (κ α : Type) := List (κ × α)

namespace Table

variable {κ α : Type} [DecidableEq κ]

def get? (t : Table κ α) (key : κ) : Option α :=
  match t with
  | [] => none
  | (k, v) :: rest => if k = key then some v else get? rest key

def contains (t : Table κ α) (key : κ) : Bool := (get? t key).isSome

def set (t : Table κ α) (key : κ) (value : α) : Table κ α :=
  match t with
  | [] => [(key, value)]
  | (k, v) :: rest => if k = key then (key, value) :: rest else (k, v) :: set rest key value

def erase (t : Table κ α) (key : κ) : Table κ α := t.filter fun e ↦ e.1 ≠ key

end Table

end BraceScript
