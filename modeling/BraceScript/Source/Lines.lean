import BraceScript.Source.Marker

namespace BraceScript

def lineStarts (i : Nat) : List Char → List Nat
  | [] => []
  | c :: text =>
    if c = '\n' then (i + c.utf8Size) :: lineStarts (i + c.utf8Size) text
    else lineStarts (i + c.utf8Size) text

namespace Sorted

/-- Halves the `size` entries from `base` on, as long as there are several: the upper half is left
unless it starts with more than `key`. -/
def halve (table : List Nat) (key base size : Nat) : Nat :=
  if size ≤ 1 then base
  else if key < table.getD (base + size / 2) 0 then halve table key base (size - size / 2)
  else halve table key (base + size / 2) (size - size / 2)
termination_by size

/-- The entry that is `key`, or the one before which `key` belongs. -/
inductive Position where
  | found (i : Nat)
  | missing (i : Nat)

def search (table : List Nat) (key : Nat) : Position :=
  if table.isEmpty then .missing 0
  else
    let base := halve table key 0 table.length
    if table.getD base 0 = key then .found base
    else if table.getD base 0 < key then .missing (base + 1)
    else .missing base

end Sorted

/-- The first `n` bytes of `text` and what follows them; none when they end inside of a character or
the text is shorter. -/
def splitBytes? : Nat → List Char → Option (List Char × List Char)
  | 0, text => some ([], text)
  | _ + 1, [] => none
  | n + 1, c :: text =>
    if c.utf8Size ≤ n + 1 then
      (splitBytes? (n + 1 - c.utf8Size) text).map fun split ↦ (c :: split.1, split.2)
    else none

def slice? (source : String) (i j : Nat) : Option (List Char) :=
  if i ≤ j then do
    let before ← splitBytes? i source.toList
    let split ← splitBytes? (j - i) before.2
    return split.1
  else none

structure LineTable where
  source : String
  starts : List Nat

namespace LineTable

def ofSource (source : String) : LineTable := ⟨source, 0 :: lineStarts 0 source.toList⟩

def line? (table : LineTable) (i : Nat) : Option Nat :=
  match Sorted.search table.starts i with
  | .found line => some line
  | .missing 0 => none
  | .missing (line + 1) => some line

def marker? (table : LineTable) (i : Nat) : Option Marker := do
  let line ← table.line? i
  let start ← table.starts[line]?
  let text ← slice? table.source start i
  return ⟨i, line + 1, text.length + 1⟩

end LineTable

end BraceScript
