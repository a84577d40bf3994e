namespace BraceScript.Unicode

/-- A set of characters as ranges of code points, in rising order and with a gap after each. -/
structure CharSet where
  ranges : List (Nat × Nat)
deriving DecidableEq

namespace CharSet

def empty : CharSet := ⟨[]⟩

def contains (s : CharSet) (c : Char) : Bool :=
  s.ranges.any fun r ↦ r.1 ≤ c.toNat && c.toNat ≤ r.2

def isEmpty (s : CharSet) : Bool := s.ranges.isEmpty

def join (lo hi : Nat) : List (Nat × Nat) → List (Nat × Nat)
  | [] => [(lo, hi)]
  | (a, b) :: rest => if a ≤ hi + 1 then join lo (max hi b) rest else (lo, hi) :: join a b rest

def ofSorted : List (Nat × Nat) → CharSet
  | [] => empty
  | (a, b) :: rest => ⟨join a b rest⟩

def ofRanges (ranges : List (Nat × Nat)) : CharSet :=
  ofSorted (ranges.mergeSort fun r s ↦ r.1 ≤ s.1)

def range (lo hi : Nat) : CharSet := ⟨[(lo, hi)]⟩

def ofChar (c : Char) : CharSet := range c.toNat c.toNat

def union (s t : CharSet) : CharSet := ofRanges (s.ranges ++ t.ranges)

def unionAll (sets : List CharSet) : CharSet := ofRanges (sets.flatMap ranges)

def within (s : CharSet) (lo hi : Nat) : List (Nat × Nat) :=
  s.ranges.filterMap fun r ↦
    if max lo r.1 ≤ min hi r.2 then some (max lo r.1, min hi r.2) else none

def inter (s t : CharSet) : CharSet := ⟨s.ranges.flatMap fun r ↦ t.within r.1 r.2⟩

/-- Every character. Surrogates are code points and no characters. -/
def all : CharSet := ⟨[(0, 0xD7FF), (0xE000, 0x10FFFF)]⟩

def gaps (start : Nat) : List (Nat × Nat) → List (Nat × Nat)
  | [] => if start ≤ 0x10FFFF then [(start, 0x10FFFF)] else []
  | (a, b) :: rest => if start < a then (start, a - 1) :: gaps (b + 1) rest else gaps (b + 1) rest

def compl (s : CharSet) : CharSet := all.inter ⟨gaps 0 s.ranges⟩

def diff (s t : CharSet) : CharSet := s.inter t.compl

def symmDiff (s t : CharSet) : CharSet := (s.diff t).union (t.diff s)

def single? (s : CharSet) : Option Char :=
  match s.ranges with
  | [(a, b)] => if a = b then some (Char.ofNat a) else none
  | _ => none

def isAscii (s : CharSet) : Bool := s.ranges.all fun r ↦ r.2 < 128

def size (s : CharSet) : Nat := (s.ranges.map fun r ↦ r.2 + 1 - r.1).foldr (· + ·) 0

def toList (s : CharSet) : List Char :=
  s.ranges.flatMap fun r ↦ (List.range' r.1 (r.2 + 1 - r.1)).map Char.ofNat

def hexDigit? (c : Char) : Option Nat :=
  if '0' ≤ c && c ≤ '9' then some (c.toNat - '0'.toNat)
  else if 'A' ≤ c && c ≤ 'F' then some (c.toNat - 'A'.toNat + 10)
  else if 'a' ≤ c && c ≤ 'f' then some (c.toNat - 'a'.toNat + 10)
  else none

/-- Reads ranges such as `41-5A 5F`. `low?` is the first code point of the range under way and `n?`
the number whose digits have been read. -/
def readRanges (low? n? : Option Nat) : List Char → List (Nat × Nat)
  | [] => closing
  | c :: rest =>
    match hexDigit? c with
    | some d => readRanges low? (some (n?.getD 0 * 16 + d)) rest
    | none => if c = '-' then readRanges n? none rest else closing ++ readRanges none none rest
where
  closing : List (Nat × Nat) :=
    match n? with
    | some n => [(low?.getD n, n)]
    | none => []

def ofTable (table : String) : CharSet := ofSorted (readRanges none none table.toList)

end CharSet

structure NamedTable where
  names : List String
  table : String

def find? (tables : List NamedTable) (name : String) : Option CharSet :=
  (tables.find? (·.names.contains name)).map fun t ↦ .ofTable t.table

def findAll (tables : List NamedTable) (names : List String) : CharSet :=
  .unionAll (names.filterMap (find? tables))

end BraceScript.Unicode
