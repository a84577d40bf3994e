import BraceScript.Regex.Expr

namespace BraceScript.Regex

open Unicode (CharSet)

abbrev ByteSequence := List (Nat × Nat)

def utf8Bytes (n : Nat) : List Nat :=
  if n < 0x80 then [n]
  else if n < 0x800 then [0xC0 + n / 64, 0x80 + n % 64]
  else if n < 0x10000 then [0xE0 + n / 4096, 0x80 + n / 64 % 64, 0x80 + n % 64]
  else [0xF0 + n / 262144, 0x80 + n / 4096 % 64, 0x80 + n / 64 % 64, 0x80 + n % 64]

/-- Cuts the range from `lo` to `hi`, whose characters have UTF-8 forms of one length, into pieces
in which each byte runs through a range of its own. `block` is the number of characters that share
all bytes but the last ones. -/
def cutBlocks (lo hi : Nat) : (blocks : List Nat) → List (Nat × Nat)
  | [] => [(lo, hi)]
  | block :: blocks =>
    if lo / block = hi / block then cutBlocks lo hi blocks
    else
      let first := (lo + block - 1) / block * block
      let last := (hi + 1) / block * block
      (if lo < first then cutBlocks lo (first - 1) blocks else []) ++
        (if first < last then [(first, last - 1)] else []) ++
        (if last ≤ hi then cutBlocks last hi blocks else [])

def byteSequences (lo hi : Nat) : List ByteSequence :=
  let lengths : List (Nat × Nat × List Nat) :=
    [(0, 0x7F, []), (0x80, 0x7FF, [64]), (0x800, 0xFFFF, [4096, 64]),
      (0x10000, 0x10FFFF, [262144, 4096, 64])]
  lengths.flatMap fun (a, b, blocks) ↦
    if max lo a ≤ min hi b then
      (cutBlocks (max lo a) (min hi b) blocks).map fun (s, t) ↦ (utf8Bytes s).zip (utf8Bytes t)
    else []

def setSequences (s : CharSet) : List ByteSequence :=
  s.ranges.flatMap fun r ↦ byteSequences r.1 r.2

def groupByHead : List ByteSequence → List ((Nat × Nat) × List ByteSequence)
  | [] => []
  | [] :: rest => groupByHead rest
  | (r :: tail) :: rest =>
    match groupByHead rest with
    | (r', tails) :: groups =>
      if r = r' then (r, tail :: tails) :: groups else (r, [tail]) :: (r', tails) :: groups
    | [] => [(r, [tail])]

abbrev ByteState := List ((Nat × Nat) × Nat)

def intern (states : List ByteState) (state : ByteState) : Nat × List ByteState :=
  match states.idxOf? state with
  | some i => (states.length - i, states)
  | none => (states.length + 1, state :: states)

/-- The state that reads one of the sequences, among the states it needs, latest first. State 0 is
the end of a character. States that lead alike are one. -/
def shareStates : (length : Nat) → List ByteSequence → List ByteState → Nat × List ByteState
  | 0, _, states => (0, states)
  | length + 1, sequences, states =>
    if sequences.all List.isEmpty then (0, states)
    else
      let (state, states) := (groupByHead sequences).foldl
        (fun (state, states) (r, tails) ↦
          let (next, states) := shareStates length tails states
          ((r, next) :: state, states))
        (([] : ByteState), states)
      intern states state

def treeStates : (length : Nat) → List ByteSequence → Nat
  | 0, _ => 0
  | length + 1, sequences =>
    ((groupByHead sequences).map fun (_, tails) ↦ 1 + treeStates length tails).foldr (· + ·) 0

structure Memory where
  forward : Nat
  backward : Nat

namespace Memory

def both (n : Nat) : Memory := ⟨n, n⟩

instance : Add Memory := ⟨fun a b ↦ ⟨a.forward + b.forward, a.backward + b.backward⟩⟩

def times (n : Nat) (m : Memory) : Memory := ⟨n * m.forward, n * m.backward⟩

def state : Memory := both 32

def branch (n : Nat) : Memory := both (32 + 4 * n)

def ofSet (s : CharSet) : Memory :=
  match s.single? with
  | some c => both (32 * (utf8Bytes c.toNat).length)
  | none =>
    if s.isEmpty then state
    else if s.isAscii then both (64 + 8 * s.ranges.length)
    else
      let sequences := setSequences s
      let states := (shareStates 4 sequences []).2
      ⟨32 * (1 + states.length) + 8 * (states.map List.length).foldr (· + ·) 0,
        32 * (2 + treeStates 4 sequences) + 4 * sequences.length⟩

end Memory

namespace Expr

def iterationMemory (least : Nat) (most : Option Nat) (nullable : Bool) (m : Memory) : Memory :=
  match least, most with
  | 0, some 1 => .branch 2 + .state + m
  | 0, none => if nullable then .branch 2 + .branch 2 + .state + m else .branch 2 + m
  | least, none => m.times least + .branch 2
  | least, some most =>
    let fixed := if least = 0 then .state else m.times least
    if least = most then fixed else fixed + .state + (.branch 2 + m).times (most - least)

mutual
def memory : Expr → Memory
  | empty => .state
  | chars s => .ofSet s
  | look _ => .state
  | iterate least most _ sub => iterationMemory least most sub.nullable sub.memory
  | capture _ sub => ⟨64, 0⟩ + sub.memory
  | sequence parts => memoryList parts
  | choice branches => .branch branches.length + .state + memoryList branches

def memoryList : List Expr → Memory
  | [] => .both 0
  | part :: parts => part.memory + memoryList parts
end

def maxWordSet : Nat := 10

def maxWords : Nat := 250

def limitWords (words : List (List Char)) : Option (List (List Char)) :=
  if words.length ≤ maxWords then some words else none

def joinWords (heads tails : List (List Char)) : Option (List (List Char)) :=
  limitWords (heads.flatMap fun h ↦ tails.map (h ++ ·))

def repeatWords (words : List (List Char)) : Nat → Option (List (List Char))
  | 0 => some [[]]
  | n + 1 => do joinWords words (← repeatWords words n)

mutual
def words : Expr → Option (List (List Char))
  | empty => some [[]]
  | chars s => if s.size ≤ maxWordSet then some (s.toList.map ([·])) else none
  | look _ | capture _ _ => none
  | iterate least most _ sub =>
    if most = some least ∧ least ≤ 10 then do repeatWords (← sub.words) least else none
  | sequence parts => wordsSequence parts
  | choice branches => do limitWords (← wordsChoice branches)

def wordsSequence : List Expr → Option (List (List Char))
  | [] => some [[]]
  | part :: parts => do joinWords (← part.words) (← wordsSequence parts)

def wordsChoice : List Expr → Option (List (List Char))
  | [] => some []
  | branch :: branches => do return (← branch.words) ++ (← wordsChoice branches)
end

def isWordSearch (e : Expr) : Bool :=
  match e.words with
  | some words => !words.isEmpty && words.all (!·.isEmpty)
  | none => false

/-- The memory of the larger automaton of an expression, which also skips the text before a match
and keeps the bounds of the match. -/
def automatonSize (e : Expr) : Nat :=
  if e.isWordSearch then 0
  else
    let skipping := Memory.branch 2 + .state + .both 40
    let m := skipping + ⟨64, 0⟩ + .state + e.memory
    max m.forward m.backward

end Expr

end BraceScript.Regex
