import BraceScript.Regex.Program

namespace BraceScript.Regex

abbrev Marks := List (Nat × Nat)

structure Thread where
  next : Nat
  marks : Marks

namespace Program

variable (p : Program)

/-- Follows threads at a place, between the characters `before` and `after`, to the instructions
that read or that end a match. Each step takes a thread from the agenda, and a step that adds two
threads reaches an instruction that was not `seen`. -/
def follow (before after : Option Char) (place : Nat) :
    (fuel : Nat) → (seen : Array Bool) → (agenda : List Thread) → List Thread
  | 0, _, _ => []
  | _ + 1, _, [] => []
  | fuel + 1, seen, t :: agenda =>
    if seen.getD t.next true then follow before after place fuel seen agenda
    else
      let seen := seen.setIfInBounds t.next true
      match p.code[t.next]? with
      | none => follow before after place fuel seen agenda
      | some (.fork first second) =>
        follow before after place fuel seen (⟨first, t.marks⟩ :: ⟨second, t.marks⟩ :: agenda)
      | some (.look l next) =>
        if l.holds before after then
          follow before after place fuel seen (⟨next, t.marks⟩ :: agenda)
        else follow before after place fuel seen agenda
      | some (.mark slot next) =>
        follow before after place fuel seen (⟨next, (slot, place) :: t.marks⟩ :: agenda)
      | some (.read _ _) | some .done => t :: follow before after place fuel seen agenda

/-- The threads that read `after`, and the marks of a thread that ends a match. Threads that come
after such a one are dropped. -/
def advance (after : Option Char) : List Thread → List Thread × Option Marks
  | [] => ([], none)
  | t :: threads =>
    match p.code[t.next]? with
    | some .done => ([], some t.marks)
    | some (.read s next) =>
      let (more, found) := advance after threads
      if after.any s.contains then (⟨next, t.marks⟩ :: more, found) else (more, found)
    | _ => advance after threads

/-- Searches the rest of a text. A match may start at every place until one is found; a match that
is found later is preferred to `best`, as it comes from a preferred thread. -/
def search (before : Option Char) (place : Nat) (threads : List Thread) (best : Option Marks)
    (text : List Char) : Option Marks :=
  let threads := if best.isNone then threads ++ [⟨p.start, []⟩] else threads
  let fuel := threads.length + 2 * p.code.size + 1
  let seen := Array.replicate p.code.size false
  let (threads, found) := p.advance text.head? (p.follow before text.head? place fuel seen threads)
  let best := found <|> best
  match text with
  | [] => best
  | c :: text =>
    if threads.isEmpty && best.isSome then best
    else search (some c) (place + 1) threads best text

end Program

structure Match where
  marks : Marks

namespace Match

def group? (m : Match) (index : Nat) : Option (Nat × Nat) := do
  return (← m.marks.lookup (2 * index), ← m.marks.lookup (2 * index + 1))

def bounds (m : Match) : Nat × Nat := (m.group? 0).getD (0, 0)

end Match

namespace Program

def findFrom (p : Program) (text : List Char) (place : Nat) : Option Match :=
  if place ≤ text.length then
    let before := if place = 0 then none else text[place - 1]?
    (p.search before place [] none (text.drop place)).map Match.mk
  else none

/-- Successive matches from `place` on, no more than `limit`. An empty match right behind the match
before it does not count. Of two searches in a row one moves on, so the length of the text bounds
them. -/
def findAll (p : Program) (text : List Char) : (fuel : Nat) → (limit : Nat) → (place : Nat) →
    (last : Option Nat) → List Match
  | 0, _, _, _ | _, 0, _, _ => []
  | fuel + 1, limit + 1, place, last =>
    match p.findFrom text place with
    | none => []
    | some m =>
      let (start, stop) := m.bounds
      if start = stop ∧ last = some stop then findAll p text fuel (limit + 1) (place + 1) last
      else m :: findAll p text fuel limit stop (some stop)

end Program

end BraceScript.Regex
