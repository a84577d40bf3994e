namespace BraceScript

/-- A place between two characters of a source text. -/
structure Marker where
  index : Nat
  line : Nat
  column : Nat
deriving DecidableEq

namespace Marker

def start : Marker := ⟨0, 1, 1⟩

def step (m : Marker) (c : Char) : Marker :=
  if c = '\n' then ⟨m.index + c.utf8Size, m.line + 1, 1⟩
  else ⟨m.index + c.utf8Size, m.line, m.column + 1⟩

def advance (m : Marker) (text : List Char) : Marker := text.foldl step m

end Marker

/-- The text from `start` up to, and without, `stop`. -/
structure Span where
  start : Marker
  stop : Marker
deriving DecidableEq

namespace Span

def length (s : Span) : Nat := s.stop.index - s.start.index

def isEmpty (s : Span) : Bool := s.length == 0

def render (s : Span) : String :=
  toString s.start.line ++ ":" ++ toString s.start.column ++ "-" ++
    toString s.stop.line ++ ":" ++ toString s.stop.column

end Span

end BraceScript
