import BraceScript.Source.Marker

namespace BraceScript

mutual

/-- A sequence of parts and the text it was read from. -/
inductive Statement where
  | mk (parts : List Part) (span : Span)

/-- Literal text, or a call with its name and its arguments. -/
inductive Part where
  | literal (text : String) (span : Span)
  | call (name : Statement) (args : List Statement) (span : Span)

end

namespace Statement

def parts : Statement → List Part
  | mk parts _ => parts

def span : Statement → Span
  | mk _ span => span

def isEmpty (s : Statement) : Bool := s.parts.isEmpty

end Statement

namespace Part

def span : Part → Span
  | literal _ span => span
  | call _ _ span => span

def isCall : Part → Bool
  | literal _ _ => false
  | call _ _ _ => true

end Part

mutual

def Statement.print : Statement → String
  | .mk parts _ => printParts parts

def printParts : List Part → String
  | [] => ""
  | part :: parts => part.print ++ printParts parts

def Part.print : Part → String
  | .literal text _ => text
  | .call name args _ => "\x7b" ++ name.print ++ printArgs args ++ "\x7d"

def printArgs : List Statement → String
  | [] => ""
  | arg :: args => ";" ++ arg.print ++ printArgs args

end

namespace Statement

def literalText : List Part → Option String
  | [] => some ""
  | .literal text _ :: parts => (literalText parts).map (text ++ ·)
  | .call _ _ _ :: _ => none

def literal? (s : Statement) : Option String := literalText s.parts

def calls (s : Statement) : List Part := s.parts.filter Part.isCall

end Statement

end BraceScript
