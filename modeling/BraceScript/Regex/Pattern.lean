import BraceScript.Unicode.CharSet

namespace BraceScript.Regex

open Unicode (CharSet)

inductive Flag where
  | ignoreCase
  | multiLine
  | dotAll
  | swapGreed
  | unicode
  | crlf
  | verbose
deriving DecidableEq

abbrev FlagChanges := List (Flag × Bool)

inductive Anchor where
  | lineStart
  | lineEnd
  | textStart
  | textEnd
  | wordBoundary
  | notWordBoundary
  | wordStart
  | wordEnd
  | wordStartHalf
  | wordEndHalf
deriving DecidableEq

inductive Shorthand where
  | digit
  | blank
  | word
deriving DecidableEq

/-- A character that stands for itself. One written as two hexadecimal digits is a byte where bytes
are matched. -/
structure Literal where
  char : Char
  byte : Bool := false
deriving DecidableEq

inductive PropertyName where
  | named (name : String)
  | valued (name value : String)
deriving DecidableEq

inductive Atom where
  | literal (l : Literal)
  | dot
  | anchor (a : Anchor)
  | shorthand (s : Shorthand) (negated : Bool)
  | property (p : PropertyName) (negated : Bool)
deriving DecidableEq

inductive SetOperation where
  | intersection
  | difference
  | symmetricDifference
deriving DecidableEq

inductive ClassBody where
  | atom (a : Atom)
  | range (lo hi : Literal)
  | posix (s : CharSet) (negated : Bool)
  | union (items : List ClassBody)
  | nested (negated : Bool) (body : ClassBody)
  | combine (op : SetOperation) (left right : ClassBody)

inductive GroupKind where
  | capture (index : Nat) (name : Option String)
  | plain (changes : FlagChanges)

inductive Pattern where
  | empty
  | flags (changes : FlagChanges)
  | atom (a : Atom)
  | bracketed (negated : Bool) (body : ClassBody)
  | repetition (least : Nat) (most : Option Nat) (greedy : Bool) (sub : Pattern)
  | group (kind : GroupKind) (sub : Pattern)
  | concat (parts : List Pattern)
  | alternatives (branches : List Pattern)

namespace ClassBody

def ofItems : List ClassBody → ClassBody
  | [item] => item
  | items => union items

mutual
def depth : ClassBody → Nat
  | atom _ | range _ _ | posix _ _ | union [] => 0
  | union items => 1 + depthList items
  | nested _ body => 1 + body.depth
  | combine _ left right => 1 + max left.depth right.depth

def depthList : List ClassBody → Nat
  | [] => 0
  | item :: items => max item.depth (depthList items)
end

end ClassBody

namespace Pattern

def ofParts : List Pattern → Pattern
  | [] => empty
  | [part] => part
  | parts => concat parts

def ofBranches : List Pattern → Pattern
  | [] => empty
  | [branch] => branch
  | branches => alternatives branches

def isRepeatable : Pattern → Bool
  | empty | flags _ => false
  | _ => true

mutual
def depth : Pattern → Nat
  | empty | flags _ | atom _ => 0
  | bracketed _ body => 1 + body.depth
  | repetition _ _ _ sub => 1 + sub.depth
  | group _ sub => 1 + sub.depth
  | concat parts => 1 + depthList parts
  | alternatives branches => 1 + depthList branches

def depthList : List Pattern → Nat
  | [] => 0
  | part :: parts => max part.depth (depthList parts)
end

mutual
def names : Pattern → List (String × Nat)
  | empty | flags _ | atom _ | bracketed _ _ => []
  | repetition _ _ _ sub => sub.names
  | group (.capture index (some name)) sub => (name, index) :: sub.names
  | group _ sub => sub.names
  | concat parts => namesList parts
  | alternatives branches => namesList branches

def namesList : List Pattern → List (String × Nat)
  | [] => []
  | part :: parts => part.names ++ namesList parts
end

end Pattern

end BraceScript.Regex
