import BraceScript.Regex.Pattern
import BraceScript.Unicode.Folding
import BraceScript.Unicode.Lookup

namespace BraceScript.Regex

open Unicode (CharSet)

inductive WordChars where
  | ascii
  | unicode
deriving DecidableEq

inductive Look where
  | textStart
  | textEnd
  | lineStart
  | lineEnd
  | lineStartCrlf
  | lineEndCrlf
  | wordBoundary (w : WordChars)
  | notWordBoundary (w : WordChars)
  | wordStart (w : WordChars)
  | wordEnd (w : WordChars)
  | wordStartHalf (w : WordChars)
  | wordEndHalf (w : WordChars)
deriving DecidableEq

def WordChars.contains (w : WordChars) (c : Char) : Bool :=
  Unicode.asciiWordChars.contains c ||
    (w = .unicode && 128 ≤ c.toNat && Unicode.wordChars.contains c)

namespace Look

def holds (look : Look) (before after : Option Char) : Bool :=
  match look with
  | textStart => before.isNone
  | textEnd => after.isNone
  | lineStart => before.isNone || before = some '\n'
  | lineEnd => after.isNone || after = some '\n'
  | lineStartCrlf =>
    before.isNone || before = some '\n' || (before = some '\r' && after ≠ some '\n')
  | lineEndCrlf => after.isNone || after = some '\r' || (after = some '\n' && before ≠ some '\r')
  | wordBoundary w => before.any w.contains != after.any w.contains
  | notWordBoundary w => before.any w.contains == after.any w.contains
  | wordStart w => !before.any w.contains && after.any w.contains
  | wordEnd w => before.any w.contains && !after.any w.contains
  | wordStartHalf w => !before.any w.contains
  | wordEndHalf w => !after.any w.contains

end Look

/-- A regular expression. Of two ways to match, the earlier branch of `choice` is preferred, and a
greedy repetition prefers more rounds. -/
inductive Expr where
  | empty
  | chars (s : CharSet)
  | look (l : Look)
  | iterate (least : Nat) (most : Option Nat) (greedy : Bool) (sub : Expr)
  | capture (index : Nat) (sub : Expr)
  | sequence (parts : List Expr)
  | choice (branches : List Expr)

namespace Expr

mutual
def onlyEmpty : Expr → Bool
  | empty | look _ => true
  | chars _ => false
  | iterate _ most _ sub => most = some 0 || sub.onlyEmpty
  | capture _ sub => sub.onlyEmpty
  | sequence parts => onlyEmptyList parts
  | choice branches => onlyEmptyList branches

def onlyEmptyList : List Expr → Bool
  | [] => true
  | part :: parts => part.onlyEmpty && onlyEmptyList parts
end

mutual
def nullable : Expr → Bool
  | empty | look _ => true
  | chars s => s.isEmpty
  | iterate least _ _ sub => least = 0 || sub.nullable
  | capture _ sub => sub.nullable
  | sequence parts => nullableAll parts
  | choice branches => nullableSome branches

def nullableAll : List Expr → Bool
  | [] => true
  | part :: parts => part.nullable && nullableAll parts

def nullableSome : List Expr → Bool
  | [] => false
  | branch :: branches => branch.nullable || nullableSome branches
end

/-- Repeats `sub`. What only matches the empty text need not be repeated more than once. -/
def repeated (least : Nat) (most : Option Nat) (greedy : Bool) (sub : Expr) : Expr :=
  let (least, most) :=
    if sub.onlyEmpty then (min least 1, some (min (most.getD 1) 1)) else (least, most)
  if most = some 0 then empty
  else if least = 1 ∧ most = some 1 then sub
  else iterate least most greedy sub

def flatten : Expr → List Expr
  | empty => []
  | sequence parts => parts
  | e => [e]

def ofParts (parts : List Expr) : Expr :=
  match parts.flatMap flatten with
  | [] => empty
  | [e] => e
  | parts => sequence parts

def set? : Expr → Option CharSet
  | chars s => some s
  | _ => none

def options : Expr → List Expr
  | choice branches => branches
  | e => [e]

/-- A choice between `branches`. A choice between characters is a set. -/
def ofBranches (branches : List Expr) : Expr :=
  match branches.flatMap options with
  | [e] => e
  | branches =>
    match branches.mapM set? with
    | some sets => chars (.unionAll sets)
    | none => choice branches

end Expr

structure Options where
  ignoreCase : Bool := false
  multiLine : Bool := false
  dotAll : Bool := false
  swapGreed : Bool := false
  unicode : Bool := true
  crlf : Bool := false

namespace Options

def set (o : Options) : Flag × Bool → Options
  | (.ignoreCase, on) => { o with ignoreCase := on }
  | (.multiLine, on) => { o with multiLine := on }
  | (.dotAll, on) => { o with dotAll := on }
  | (.swapGreed, on) => { o with swapGreed := on }
  | (.unicode, on) => { o with unicode := on }
  | (.crlf, on) => { o with crlf := on }
  | (.verbose, _) => o

def apply (o : Options) (changes : FlagChanges) : Options := changes.foldl set o

def wordChars (o : Options) : WordChars := if o.unicode then .unicode else .ascii

def fold (o : Options) (s : CharSet) : CharSet :=
  if o.ignoreCase then if o.unicode then s.caseClosure else s.asciiCaseClosure else s

/-- A set with its case variants, or what is left outside of it. The complement of a set of bytes
would hold parts of characters, so there is none. -/
def foldNegate (o : Options) (negated : Bool) (s : CharSet) : Option CharSet :=
  if negated then if o.unicode then some (o.fold s).compl else none else some (o.fold s)

def shorthand (o : Options) (s : Shorthand) (negated : Bool) : Option CharSet :=
  let set :=
    match s with
    | .digit => if o.unicode then Unicode.digits else Unicode.asciiDigits
    | .blank => if o.unicode then Unicode.blanks else Unicode.asciiBlanks
    | .word => if o.unicode then Unicode.wordChars else Unicode.asciiWordChars
  if negated then if o.unicode then some set.compl else none else some set

def property (o : Options) (p : PropertyName) (negated : Bool) : Option CharSet := do
  if o.unicode then
    let s ←
      match p with
      | .named name => Unicode.named? name
      | .valued name value => Unicode.valued? name value
    o.foldNegate negated s
  else none

def literal (o : Options) (l : Literal) : Option Char :=
  if !o.unicode && l.byte && 128 ≤ l.char.toNat then none else some l.char

def member (o : Options) (l : Literal) : Option Char :=
  if o.unicode || l.char.toNat < 128 then some l.char else none

def dot (o : Options) : Option CharSet :=
  if !o.unicode then none
  else if o.dotAll then some .all
  else if o.crlf then some (CharSet.ofTable "A D").compl
  else some (CharSet.ofTable "A").compl

def look (o : Options) : Anchor → Look
  | .lineStart =>
    if o.multiLine then if o.crlf then .lineStartCrlf else .lineStart else .textStart
  | .lineEnd => if o.multiLine then if o.crlf then .lineEndCrlf else .lineEnd else .textEnd
  | .textStart => .textStart
  | .textEnd => .textEnd
  | .wordBoundary => .wordBoundary o.wordChars
  | .notWordBoundary => .notWordBoundary o.wordChars
  | .wordStart => .wordStart o.wordChars
  | .wordEnd => .wordEnd o.wordChars
  | .wordStartHalf => .wordStartHalf o.wordChars
  | .wordEndHalf => .wordEndHalf o.wordChars

def memberSet (o : Options) : Atom → Option CharSet
  | .literal l => (o.member l).map .ofChar
  | .shorthand s negated => o.shorthand s negated
  | .property p negated => o.property p negated
  | .dot | .anchor _ => none

end Options

namespace ClassBody

mutual
/-- The set that stands between brackets. Both sides of an operation take their case variants
first. -/
def toSet (o : Options) : ClassBody → Option CharSet
  | atom a => o.memberSet a
  | range lo hi => do return .range (← o.member lo).toNat (← o.member hi).toNat
  | posix s negated => o.foldNegate negated s
  | union items => toSetList o items
  | nested negated body => do o.foldNegate negated (← body.toSet o)
  | combine op left right => do
    let s := o.fold (← left.toSet o)
    let t := o.fold (← right.toSet o)
    match op with
    | .intersection => return s.inter t
    | .difference => return s.diff t
    | .symmetricDifference => return s.symmDiff t

def toSetList (o : Options) : List ClassBody → Option CharSet
  | [] => some .empty
  | item :: items => do return (← item.toSet o).union (← toSetList o items)
end

end ClassBody

namespace Options

def atom (o : Options) : Atom → Option Expr
  | .literal l => (o.literal l).map fun c ↦
    .chars (if o.unicode || c.toNat < 128 then o.fold (.ofChar c) else .ofChar c)
  | .dot => o.dot.map .chars
  | .anchor a => some (.look (o.look a))
  | .shorthand s negated => (o.shorthand s negated).map .chars
  | .property p negated => (o.property p negated).map .chars

end Options

namespace Pattern

mutual
/-- The expression of a pattern, and the switches after it. Switches set within a group end with
it. -/
def toExpr (o : Options) : Pattern → Option (Expr × Options)
  | empty => some (.empty, o)
  | flags changes => some (.empty, o.apply changes)
  | atom a => do return (← o.atom a, o)
  | bracketed negated body => do return (.chars (← o.foldNegate negated (← body.toSet o)), o)
  | repetition least most greedy sub => do
    let (e, o) ← sub.toExpr o
    return (e.repeated least most (greedy != o.swapGreed), o)
  | group (.capture index _) sub => do
    let (e, _) ← sub.toExpr o
    return (.capture index e, o)
  | group (.plain changes) sub => do
    let (e, _) ← sub.toExpr (o.apply changes)
    return (e, o)
  | concat parts => do
    let (es, o) ← toExprList o parts
    return (.ofParts es, o)
  | alternatives branches => do
    let (es, o) ← toExprList o branches
    return (.ofBranches es, o)

def toExprList (o : Options) : List Pattern → Option (List Expr × Options)
  | [] => some ([], o)
  | part :: parts => do
    let (e, o) ← part.toExpr o
    let (es, o) ← toExprList o parts
    return (e :: es, o)
end

end Pattern

end BraceScript.Regex
