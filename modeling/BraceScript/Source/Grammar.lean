import BraceScript.Source.Braces

namespace BraceScript.Grammar

inductive Rule where
  | document
  | text
  | stray
  | subtag
  | argument
  | argText
  | endOfInput
deriving DecidableEq

inductive Expr where
  | start
  | stop
  | any
  | char (c : Char)
  | seq (a b : Expr)
  | choice (a b : Expr)
  | star (e : Expr)
  -- Matches nothing, where the expression does not match.
  | avoid (e : Expr)
  | rule (r : Rule)

def Expr.plus (e : Expr) : Expr := e.seq e.star

def brace : Expr := .choice (.char Braces.opening) (.char Braces.closing)

def Rule.body : Rule → Expr
  | .document =>
    .seq .start (.seq (.star (.choice (.rule .subtag) (.choice (.rule .text) (.rule .stray))))
      (.rule .endOfInput))
  | .text => .plus (.seq (.avoid brace) .any)
  | .stray => brace
  | .subtag =>
    .seq (.char Braces.opening) (.seq (.rule .argument)
      (.seq (.star (.seq (.char ';') (.rule .argument))) (.char Braces.closing)))
  | .argument => .star (.choice (.rule .subtag) (.rule .argText))
  | .argText => .plus (.seq (.avoid (.choice brace (.char ';'))) .any)
  | .endOfInput => .stop

inductive Node where
  | mk (rule : Rule) (start stop : Nat) (inner : List Node)

inductive Node.Uses (r : Rule) : Node → Prop
  | self (start stop : Nat) (inner : List Node) : Uses r (.mk r start stop inner)
  | inner {rule : Rule} {start stop : Nat} {inner : List Node} {n : Node} :
      n ∈ inner → Uses r n → Uses r (.mk rule start stop inner)

inductive Outcome where
  | failed
  | matched (nodes : List Node) (index : Nat) (rest : List Char)

/-- What comes of an expression on a text that starts at the given byte. -/
inductive Yields : Expr → Nat → List Char → Outcome → Prop
  | start (text : List Char) : Yields .start 0 text (.matched [] 0 text)
  | notStart {i : Nat} (text : List Char) : i ≠ 0 → Yields .start i text .failed
  | stop (i : Nat) : Yields .stop i [] (.matched [] i [])
  | notStop (i : Nat) (c : Char) (text : List Char) : Yields .stop i (c :: text) .failed
  | any (i : Nat) (c : Char) (text : List Char) :
      Yields .any i (c :: text) (.matched [] (i + c.utf8Size) text)
  | noMore (i : Nat) : Yields .any i [] .failed
  | char (i : Nat) (c : Char) (text : List Char) :
      Yields (.char c) i (c :: text) (.matched [] (i + c.utf8Size) text)
  | otherChar {c : Char} {text : List Char} (i : Nat) : text.head? ≠ some c →
      Yields (.char c) i text .failed
  | seq {a b : Expr} {i j k : Nat} {text rest rest' : List Char} {nodes nodes' : List Node} :
      Yields a i text (.matched nodes j rest) → Yields b j rest (.matched nodes' k rest') →
      Yields (.seq a b) i text (.matched (nodes ++ nodes') k rest')
  | seqFailed {a b : Expr} {i : Nat} {text : List Char} :
      Yields a i text .failed → Yields (.seq a b) i text .failed
  | seqFailedLater {a b : Expr} {i j : Nat} {text rest : List Char} {nodes : List Node} :
      Yields a i text (.matched nodes j rest) → Yields b j rest .failed →
      Yields (.seq a b) i text .failed
  | choice {a b : Expr} {i j : Nat} {text rest : List Char} {nodes : List Node} :
      Yields a i text (.matched nodes j rest) →
      Yields (.choice a b) i text (.matched nodes j rest)
  | otherwise {a b : Expr} {i : Nat} {text : List Char} {o : Outcome} :
      Yields a i text .failed → Yields b i text o → Yields (.choice a b) i text o
  | starDone {e : Expr} {i : Nat} {text : List Char} :
      Yields e i text .failed → Yields (.star e) i text (.matched [] i text)
  | starMore {e : Expr} {i j k : Nat} {text rest rest' : List Char} {nodes nodes' : List Node} :
      Yields e i text (.matched nodes j rest) →
      Yields (.star e) j rest (.matched nodes' k rest') →
      Yields (.star e) i text (.matched (nodes ++ nodes') k rest')
  | avoid {e : Expr} {i : Nat} {text : List Char} :
      Yields e i text .failed → Yields (.avoid e) i text (.matched [] i text)
  | notAvoided {e : Expr} {i j : Nat} {text rest : List Char} {nodes : List Node} :
      Yields e i text (.matched nodes j rest) → Yields (.avoid e) i text .failed
  | rule {r : Rule} {i j : Nat} {text rest : List Char} {nodes : List Node} :
      Yields r.body i text (.matched nodes j rest) →
      Yields (.rule r) i text (.matched [.mk r i j nodes] j rest)
  | ruleFailed {r : Rule} {i : Nat} {text : List Char} :
      Yields r.body i text .failed → Yields (.rule r) i text .failed

end BraceScript.Grammar
