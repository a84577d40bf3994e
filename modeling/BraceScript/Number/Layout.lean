import BraceScript.Number.Shortest

namespace BraceScript

structure NumberLayout where
  -- The least and greatest decimal exponents that are written in fixed notation. Without them every
  -- number is.
  fixed : Option (Int × Int)
  wholeEnding : String
  tie : Tie

namespace NumberLayout

def fixedText (l : NumberLayout) (d : Shortest.Digits) : String :=
  let n := d.digits.length
  if d.point ≤ 0 then
    "0." ++ String.ofList (List.replicate (-d.point).toNat '0' ++ d.digits)
  else if n ≤ d.point.toNat then
    String.ofList (d.digits ++ List.replicate (d.point.toNat - n) '0') ++ l.wholeEnding
  else
    String.ofList (d.digits.take d.point.toNat) ++ "." ++
      String.ofList (d.digits.drop d.point.toNat)

def scientificText (d : Shortest.Digits) : String :=
  let e := d.point - 1
  let sign := if e < 0 then "-" else "+"
  let mantissa := match d.digits with
    | [] => "0"
    | [c] => String.singleton c
    | c :: rest => String.singleton c ++ "." ++ String.ofList rest
  mantissa ++ "e" ++ sign ++ toString e.natAbs

def unsignedText (l : NumberLayout) (d : Double) : String :=
  if d.significand = 0 then "0" ++ l.wholeEnding
  else
    let ds := Shortest.digits l.tie d
    match l.fixed with
    | none => l.fixedText ds
    | some (least, greatest) =>
      if least ≤ ds.point - 1 && ds.point - 1 ≤ greatest then l.fixedText ds
      else scientificText ds

def render (l : NumberLayout) (d : Double) : String :=
  if d.isNaN then "NaN"
  else
    let sign := if d.isNegative then "-" else ""
    if d.isFinite then sign ++ l.unsignedText d else sign ++ "inf"

end NumberLayout

namespace Double

/-- Numbers in documents are written in fixed notation, whatever their size, and a tie goes up. -/
def plainLayout : NumberLayout := ⟨none, "", .up⟩

/-- The text of a number in a document. Whole numbers below `10 ^ 15` are written as integers, so
that negative zero is `0`. -/
def format (d : Double) : String :=
  if d.isWhole && d.whole.natAbs < Nat.pow 10 15 then toString d.whole else plainLayout.render d

end Double

end BraceScript
