import BraceScript.Number.Double

namespace BraceScript

structure Decimal where
  negative : Bool
  digits : Nat
  exponent : Int
deriving DecidableEq

namespace Decimal

def isDigit (c : Char) : Bool := '0' ≤ c && c ≤ '9'

def digitValue (c : Char) : Nat := c.toNat - '0'.toNat

def ofDigits (ds : List Char) : Nat := ds.foldl (fun n c ↦ 10 * n + digitValue c) 0

/-- The double nearest to a decimal. Far outside the range of doubles the answer is known without
computing the power of ten. -/
def toDouble (d : Decimal) : Double :=
  let top : Int := (Nat.log2 d.digits : Int) / 3 + 1 + d.exponent
  let low : Int := (Nat.log2 d.digits : Int) / 4 + d.exponent
  if d.digits = 0 then .zero d.negative
  else if 400 < low then .infinity d.negative
  else if top < -400 then .zero d.negative
  else if 0 ≤ d.exponent then .ofRatio d.negative (d.digits * Nat.pow 10 d.exponent.toNat) 1
  else .ofRatio d.negative d.digits (Nat.pow 10 (-d.exponent).toNat)

def readSign : List Char → Bool × List Char
  | '-' :: text => (true, text)
  | '+' :: text => (false, text)
  | text => (false, text)

def readExponent? : List Char → Option Int
  | [] => some 0
  | c :: text =>
    if c = 'e' || c = 'E' then
      let (negative, ds) := readSign text
      if ds.isEmpty || !ds.all isDigit then none
      else some (if negative then -(ofDigits ds : Int) else ofDigits ds)
    else none

def ofUnsigned? (negative : Bool) (text : List Char) : Option Decimal :=
  let whole := text.takeWhile isDigit
  let rest := text.dropWhile isDigit
  let fraction := match rest with
    | '.' :: rest => rest.takeWhile isDigit
    | _ => []
  let tail := match rest with
    | '.' :: rest => rest.dropWhile isDigit
    | rest => rest
  if whole.isEmpty && fraction.isEmpty then none
  else (readExponent? tail).map fun e ↦
    ⟨negative, ofDigits (whole ++ fraction), e - fraction.length⟩

def ofText? (text : List Char) : Option Decimal :=
  let (negative, text) := readSign text
  ofUnsigned? negative text

end Decimal

end BraceScript
