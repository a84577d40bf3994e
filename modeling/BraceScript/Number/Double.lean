namespace BraceScript

structure Double where
  bits : UInt64
deriving DecidableEq

namespace Double

def ofFloat (x : Float) : Double := ⟨x.toBits⟩

def toFloat (d : Double) : Float := Float.ofBits d.bits

def isNegative (d : Double) : Bool := d.bits.toNat / Nat.pow 2 63 == 1

def biased (d : Double) : Nat := d.bits.toNat / Nat.pow 2 52 % Nat.pow 2 11

def fraction (d : Double) : Nat := d.bits.toNat % Nat.pow 2 52

def isFinite (d : Double) : Bool := d.biased != 2047

def isNaN (d : Double) : Bool := d.biased == 2047 && d.fraction != 0

def significand (d : Double) : Nat :=
  if d.biased = 0 then d.fraction else Nat.pow 2 52 + d.fraction

def exponent (d : Double) : Int := (max d.biased 1 : Nat) - 1075

def ofFields (negative : Bool) (biased fraction : Nat) : Double :=
  ⟨UInt64.ofNat ((if negative then Nat.pow 2 63 else 0) + biased * Nat.pow 2 52 + fraction)⟩

def infinity (negative : Bool) : Double := ofFields negative 2047 0

def zero (negative : Bool) : Double := ofFields negative 0 0

/-- The double `± m * 2 ^ q` for `m ≤ 2 ^ 53` and `-1074 ≤ q`; infinite when it is too large. -/
def assemble (negative : Bool) (m : Nat) (q : Int) : Double :=
  if m < Nat.pow 2 52 then ofFields negative 0 m
  else if m = Nat.pow 2 53 then
    if q + 1076 < 2047 then ofFields negative (q + 1076).toNat 0 else infinity negative
  else if q + 1075 < 2047 then ofFields negative (q + 1075).toNat (m - Nat.pow 2 52)
  else infinity negative

def roundHalfEven (num den : Nat) : Nat :=
  let q := num / den
  let r := num % den
  if 2 * r < den then q
  else if den < 2 * r then q + 1
  else q + q % 2

def scale (num den : Nat) (q : Int) : Nat × Nat :=
  if 0 ≤ q then (num, den * Nat.pow 2 q.toNat) else (num * Nat.pow 2 (-q).toNat, den)

/-- The exponent of the greatest power of two that is at most `num / den`, for positive `num` and
`den`. -/
def floorLog2 (num den : Nat) : Int :=
  let e : Int := num.log2 - den.log2
  let (n, d) := scale num den e
  if d ≤ n then e else e - 1

def ofRatio (negative : Bool) (num den : Nat) : Double :=
  if num = 0 then zero negative
  else
    let q := max (floorLog2 num den - 52) (-1074)
    let (n, d) := scale num den q
    assemble negative (roundHalfEven n d) q

def ratio (d : Double) : Nat × Nat :=
  if 0 ≤ d.exponent then (d.significand * Nat.pow 2 d.exponent.toNat, 1)
  else (d.significand, Nat.pow 2 (-d.exponent).toNat)

def mul (a b : Double) : Double :=
  ofRatio (a.isNegative != b.isNegative) (a.ratio.1 * b.ratio.1) (a.ratio.2 * b.ratio.2)

def div (a b : Double) : Double :=
  ofRatio (a.isNegative != b.isNegative) (a.ratio.1 * b.ratio.2) (a.ratio.2 * b.ratio.1)

def rank (d : Double) : Int :=
  let magnitude : Nat := d.bits.toNat % Nat.pow 2 63
  if d.isNegative then -(magnitude : Int) else magnitude

def compare? (a b : Double) : Option Ordering :=
  if a.isNaN || b.isNaN then none else some (compare a.rank b.rank)

def add (a b : Double) : Double := .ofFloat (a.toFloat + b.toFloat)

def sub (a b : Double) : Double := .ofFloat (a.toFloat - b.toFloat)

def times (a b : Double) : Double := .ofFloat (a.toFloat * b.toFloat)

def dividedBy (a b : Double) : Double := .ofFloat (a.toFloat / b.toFloat)

def pow (a b : Double) : Double := .ofFloat (a.toFloat ^ b.toFloat)

def isWhole (d : Double) : Bool := d.isFinite && d.ratio.1 % d.ratio.2 == 0

def whole (d : Double) : Int :=
  let n : Nat := d.ratio.1 / d.ratio.2
  if d.isNegative then -(n : Int) else n

/-- The remainder of truncated division. It has the sign of `a` and is exact. -/
def rem (a b : Double) : Double :=
  if !a.isFinite || b.isNaN || (b.isFinite && b.significand == 0) then ofFields false 2047 1
  else if !b.isFinite then a
  else
    let n := a.ratio.1 * b.ratio.2
    let m := b.ratio.1 * a.ratio.2
    ofRatio a.isNegative (n % m) (a.ratio.2 * b.ratio.2)

end Double

end BraceScript
