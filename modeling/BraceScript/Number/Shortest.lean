import BraceScript.Number.Double

namespace BraceScript

inductive Tie where
  | toEven
  | up
deriving DecidableEq

namespace Shortest

/-- Digits `d₁d₂…dₙ` and the exponent of their decimal point: the number `0.d₁d₂…dₙ * 10 ^
point`. -/
structure Digits where
  digits : List Char
  point : Int
deriving DecidableEq

/-- The interval of reals that round to `m * 2 ^ q`, in quarters of `2 ^ q`: the value is `4 * m`,
and the gap below it is half as wide when `m` is the least significand of its binade. -/
structure Interval where
  low : Nat
  value : Nat
  high : Nat
  closed : Bool

def Interval.of (d : Double) : Interval :=
  let m := d.significand
  let narrow := m == Nat.pow 2 52 && 1 < d.biased
  ⟨if narrow then 4 * m - 1 else 4 * m - 2, 4 * m, 4 * m + 2, m % 2 == 0⟩

/-- Whether `n * 10 ^ k`, given as the quotient `num / den` in the unit of the interval, lies in
the interval. -/
def Interval.holds (i : Interval) (num den : Nat) : Bool :=
  if i.closed then i.low * den ≤ num && num ≤ i.high * den
  else i.low * den < num && num < i.high * den

/-- `10 ^ k / 2 ^ (q - 2)` as a quotient: the size of the decimal step `10 ^ k` in quarters of
`2 ^ q`. -/
def unitRatio (k q : Int) : Nat × Nat :=
  let e := q - 2
  let num := (if 0 ≤ k then Nat.pow 10 k.toNat else 1) *
    (if 0 ≤ e then 1 else Nat.pow 2 (-e).toNat)
  let den := (if 0 ≤ k then 1 else Nat.pow 10 (-k).toNat) *
    (if 0 ≤ e then Nat.pow 2 e.toNat else 1)
  (num, den)

def takesLower (tie : Tie) (lower down up : Nat) : Bool :=
  down < up || (down == up && tie == .toEven && lower % 2 == 0)

def candidate? (tie : Tie) (i : Interval) (k q : Int) : Option Nat :=
  let (un, ud) := unitRatio k q
  let below := i.value * ud / un
  let above := below + 1
  let downFits := 0 < below && i.holds (below * un) ud
  let upFits := i.holds (above * un) ud
  if downFits && upFits then
    let lower := takesLower tie below (i.value * ud - below * un) (above * un - i.value * ud)
    some (if lower then below else above)
  else if downFits then some below
  else if upFits then some above
  else none

def search (tie : Tie) (i : Interval) (q : Int) : Nat → Int → Option (Nat × Int)
  | 0, _ => none
  | fuel + 1, k =>
    match candidate? tie i k q with
    | some n => some (n, k)
    | none => search tie i q fuel (k - 1)

def dropZeros (ds : List Char) : List Char := ds.dropWhile (· == '0')

/-- The shortest digits of a finite double that is not zero. The first step tried is above the
value, so that no step that fits is missed; twenty-four steps reach seventeen digits. -/
def digits (tie : Tie) (d : Double) : Digits :=
  let lead := ((d.significand.log2 : Int) + d.exponent) * 30103 / 100000 + 2
  match search tie (Interval.of d) d.exponent 24 lead with
  | some (n, k) =>
    let ds := Nat.toDigits 10 n
    ⟨(dropZeros ds.reverse).reverse, ds.length + k⟩
  | none => ⟨[], 0⟩

end Shortest

end BraceScript
