import BraceScript.Json.Syntax
import BraceScript.Json.Value
import BraceScript.Text.Blank

namespace BraceScript

namespace Json

/-- Whole numbers that are kept exactly: those of a signed or an unsigned 64-bit word. -/
def isWord (n : Int) : Bool := -(Nat.pow 2 63) ≤ n && n < Nat.pow 2 64

/-- Takes digits into `significand` as long as it stays below `2 ^ 64`; the second component counts
the digits that were left. -/
def absorb : Nat → List Char → Nat × Nat
  | significand, [] => (significand, 0)
  | significand, c :: ds =>
    let next := 10 * significand + Decimal.digitValue c
    if next < Nat.pow 2 64 then absorb next ds else (significand, ds.length + 1)

/-- Multiplies or divides by a power of ten. Below the range of a double the division is done in
two roundings, and above it there is no number. -/
def scaleByTen : Nat → Double → Int → Option Double
  | 0, _, _ => none
  | fuel + 1, d, e =>
    if e.natAbs ≤ 308 then
      let power := (Decimal.mk false (Nat.pow 10 e.natAbs) 0).toDouble
      if 0 ≤ e then
        let product := d.mul power
        if product.isFinite then some product else none
      else some (d.div power)
    else if d.significand = 0 then some d
    else if 0 ≤ e then none
    else scaleByTen fuel (d.div (Decimal.mk false (Nat.pow 10 308) 0).toDouble) (e + 308)

/-- The double named by a numeral with a point or an exponent, or by one too long for a word. The
leading digits that fit a word are rounded first and the power of ten is applied to the result. -/
def Numeral.double? (n : Numeral) : Option Double :=
  let (significand, left) := absorb 0 n.whole
  let fraction := n.fraction.getD []
  let (significand, dropped) := absorb significand fraction
  let shift : Int := left - (fraction.length - dropped : Nat)
  let base := Double.ofRatio false significand 1
  let (down, ds) := n.exponent.getD (false, [])
  let e := Decimal.ofDigits ds
  let magnitude :=
    if e < Nat.pow 2 31 then scaleByTen 16 base (if down then shift - e else shift + e)
    else if significand ≠ 0 && !down then none
    else some (.zero false)
  magnitude.map fun d ↦ .ofFields n.negative d.biased d.fraction

/-- The value of a numeral: a whole number if it is written as one, is not negative zero and fits a
word, otherwise a double. -/
def Numeral.value? (n : Numeral) : Option Value :=
  let whole := Decimal.ofDigits n.whole
  let signed : Int := if n.negative then -(whole : Int) else whole
  if n.fraction.isNone && n.exponent.isNone && isWord signed && !(n.negative && whole == 0) then
    some (.int signed)
  else n.double?.map .double

mutual

def Tree.value? (depth : Nat) : Tree → Option Value
  | .null => some .null
  | .bool b => some (.bool b)
  | .number n => n.value?
  | .string pieces => (text? pieces).map .text
  | .array items =>
    match depth with
    | 0 => none
    | depth + 1 => (itemValues? depth items).map .list
  | .object fields =>
    match depth with
    | 0 => none
    | depth + 1 => (fieldValues? depth fields).map Value.ofFields

def itemValues? (depth : Nat) : List Tree → Option (List Value)
  | [] => some []
  | item :: items => do
    let v ← item.value? depth
    let vs ← itemValues? depth items
    return v :: vs

def fieldValues? (depth : Nat) : List (List Piece × Tree) → Option (List (String × Value))
  | [] => some []
  | (key, tree) :: fields => do
    let name ← text? key
    let v ← tree.value? depth
    let vs ← fieldValues? depth fields
    return (name, v) :: vs

end

end Json

namespace Value

def maxDepth : Nat := 127

def ofJson? (text : List Char) : Option Value :=
  (Json.tree? text).bind (·.value? maxDepth)

def items? (text : String) : Option (List Value) :=
  match ofJson? (Text.trimChars text.toList) with
  | some (.list items) => some items
  | _ => none

def ofText (text : String) : Value :=
  match items? text with
  | some items => .list items
  | none => .text text

def asItems? : Value → Option (List Value)
  | .list items => some items
  | .text s => items? s
  | _ => none

end Value

end BraceScript
