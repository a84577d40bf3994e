import BraceScript.Json.Read
import BraceScript.Regex.Basic
import BraceScript.Run.State
import BraceScript.Text.Case

namespace BraceScript

/-- Random decisions, each a function of how many were taken before it. -/
structure Random where
  index : Nat → Nat → Nat
  shuffle : Nat → List Value → List Value

namespace Random

def scramble (n : Nat) : Nat :=
  let z := ((n + 1) * 0x9E3779B97F4A7C15) % Nat.pow 2 64
  let z := ((z ^^^ (z >>> 30)) * 0xBF58476D1CE4E5B9) % Nat.pow 2 64
  let z := ((z ^^^ (z >>> 27)) * 0x94D049BB133111EB) % Nat.pow 2 64
  z ^^^ (z >>> 31)

def draw (seed : Nat) : Nat → List Value → List Value
  | 0, _ => []
  | fuel + 1, items =>
    match items[scramble (seed + fuel) % items.length]? with
    | none => []
    | some item => item :: draw seed fuel (items.eraseIdx (scramble (seed + fuel) % items.length))

def scrambled : Random where
  index draws length := scramble draws % length
  shuffle draws items := draw (draws * Nat.pow 2 32) items.length items

end Random

/-- The policies of a run. -/
structure Plugins where
  number? : String → Option Double
  boolean? : String → Option Bool
  isQuiet : Frame → Bool
  fallback? : Frame → Option String
  regex : String → Except Error Regex
  random : Random

namespace Plugins

def decimalNumber? (text : String) : Option Double :=
  match Decimal.ofText? (Text.trimChars text.toList) with
  | none => none
  | some d => if d.toDouble.isFinite then some d.toDouble else none

def wordBoolean? (text : String) : Option Bool :=
  let word := Text.lower (Text.trim text)
  if ["true", "t", "yes", "y", "1"].contains word then some true
  else if ["false", "f", "no", "n", "0"].contains word then some false
  else none

/-- The policies in use unless others are chosen, with a ceiling on the size of regular expressions
and words for those that cannot be read. -/
def standard (regexSizeLimit : Nat := 65536) (explain : String → String := Regex.unreadable) :
    Plugins where
  number? := decimalNumber?
  boolean? := wordBoolean?
  isQuiet f := f.quiet?.getD false
  fallback? f := f.fallback?
  regex := Regex.build explain regexSizeLimit
  random := .scrambled

/-- A whole number of magnitude at most `2 ^ 63`, cut to a signed 64-bit word. -/
def integer? (p : Plugins) (text : String) : Option Int :=
  match p.number? text with
  | none => none
  | some d =>
    if d.isWhole && d.whole.natAbs ≤ Nat.pow 2 63 then some (min d.whole (Nat.pow 2 63 - 1))
    else none

def booleanOr? (p : Plugins) (text : String) (default : Bool) : Option Bool :=
  if Text.isBlankText text then some default else p.boolean? text

end Plugins

end BraceScript
