import BraceScript.Text.CaseTable

namespace BraceScript.Text

def inRanges (ranges : List (Nat × Nat)) (n : Nat) : Bool :=
  ranges.any fun r ↦ r.1 ≤ n && n ≤ r.2

def isCased (c : Char) : Bool :=
  if c.toNat < 128 then c.isAlpha else inRanges casedRanges c.toNat

def isCaseIgnorable (c : Char) : Bool :=
  if c.toNat < 128 then c == '.' || c == ':' || c == '^' || c.toNat == 0x27 || c.toNat == 0x60
  else inRanges caseIgnorableRanges c.toNat

def lowerChar (c : Char) : List Char :=
  if c.toNat < 128 then [c.toLower]
  else if c.toNat = 0x130 then ['i', Char.ofNat 0x307]
  else
    match lowerRanges.find? (·.contains c.toNat) with
    | some r => [Char.ofNat (r.apply c.toNat)]
    | none => [c]

def meetsCased (text : List Char) : Bool :=
  match text.dropWhile isCaseIgnorable with
  | [] => false
  | c :: _ => isCased c

def capitalSigma : Char := Char.ofNat 0x3A3
def smallSigma : Char := Char.ofNat 0x3C3
def finalSigma : Char := Char.ofNat 0x3C2

/-- Lower-cases the text that follows `before`, which is given latest first. -/
def lowerFrom (before : List Char) : List Char → List Char
  | [] => []
  | c :: text =>
    let image :=
      if c = capitalSigma then
        if meetsCased before && !meetsCased text then [finalSigma] else [smallSigma]
      else lowerChar c
    image ++ lowerFrom (c :: before) text

def lower (text : String) : String := String.ofList (lowerFrom [] text.toList)

end BraceScript.Text
