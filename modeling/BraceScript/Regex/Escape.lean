import BraceScript.Regex.Pattern
import BraceScript.Text.Blank

namespace BraceScript.Regex

open Unicode (CharSet)
open Text (isBlank)

def skipBlanks (inComment : Bool) : List Char → List Char
  | [] => []
  | c :: rest =>
    if inComment then skipBlanks (c ≠ '\n') rest
    else if isBlank c then skipBlanks false rest
    else if c = '#' then skipBlanks true rest
    else c :: rest

def skip (verbose : Bool) (text : List Char) : List Char :=
  if verbose then skipBlanks false text else text

/-- The longest run of characters that satisfy `p`, without what a verbose pattern ignores, and the
text after it. -/
def spanSkipping (verbose : Bool) (p : Char → Bool) (inComment : Bool) :
    List Char → List Char × List Char
  | [] => ([], [])
  | c :: rest =>
    if inComment then spanSkipping verbose p (c ≠ '\n') rest
    else if verbose && isBlank c then spanSkipping verbose p false rest
    else if verbose && c = '#' then spanSkipping verbose p true rest
    else if p c then
      let (run, rest) := spanSkipping verbose p false rest
      (c :: run, rest)
    else ([], c :: rest)

def readBraced (verbose : Bool) (text : List Char) : Option (List Char × List Char) :=
  match spanSkipping verbose (· ≠ '\x7d') false text with
  | (run, _ :: rest) => some (run, rest)
  | (_, []) => none

def charOf? (n : Nat) : Option Char :=
  if n < 0xD800 || (0xE000 ≤ n && n ≤ 0x10FFFF) then some (Char.ofNat n) else none

def hexValue? (digits : List Char) : Option Nat :=
  if digits.isEmpty then none
  else digits.foldlM (fun n c ↦ (CharSet.hexDigit? c).map (n * 16 + ·)) 0

def readHexDigits (verbose : Bool) : (count : Nat) → (value : Nat) → List Char →
    Option (Nat × List Char)
  | 0, value, text => some (value, text)
  | _ + 1, _, [] => none
  | count + 1, value, c :: rest => do
    let d ← CharSet.hexDigit? c
    readHexDigits verbose count (value * 16 + d) (skip verbose rest)

def readCodePoint (verbose : Bool) (count : Nat) (text : List Char) : Option (Literal × List Char) :=
  match skip verbose text with
  | '\x7b' :: rest => do
    let (digits, rest) ← readBraced verbose rest
    let c ← charOf? (← hexValue? digits)
    return (⟨c, false⟩, skip verbose rest)
  | text => do
    let (n, rest) ← readHexDigits verbose count 0 text
    return (⟨← charOf? n, count == 2⟩, rest)

def splitAt? (separator : List Char) : List Char → Option (List Char × List Char)
  | [] => none
  | c :: rest =>
    if separator.isPrefixOf (c :: rest) then some ([], (c :: rest).drop separator.length)
    else (splitAt? separator rest).map fun p ↦ (c :: p.1, p.2)

def propertyName (text : List Char) : PropertyName :=
  match splitAt? ['!', '='] text <|> splitAt? [':'] text <|> splitAt? ['='] text with
  | some (name, value) => .valued (String.ofList name) (String.ofList value)
  | none => .named (String.ofList text)

def readProperty (verbose : Bool) (text : List Char) : Option (PropertyName × List Char) :=
  match skip verbose text with
  | [] => none
  | '\x7b' :: rest => (readBraced verbose rest).map fun p ↦ (propertyName p.1, p.2)
  | c :: rest => if c = '\\' then none else some (.named c.toString, skip verbose rest)

def wordAnchor? : String → Option Anchor
  | "start" => some .wordStart
  | "end" => some .wordEnd
  | "start-half" => some .wordStartHalf
  | "end-half" => some .wordEndHalf
  | _ => none

/-- Reads what may follow `\b`: a kind of boundary in braces. Braces that start with anything but a
letter or a dash are left for a repetition. -/
def readBoundary (verbose : Bool) (text : List Char) : Option (Anchor × List Char) :=
  let isNameChar (c : Char) : Bool := c.isAlpha || c == '-'
  match text with
  | '\x7b' :: inner =>
    match skip verbose inner with
    | [] => none
    | c :: more =>
      if isNameChar c then
        match spanSkipping verbose isNameChar false (c :: more) with
        | (name, '\x7d' :: rest) => (wordAnchor? (String.ofList name)).map fun a ↦ (a, rest)
        | _ => none
      else some (.wordBoundary, text)
  | _ => some (.wordBoundary, text)

def isEscapable (c : Char) : Bool :=
  c.toNat < 128 && !c.isAlphanum && c ≠ '<' && c ≠ '>'

def readEscape (verbose : Bool) : List Char → Option (Atom × List Char)
  | [] => none
  | c :: rest =>
    let char (n : Nat) : Option (Atom × List Char) := some (.literal ⟨Char.ofNat n, false⟩, rest)
    let codePoint (count : Nat) : Option (Atom × List Char) :=
      (readCodePoint verbose count rest).map fun p ↦ (.literal p.1, p.2)
    let property (negated : Bool) : Option (Atom × List Char) :=
      (readProperty verbose rest).map fun p ↦ (.property p.1 negated, p.2)
    if isEscapable c then char c.toNat
    else
      match c with
      | 'x' => codePoint 2
      | 'u' => codePoint 4
      | 'U' => codePoint 8
      | 'p' => property false
      | 'P' => property true
      | 'd' => some (.shorthand .digit false, rest)
      | 'D' => some (.shorthand .digit true, rest)
      | 's' => some (.shorthand .blank false, rest)
      | 'S' => some (.shorthand .blank true, rest)
      | 'w' => some (.shorthand .word false, rest)
      | 'W' => some (.shorthand .word true, rest)
      | 'a' => char 0x07
      | 'f' => char 0x0C
      | 't' => char 0x09
      | 'n' => char 0x0A
      | 'r' => char 0x0D
      | 'v' => char 0x0B
      | 'A' => some (.anchor .textStart, rest)
      | 'z' => some (.anchor .textEnd, rest)
      | 'b' => (readBoundary verbose rest).map fun p ↦ (.anchor p.1, p.2)
      | 'B' => some (.anchor .notWordBoundary, rest)
      | '<' => some (.anchor .wordStart, rest)
      | '>' => some (.anchor .wordEnd, rest)
      | _ => none

end BraceScript.Regex
