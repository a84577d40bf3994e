namespace BraceScript.Json

inductive Piece where
  | char (c : Char)
  | unit (n : Nat)
deriving DecidableEq

structure Numeral where
  negative : Bool
  whole : List Char
  fraction : Option (List Char)
  exponent : Option (Bool × List Char)
deriving DecidableEq

inductive Tree where
  | null
  | bool (b : Bool)
  | number (n : Numeral)
  | string (pieces : List Piece)
  | array (items : List Tree)
  | object (fields : List (List Piece × Tree))

def isSpace (c : Char) : Bool := c == ' ' || c == '\t' || c == '\n' || c == '\r'

def skipSpace (text : List Char) : List Char := text.dropWhile isSpace

def isDigit (c : Char) : Bool := '0' ≤ c && c ≤ '9'

def hexValue? (c : Char) : Option Nat :=
  if '0' ≤ c && c ≤ '9' then some (c.toNat - '0'.toNat)
  else if 'a' ≤ c && c ≤ 'f' then some (c.toNat - 'a'.toNat + 10)
  else if 'A' ≤ c && c ≤ 'F' then some (c.toNat - 'A'.toNat + 10)
  else none

def unit? (a b c d : Char) : Option Nat := do
  return 4096 * (← hexValue? a) + 256 * (← hexValue? b) + 16 * (← hexValue? c) + (← hexValue? d)

def escaped? (c : Char) : Option Char :=
  match c with
  | '"' => some '"'
  | '\\' => some '\\'
  | '/' => some '/'
  | 'b' => some '\x08'
  | 'f' => some '\x0c'
  | 'n' => some '\n'
  | 'r' => some '\r'
  | 't' => some '\t'
  | _ => none

def readPieces : List Char → Option (List Piece × List Char)
  | '"' :: text => some ([], text)
  | '\\' :: 'u' :: a :: b :: c :: d :: text => do
    let n ← unit? a b c d
    let (pieces, rest) ← readPieces text
    return (.unit n :: pieces, rest)
  | '\\' :: e :: text => do
    let c ← escaped? e
    let (pieces, rest) ← readPieces text
    return (.char c :: pieces, rest)
  | c :: text =>
    if c == '\\' || c.toNat < 0x20 then none
    else do
      let (pieces, rest) ← readPieces text
      return (.char c :: pieces, rest)
  | [] => none

def readDigits (text : List Char) : Option (List Char × List Char) :=
  let ds := text.takeWhile isDigit
  if ds.isEmpty then none else some (ds, text.dropWhile isDigit)

def readWhole (text : List Char) : Option (List Char × List Char) :=
  match readDigits text with
  | some (['0'], rest) => some (['0'], rest)
  | some ('0' :: _, _) => none
  | other => other

def readFraction : List Char → Option (Option (List Char) × List Char)
  | '.' :: text => (readDigits text).map fun (ds, rest) ↦ (some ds, rest)
  | text => some (none, text)

def readExponent : List Char → Option (Option (Bool × List Char) × List Char)
  | [] => some (none, [])
  | c :: text =>
    if c == 'e' || c == 'E' then
      let (negative, text) := match text with
        | '+' :: text => (false, text)
        | '-' :: text => (true, text)
        | text => (false, text)
      (readDigits text).map fun (ds, rest) ↦ (some (negative, ds), rest)
    else some (none, c :: text)

def readUnsigned (negative : Bool) (text : List Char) : Option (Numeral × List Char) := do
  let (whole, text) ← readWhole text
  let (fraction, text) ← readFraction text
  let (exponent, text) ← readExponent text
  return (⟨negative, whole, fraction, exponent⟩, text)

def readNumeral : List Char → Option (Numeral × List Char)
  | '-' :: text => readUnsigned true text
  | text => readUnsigned false text

def readWord (word text : List Char) : Option (List Char) :=
  if word.isPrefixOf text then some (text.drop word.length) else none

mutual

def readTree : Nat → List Char → Option (Tree × List Char)
  | 0, _ => none
  | fuel + 1, text =>
    match skipSpace text with
    | [] => none
    | '"' :: text => (readPieces text).map fun (pieces, rest) ↦ (.string pieces, rest)
    | '[' :: text =>
      match skipSpace text with
      | ']' :: rest => some (.array [], rest)
      | text => (readItems fuel text).map fun (items, rest) ↦ (.array items, rest)
    | '\x7b' :: text =>
      match skipSpace text with
      | '\x7d' :: rest => some (.object [], rest)
      | text => (readFields fuel text).map fun (fields, rest) ↦ (.object fields, rest)
    | 'n' :: text => (readWord "ull".toList text).map fun rest ↦ (.null, rest)
    | 't' :: text => (readWord "rue".toList text).map fun rest ↦ (.bool true, rest)
    | 'f' :: text => (readWord "alse".toList text).map fun rest ↦ (.bool false, rest)
    | text => (readNumeral text).map fun (n, rest) ↦ (.number n, rest)

def readItems : Nat → List Char → Option (List Tree × List Char)
  | 0, _ => none
  | fuel + 1, text => do
    let (item, rest) ← readTree fuel text
    match skipSpace rest with
    | ']' :: rest => return ([item], rest)
    | ',' :: rest => do
      let (items, rest) ← readItems fuel rest
      return (item :: items, rest)
    | _ => none

def readFields : Nat → List Char → Option (List (List Piece × Tree) × List Char)
  | 0, _ => none
  | fuel + 1, text =>
    match skipSpace text with
    | '"' :: text => do
      let (key, rest) ← readPieces text
      match skipSpace rest with
      | ':' :: rest => do
        let (value, rest) ← readTree fuel rest
        match skipSpace rest with
        | '\x7d' :: rest => return ([(key, value)], rest)
        | ',' :: rest => do
          let (fields, rest) ← readFields fuel rest
          return ((key, value) :: fields, rest)
        | _ => none
      | _ => none
    | _ => none

end

def tree? (text : List Char) : Option Tree :=
  match readTree (2 * text.length + 2) text with
  | some (tree, rest) => if (skipSpace rest).isEmpty then some tree else none
  | none => none

/-- The text between the quotes of a string; none when a surrogate stands alone. -/
def decode? : List Piece → Option (List Char)
  | [] => some []
  | .char c :: pieces => (decode? pieces).map (c :: ·)
  | .unit n :: .unit m :: pieces =>
    if 0xD800 ≤ n && n ≤ 0xDBFF then
      if 0xDC00 ≤ m && m ≤ 0xDFFF then
        (decode? pieces).map (Char.ofNat (0x10000 + 0x400 * (n - 0xD800) + (m - 0xDC00)) :: ·)
      else none
    else if 0xDC00 ≤ n && n ≤ 0xDFFF then none
    else (decode? (.unit m :: pieces)).map (Char.ofNat n :: ·)
  | .unit n :: pieces =>
    if 0xD800 ≤ n && n ≤ 0xDFFF then none else (decode? pieces).map (Char.ofNat n :: ·)

def text? (pieces : List Piece) : Option String := (decode? pieces).map String.ofList

end BraceScript.Json
