import BraceScript.Number.Decimal
import BraceScript.Number.Layout

namespace BraceScript

/-- A value. The fields of an object stand in the order of their names, each name once. -/
inductive Value where
  | null
  | bool (b : Bool)
  | int (n : Int)
  | double (d : Double)
  | text (s : String)
  | list (items : List Value)
  | object (fields : List (String × Value))

namespace Value

def insertField (name : String) (value : Value) :
    List (String × Value) → List (String × Value)
  | [] => [(name, value)]
  | (other, v) :: fields =>
    if name < other then (name, value) :: (other, v) :: fields
    else if name = other then (name, value) :: fields
    else (other, v) :: insertField name value fields

/-- The object with the given fields; of fields with one name the last counts. -/
def ofFields (fields : List (String × Value)) : Value :=
  .object (fields.foldl (fun acc f ↦ insertField f.1 f.2 acc) [])

/-- Doubles in JSON text: fixed notation with at least one decimal for decimal exponents from -5
to 15, otherwise scientific notation with a signed exponent. A tie goes to the even digit. -/
def doubleLayout : NumberLayout := ⟨some (-5, 15), ".0", .toEven⟩

def hexDigit (n : Nat) : Char := if n < 10 then Char.ofNat (48 + n) else Char.ofNat (87 + n)

def escapeChar (c : Char) : List Char :=
  match c with
  | '"' => ['\\', '"']
  | '\\' => ['\\', '\\']
  | '\x08' => ['\\', 'b']
  | '\x0c' => ['\\', 'f']
  | '\n' => ['\\', 'n']
  | '\r' => ['\\', 'r']
  | '\t' => ['\\', 't']
  | c =>
    if c.toNat < 0x20 then
      ['\\', 'u', '0', '0', hexDigit (c.toNat / 16), hexDigit (c.toNat % 16)]
    else [c]

def quote (s : String) : String :=
  String.ofList ('"' :: (s.toList.flatMap escapeChar ++ ['"']))

mutual

def print : Value → String
  | .null => "null"
  | .bool true => "true"
  | .bool false => "false"
  | .int n => toString n
  | .double d => doubleLayout.render d
  | .text s => quote s
  | .list [] => "[]"
  | .list (item :: items) => "[" ++ item.print ++ printItems items ++ "]"
  | .object [] => "\x7b\x7d"
  | .object ((name, value) :: fields) =>
    "\x7b" ++ quote name ++ ":" ++ value.print ++ printFields fields ++ "\x7d"

def printItems : List Value → String
  | [] => ""
  | item :: items => "," ++ item.print ++ printItems items

def printFields : List (String × Value) → String
  | [] => ""
  | (name, value) :: fields => "," ++ quote name ++ ":" ++ value.print ++ printFields fields

end

/-- The value as document text: text stands for itself and null for nothing. -/
def render : Value → String
  | .null => ""
  | .text s => s
  | v => v.print

end Value

end BraceScript
