import BraceScript.Unicode.Ages
import BraceScript.Unicode.Segmentation

namespace BraceScript.Unicode

/-- The form in which names are compared: letters are small, separators do not count, and neither
does a leading `is`, though `isc` is a name of its own. -/
def normalizeName (name : String) : String :=
  let bare (chars : List Char) : List Char :=
    (chars.filter fun c ↦ c.toNat < 128 && c ≠ ' ' && c ≠ '_' && c ≠ '-').map Char.toLower
  let chars := name.toList
  let led := (chars.take 2).map Char.toLower = ['i', 's']
  let short := bare (if led then chars.drop 2 else chars)
  String.ofList (if led && short = ['c'] then ['i', 's', 'c'] else short)

def category? (name : String) : Option CharSet :=
  match name with
  | "any" => some .all
  | "assigned" => some assigned
  | "ascii" => some (.range 0 0x7F)
  | "l" | "letter" => some letters
  | "lc" | "casedletter" => some casedLetters
  | "m" | "mark" | "combiningmark" => some marks
  | "n" | "number" => some numbers
  | "p" | "punctuation" | "punct" => some punctuation
  | "s" | "symbol" => some symbols
  | "z" | "separator" => some separators
  | "c" | "other" =>
    some (CharSet.unionAll [letters, marks, numbers, punctuation, symbols, separators]).compl
  | "cn" | "unassigned" => some assigned.compl
  | _ => find? categoryTables name

/-- The characters used in the script called `name`, those it shares with other scripts included. A
shared character is neither common nor inherited. -/
def scriptExtension? (name : String) : Option CharSet := do
  let script ← scriptTables.find? (·.names.contains name)
  let own := CharSet.ofTable script.table
  if script.names.contains "common" || script.names.contains "inherited" then
    return own.diff (.unionAll (sharedTables.map fun t ↦ .ofTable t.table))
  else
    match sharedTables.find? (·.names.any script.names.contains) with
    | some shared => return own.union (.ofTable shared.table)
    | none => return own

def property? (name : String) : Option CharSet :=
  match name with
  | "alphabetic" | "alpha" => some alphabetic
  | "lowercase" | "lower" => some lowercase
  | "uppercase" | "upper" => some uppercase
  | "cased" => some (.unionAll [lowercase, uppercase, category ["lt"]])
  | "caseignorable" | "ci" =>
    some ((category ["mn", "me", "cf", "lm", "sk"]).union otherCaseIgnorable)
  | "math" => some ((category ["sm"]).union otherMath)
  | "graphemeextend" | "grext" => some graphemeExtend
  | "graphemebase" | "grbase" =>
    some (assigned.diff ((category ["cc", "cf", "co", "zl", "zp"]).union graphemeExtend))
  | "idstart" | "ids" => some idStart
  | "idcontinue" | "idc" => some idContinue
  | "xidstart" | "xids" => some (idStart.diff unstableIdStart)
  | "xidcontinue" | "xidc" => some (idContinue.diff unstableIdContinue)
  | "changeswhentitlecased" | "cwt" => some changesInTitlecase
  | "changeswhencasemapped" | "cwcm" =>
    some (.unionAll [changesInLowercase, changesInUppercase, changesInTitlecase])
  | "changeswhencasefolded" | "cwcf" => some (changesInLowercase.symmDiff casefoldOnly)
  | "otheralphabetic" | "oalpha" => some otherAlphabetic
  | "otherlowercase" | "olower" => some otherLowercase
  | "otheruppercase" | "oupper" => some otherUppercase
  | "othermath" | "omath" => some otherMath
  | "othergraphemeextend" | "ogrext" => some otherGraphemeExtend
  | "otheridstart" | "oids" => some otherIdStart
  | "otheridcontinue" | "oidc" => some otherIdContinue
  | _ => find? propertyTables name

/-- The names `cf`, `lc` and `sc` stand for categories, though properties have them too. -/
def isCategoryFirst (name : String) : Bool := name == "cf" || name == "lc" || name == "sc"

def named? (name : String) : Option CharSet :=
  let name := normalizeName name
  if isCategoryFirst name then category? name
  else property? name <|> category? name <|> script? name

/-- The characters for which the property called `name` has the value called `value`. -/
def valued? (name value : String) : Option CharSet :=
  match normalizeName name with
  | "generalcategory" | "gc" => category? (normalizeName value)
  | "script" | "sc" => script? (normalizeName value)
  | "scriptextensions" | "scx" => scriptExtension? (normalizeName value)
  | "age" => age? (normalizeName value)
  | "graphemeclusterbreak" | "gcb" => graphemeBreak? (normalizeName value)
  | "wordbreak" | "wb" => wordBreak? (normalizeName value)
  | "sentencebreak" | "sb" => sentenceBreak? (normalizeName value)
  | _ => none

end BraceScript.Unicode
