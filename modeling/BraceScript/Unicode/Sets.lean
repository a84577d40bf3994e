import BraceScript.Unicode.Categories
import BraceScript.Unicode.Properties

namespace BraceScript.Unicode

def category (names : List String) : CharSet := findAll categoryTables names

def letters : CharSet := category ["lu", "ll", "lt", "lm", "lo"]
def casedLetters : CharSet := category ["lu", "ll", "lt"]
def marks : CharSet := category ["mn", "mc", "me"]
def numbers : CharSet := category ["nd", "nl", "no"]
def punctuation : CharSet := category ["pc", "pd", "ps", "pe", "pi", "pf", "po"]
def symbols : CharSet := category ["sm", "sc", "sk", "so"]
def separators : CharSet := category ["zs", "zl", "zp"]

def assigned : CharSet := .unionAll
  [letters, marks, numbers, punctuation, symbols, separators, category ["cc", "cf", "co"]]

def lowercase : CharSet := (category ["ll"]).union otherLowercase
def uppercase : CharSet := (category ["lu"]).union otherUppercase

def alphabetic : CharSet :=
  .unionAll [lowercase, uppercase, letters, category ["nl"], otherAlphabetic]

def graphemeExtend : CharSet := (category ["me", "mn"]).union otherGraphemeExtend

def patternSyntax : CharSet := findAll propertyTables ["patternsyntax", "patternwhitespace"]

def idStart : CharSet := ((letters.union (category ["nl"])).diff patternSyntax).union otherIdStart

def idContinue : CharSet :=
  ((idStart.union (category ["mn", "mc", "nd", "pc"])).diff patternSyntax).union otherIdContinue

def changesInLowercase : CharSet := findAll propertyTables ["cwl"]
def changesInUppercase : CharSet := findAll propertyTables ["cwu"]
def changesInTitlecase : CharSet := changesInUppercase.symmDiff titlecaseOnly

def digits : CharSet := category ["nd"]

def blanks : CharSet := findAll propertyTables ["whitespace"]

def wordChars : CharSet :=
  .unionAll [alphabetic, marks, digits, category ["pc"], findAll propertyTables ["joincontrol"]]

def asciiDigits : CharSet := .ofTable "30-39"

def asciiBlanks : CharSet := .ofTable "9-D 20"

def asciiWordChars : CharSet := .ofTable "30-39 41-5A 5F 61-7A"

end BraceScript.Unicode
