namespace BraceScript.Text

def startsWith (text part : String) : Bool := part.toList.isPrefixOf text.toList

def endsWith (text part : String) : Bool := part.toList.isSuffixOf text.toList

def holdsChars (part : List Char) : List Char → Bool
  | [] => part.isEmpty
  | c :: text => part.isPrefixOf (c :: text) || holdsChars part text

def holds (text part : String) : Bool := holdsChars part.toList text.toList

def after? (lead text : String) : Option String :=
  if startsWith text lead then some (String.ofList (text.toList.drop lead.toList.length)) else none

def order (a b : String) : Ordering := if a < b then .lt else if a = b then .eq else .gt

end BraceScript.Text
