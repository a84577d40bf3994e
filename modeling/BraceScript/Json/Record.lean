import BraceScript.Json.Value

namespace BraceScript.Record

def field (name value : String) : String := Value.quote name ++ ":" ++ value

def braced (fields : List String) : String := "\x7b" ++ ",".intercalate fields ++ "\x7d"

def bracketed (items : List String) : String := "[" ++ ",".intercalate items ++ "]"

end BraceScript.Record
