import BraceScript.Json.Record
import BraceScript.Source.Statement

namespace BraceScript

def Marker.json (m : Marker) : String :=
  Record.braced [
    Record.field "index" (toString m.index),
    Record.field "line" (toString m.line),
    Record.field "column" (toString m.column)]

def Span.json (s : Span) : String :=
  Record.braced [Record.field "start" s.start.json, Record.field "end" s.stop.json]

mutual

def Statement.json : Statement → String
  | .mk parts span =>
    Record.braced [
      Record.field "values" (Record.bracketed (partTexts parts)),
      Record.field "range" span.json]

def partTexts : List Part → List String
  | [] => []
  | part :: parts => part.json :: partTexts parts

def Part.json : Part → String
  | .literal text span =>
    Record.braced [
      Record.field "type" (Value.quote "literal"),
      Record.field "text" (Value.quote text),
      Record.field "range" span.json]
  | .call name args span =>
    Record.braced [
      Record.field "type" (Value.quote "subtag"),
      Record.field "name" name.json,
      Record.field "args" (Record.bracketed (statementTexts args)),
      Record.field "range" span.json]

def statementTexts : List Statement → List String
  | [] => []
  | s :: statements => s.json :: statementTexts statements

end

end BraceScript
