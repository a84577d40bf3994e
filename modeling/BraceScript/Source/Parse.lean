import BraceScript.Source.Braces
import BraceScript.Source.Statement

namespace BraceScript

/-- A statement under construction: where it began, its parts so far and the literal text after
them, both latest first. -/
structure Draft where
  start : Marker
  parts : List Part := []
  text : List Char := []
  textStart : Marker := start

namespace Draft

def push (d : Draft) (m : Marker) (c : Char) : Draft :=
  { d with text := c :: d.text, textStart := if d.text.isEmpty then m else d.textStart }

def flush (d : Draft) (m : Marker) : List Part :=
  if d.text.isEmpty then d.parts
  else .literal (String.ofList d.text.reverse) ⟨d.textStart, m⟩ :: d.parts

def finish (d : Draft) (m : Marker) : Statement := .mk (d.flush m).reverse ⟨d.start, m⟩

end Draft

structure OpenCall where
  start : Marker
  outer : Draft
  -- The finished name and arguments, latest first.
  done : List Statement := []

structure Reader where
  place : Marker
  draft : Draft
  stack : List OpenCall := []

namespace Reader

def start : Reader := ⟨Marker.start, { start := Marker.start }, []⟩

def closeCall (c : OpenCall) (last : Statement) (stop : Marker) : Part :=
  match (last :: c.done).reverse with
  | [] => .call last [] ⟨c.start, stop⟩
  | name :: args => .call name args ⟨c.start, stop⟩

/-- Reads one character: `shape` is the masked character and `c` the character itself. A separator
outside of every call is text. -/
def step (r : Reader) (shape c : Char) : Reader :=
  let next := r.place.step c
  let asText : Reader := { r with place := next, draft := r.draft.push r.place c }
  if shape = Braces.opening then
    let outer := { r.draft with parts := r.draft.flush r.place, text := [] }
    ⟨next, { start := next }, { start := r.place, outer } :: r.stack⟩
  else if shape = Braces.closing then
    match r.stack with
    | [] => asText
    | call :: stack =>
      let part := closeCall call (r.draft.finish r.place) next
      ⟨next, { call.outer with parts := part :: call.outer.parts }, stack⟩
  else if shape = ';' then
    match r.stack with
    | [] => asText
    | call :: stack =>
      ⟨next, { start := next }, { call with done := r.draft.finish r.place :: call.done } :: stack⟩
  else asText

def run (r : Reader) : List Char → List Char → Reader
  | shape :: shapes, c :: text => (r.step shape c).run shapes text
  | _, _ => r

end Reader

def parse (source : String) : Statement :=
  let text := source.toList
  let r := Reader.start.run (Braces.mask text) text
  r.draft.finish r.place

end BraceScript
