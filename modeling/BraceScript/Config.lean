import BraceScript.Json.Read
import BraceScript.Json.Record
import BraceScript.Limits

namespace BraceScript

/-- The settings of an engine. -/
structure Config where
  limits : Limits := {}
  -- Steps between two yields to the scheduler; zero for none.
  yieldInterval : Nat := 1000
  timeoutMs : Option Nat := none
  regexSizeLimit : Nat := 65536
deriving DecidableEq

namespace Config

def natOf? : Json.Tree → Option Nat
  | .number n =>
    match n.value? with
    | some (.int k) => if 0 ≤ k then some k.toNat else none
    | _ => none
  | _ => none

def optionalNatOf? : Json.Tree → Option (Option Nat)
  | .null => some none
  | t => (natOf? t).map some

def readFields {γ : Type} (settings : List (String × (γ → Json.Tree → Option γ))) (seen : List String)
    (group : γ) : List (List Json.Piece × Json.Tree) → Option γ
  | [] => some group
  | (key, tree) :: fields => do
    let name ← Json.text? key
    match settings.find? (·.1 = name) with
    | none => readFields settings seen group fields
    | some (_, assign) =>
      if seen.contains name then none
      else do
        let group ← assign group tree
        readFields settings (name :: seen) group fields

def readItems {γ : Type} : List (String × (γ → Json.Tree → Option γ)) → γ → List Json.Tree → Option γ
  | _, group, [] => some group
  | [], _, _ :: _ => none
  | (_, assign) :: settings, group, tree :: trees => do
    let group ← assign group tree
    readItems settings group trees

def readGroup {γ : Type} (settings : List (String × (γ → Json.Tree → Option γ))) (group : γ) :
    Json.Tree → Option γ
  | .object fields => readFields settings [] group fields
  | .array items => readItems settings group items
  | _ => none

def limitSettings : List (String × (Limits → Json.Tree → Option Limits)) := [
  ("max_loops", fun l t ↦ (natOf? t).map fun n ↦ { l with maxLoops := n }),
  ("max_calls", fun l t ↦ (natOf? t).map fun n ↦ { l with maxCalls := n }),
  ("max_depth", fun l t ↦ (natOf? t).map fun n ↦ { l with maxDepth := n }),
  ("max_requests", fun l t ↦ (natOf? t).map fun n ↦ { l with maxRequests := n })]

def settings : List (String × (Config → Json.Tree → Option Config)) := [
  ("limits", fun c t ↦ (readGroup limitSettings {} t).map fun l ↦ { c with limits := l }),
  ("yield_interval", fun c t ↦ (natOf? t).map fun n ↦ { c with yieldInterval := n }),
  ("timeout_ms", fun c t ↦ (optionalNatOf? t).map fun n ↦ { c with timeoutMs := n }),
  ("regex_size_limit", fun c t ↦ (natOf? t).map fun n ↦ { c with regexSizeLimit := n })]

def ofJson? (text : String) : Option Config :=
  (Json.tree? text.toList).bind (readGroup settings {})

def printLimits (l : Limits) : String :=
  Record.braced [
    Record.field "max_loops" (toString l.maxLoops),
    Record.field "max_calls" (toString l.maxCalls),
    Record.field "max_depth" (toString l.maxDepth),
    Record.field "max_requests" (toString l.maxRequests)]

def print (c : Config) : String :=
  Record.braced [
    Record.field "limits" (printLimits c.limits),
    Record.field "yield_interval" (toString c.yieldInterval),
    Record.field "timeout_ms" ((c.timeoutMs.map toString).getD "null"),
    Record.field "regex_size_limit" (toString c.regexSizeLimit)]

end Config

end BraceScript
