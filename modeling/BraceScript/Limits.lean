import BraceScript.Error

namespace BraceScript

/-- The ceilings of a run. -/
structure Limits where
  maxLoops : Nat := 10000
  maxCalls : Nat := 100000
  maxDepth : Nat := 200
  maxRequests : Nat := 50
deriving DecidableEq

inductive Resource where
  | loops
  | calls
  | requests
deriving DecidableEq

def Resource.label : Resource → String
  | loops => "loops"
  | calls => "subtag calls"
  | requests => "requests"

structure Usage where
  loops : Nat := 0
  calls : Nat := 0
  requests : Nat := 0
deriving DecidableEq

namespace Usage

def used (u : Usage) : Resource → Nat
  | .loops => u.loops
  | .calls => u.calls
  | .requests => u.requests

def count (u : Usage) : Resource → Usage
  | .loops => { u with loops := u.loops + 1 }
  | .calls => { u with calls := u.calls + 1 }
  | .requests => { u with requests := u.requests + 1 }

end Usage

namespace Limits

def ceiling (l : Limits) : Resource → Nat
  | .loops => l.maxLoops
  | .calls => l.maxCalls
  | .requests => l.maxRequests

def charge (l : Limits) (u : Usage) (r : Resource) : Except Error Usage :=
  if l.ceiling r ≤ u.used r then .error (.limitExceeded r.label (l.ceiling r)) else .ok (u.count r)

def depthExceeded (l : Limits) : Error := .limitExceeded "nested calls" l.maxDepth

def checkDepth (l : Limits) (depth : Nat) : Except Error Unit :=
  if l.maxDepth < depth then .error l.depthExceeded else .ok ()

end Limits

end BraceScript
