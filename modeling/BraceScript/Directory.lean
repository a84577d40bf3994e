import BraceScript.Error
import BraceScript.Scope

namespace BraceScript

inductive EntityKind where
  | user
  | channel
  | role
  | message
deriving DecidableEq

def EntityKind.label : EntityKind → String
  | user => "user"
  | channel => "channel"
  | role => "role"
  | message => "message"

structure Entity where
  id : String
  name : String
  kind : EntityKind
deriving DecidableEq

structure Directory where
  find : Origin → EntityKind → String → Bool → Except Error (Option Entity)
  list : Origin → EntityKind → Except Error (List Entity)

namespace Directory

def sameName (a b : String) : Bool := a.toList.map Char.toLower == b.toList.map Char.toLower

def ofEntities (entities : List Entity) : Directory where
  find _ kind query byId := .ok ((entities.filter (·.kind = kind)).find? fun e ↦
    e.id == query || (!byId && sameName e.name query))
  list _ kind := .ok (entities.filter (·.kind = kind))

end Directory

end BraceScript
