import BraceScript.Run.Script

namespace BraceScript.Subtags

def ownId? (o : Origin) : EntityKind → Option String
  | .user => o.author?
  | .channel => o.channel?
  | _ => none

/-- The entity that the first argument names. A blank query means the entity on whose behalf the
document runs, found by its id only. A failure is silent if the second argument says so, or if it
is blank and the current frame is quiet; text that is no truth value counts as true. -/
def findEntity (c : Invocation) (kind : EntityKind) : Action Entity := do
  let text ← Action.value 0
  let quietText ← Action.value 1
  let frame ← Action.frame
  let quiet :=
    if Text.isBlankText quietText then c.plugins.isQuiet frame
    else (c.plugins.boolean? quietText).getD true
  let own := Text.isBlankText text
  let query := if own then (ownId? c.origin kind).getD "" else text
  let missing := (Error.notFound kind.label query).quietIf quiet
  if query.isEmpty then throw missing
  Action.ofOption missing (← Action.findEntity kind query own)

def lookupId (kind : EntityKind) (c : Invocation) : Action (Option String) := do
  return some (← findEntity c kind).id

def lookupName (kind : EntityKind) (c : Invocation) : Action (Option String) := do
  return some (← findEntity c kind).name

def countUsers (_ : Invocation) : Action (Option String) := do
  return some (toString (← Action.listEntities .user).length)

def lookupDeclaration (id : String) (kind : EntityKind)
    (handler : EntityKind → Invocation → Action (Option String)) (description : String) :
    Declaration Handler :=
  { id
    category := .lookup
    description
    signatures := [([kind.label ++ "?", "quiet?"], description, .script (handler kind))] }

def useridDeclaration : Declaration Handler :=
  lookupDeclaration "userid" .user lookupId "Returns the id of a user, by default the author."

def usernameDeclaration : Declaration Handler :=
  lookupDeclaration "username" .user lookupName "Returns the name of a user, by default the author."

def channelidDeclaration : Declaration Handler :=
  lookupDeclaration "channelid" .channel lookupId
    "Returns the id of a channel, by default the current one."

def usercountDeclaration : Declaration Handler where
  id := "usercount"
  category := .lookup
  description := "Counts the users visible to the execution."
  signatures := [([], "Returns the number of users.", .script countUsers)]

def lookupDeclarations : List (Declaration Handler) :=
  [useridDeclaration, usernameDeclaration, channelidDeclaration, usercountDeclaration]

end BraceScript.Subtags
