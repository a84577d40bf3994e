import BraceScript.Error

namespace BraceScript

inductive ScopeKind where
  | temporary
  | tag
  | author
  | guild
  | global
deriving DecidableEq

inductive StorageScope where
  | tag (name : String)
  | author (id : String)
  | guild (id : String)
  | global
deriving DecidableEq

structure Origin where
  tag : String := ""
  author? : Option String := none
  guild? : Option String := none
  channel? : Option String := none

def Origin.storage (o : Origin) : ScopeKind → Except Error (Option StorageScope)
  | .temporary => .ok none
  | .tag => .ok (some (.tag o.tag))
  | .global => .ok (some .global)
  | .author =>
    match o.author? with
    | some id => .ok (some (.author id))
    | none => .error (.unknownScope "Author variables are unavailable without an author")
  | .guild =>
    match o.guild? with
    | some id => .ok (some (.guild id))
    | none => .error (.unknownScope "Guild variables are unavailable outside a guild")

/-- Names that start with `lead` are of kind `kind`. -/
structure Provider where
  lead : String
  kind : ScopeKind
deriving DecidableEq

namespace Provider

def width (p : Provider) : Nat := p.lead.utf8ByteSize

def matchesName (p : Provider) (raw : String) : Bool := p.lead.toList.isPrefixOf raw.toList

def bareName (p : Provider) (raw : String) : String :=
  String.ofList (raw.toList.drop p.lead.toList.length)

def standard : List Provider :=
  [⟨"", .tag⟩, ⟨"~", .temporary⟩, ⟨"@", .author⟩, ⟨"_", .guild⟩, ⟨"*", .global⟩]

end Provider

/-- Providers in the order in which they are tried. -/
structure Scopes where
  providers : List Provider

namespace Scopes

def repeatedLead? : List Provider → Option String
  | p :: q :: rest => if p.lead = q.lead then some p.lead else repeatedLead? (q :: rest)
  | _ => none

/-- Puts longer leads first, keeping the order of equally long ones. -/
def arrange (providers : List Provider) : List Provider :=
  providers.mergeSort fun p q ↦ q.width ≤ p.width

/-- Accepts providers of which one has the empty lead, and of which, once arranged, no neighbours
have the same lead. -/
def ofProviders (providers : List Provider) : Except BuildError Scopes :=
  let arranged := arrange providers
  match repeatedLead? arranged with
  | some lead => .error (.duplicateScopePrefix lead)
  | none =>
    if arranged.any (·.lead.isEmpty) then .ok ⟨arranged⟩ else .error .missingFallbackScope

def resolve (s : Scopes) (raw : String) : Except Error (ScopeKind × String) :=
  match s.providers.find? (·.matchesName raw) with
  | some p => .ok (p.kind, p.bareName raw)
  | none => .error (.unknownScope ("No variable scope matches `" ++ raw ++ "`"))

end Scopes

end BraceScript
