import ArtifactCache.Groups
import ArtifactCache.Text.Blank
import ArtifactCache.Uri.Basic

/-!
The configuration: locations, and groups of names in their order. A valid
configuration has names that are not blank and not used twice, URIs that are
URIs, members that are declared, and no group that contains itself.
-/
namespace ArtifactCache

structure Group where
  name : String
  /-- Names of locations or groups, in the order of every search. -/
  members : List String := []
  deriving DecidableEq, Repr

structure Config where
  cacheRoot? : Option String := none
  /-- Aliases are links rather than copies. -/
  linking : Bool := false
  locations : List Location := []
  groups : List Group := []

namespace Config

/-- All names, those of locations first. -/
def names (c : Config) : List String := c.locations.map (·.name) ++ c.groups.map (·.name)

/-- The location with a name, or the one that stands for the group of that name. -/
def location? (c : Config) (name : String) : Option Location :=
  (c.locations.find? fun l => l.name = name).or
    ((c.groups.find? fun g => g.name = name).map fun g => Location.group g.name)

/-- The groups with their members. -/
def groupTable (c : Config) : Groups :=
  Groups.ofPairs (c.groups.map fun g => (g.name, g.members.filterMap c.location?))

/-- Names are not blank, and no name comes twice. -/
def checkNames (seen : List String) : List String → Except ConfigFault Unit
  | [] => .ok ()
  | name :: rest =>
    if Text.isBlankText name then .error .blankName
    else if seen.contains name then .error (.duplicateName name)
    else checkNames (name :: seen) rest

def checkUris (uris : UriReader) : List Location → Except ConfigFault Unit
  | [] => .ok ()
  | l :: rest =>
    match uris.parse l.uri with
    | .error why => .error (.invalidUri l.uri l.name why)
    | .ok _ => checkUris uris rest

/-- Every member has one of the known names. -/
def checkMembers (known : List String) : List Group → Except ConfigFault Unit
  | [] => .ok ()
  | g :: rest =>
    match g.members.find? fun member => !known.contains member with
    | some member => .error (.unknownMember g.name member known)
    | none => checkMembers known rest

/-- Every group can be expanded. -/
def checkGroups (table : Groups) : List Group → Except Failure Unit
  | [] => .ok ()
  | g :: rest =>
    match table.expand [Location.group g.name] with
    | .error e => .error e
    | .ok _ => checkGroups table rest

/-- The first fault of a configuration, in this order: names, URIs, members, cycles. -/
def validate (c : Config) (uris : UriReader := {}) : Except Failure Unit := do
  (checkNames [] c.names).mapError .config
  (checkUris uris c.locations).mapError .config
  (checkMembers c.names c.groups).mapError .config
  checkGroups c.groupTable c.groups

end Config
end ArtifactCache
