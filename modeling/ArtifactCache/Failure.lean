import ArtifactCache.Fault
import ArtifactCache.Uri.Fault

/-!
The failures that the cache reports, each by its cause, and their wording.
A missing resource is not among them: absence is an answer.
-/
namespace ArtifactCache

/-- The hooks that can refuse. -/
inductive Hook
  | read | write | copyFrom | delete | listing | mkdirs | createFile
  deriving DecidableEq, Repr

def Hook.label : Hook → String
  | .read => "read"
  | .write => "write"
  | .copyFrom => "copy_from"
  | .delete => "delete"
  | .listing => "listing"
  | .mkdirs => "mkdirs"
  | .createFile => "create_file"

/-- What was being done when storage failed. -/
inductive Activity
  | openInput | openOutput | copy | delete | list | mkdirs | createFile | createAlias | walk | store
  | hook (h : Hook)
  deriving DecidableEq, Repr

def Activity.label : Activity → String
  | .openInput => "open_input_stream"
  | .openOutput => "open_output_stream"
  | .copy => "copy"
  | .delete => "delete"
  | .list => "list"
  | .mkdirs => "mkdirs"
  | .createFile => "create_file"
  | .createAlias => "create_alias"
  | .walk => "walk"
  | .store => "store"
  | .hook h => "decorate_" ++ h.label

inductive InvalidResource
  /-- A spread over no location. The path stands as it was given. -/
  | noLocations (path : String)
  | unknownGroup (name : String)
  deriving DecidableEq, Repr

def InvalidResource.message : InvalidResource → String
  | .noLocations path => "virtual resource '" ++ path ++ "' has no locations"
  | .unknownGroup name => "unknown location group '" ++ name ++ "'"

inductive EndpointFault
  /-- The URI of a directory location names no directory of this machine. -/
  | notLocal (uri : String)
  | openFailed (place : String) (fault : Fault)
  | publishFailed (place : String) (fault : Fault)
  | downloadFailed (resource : Resource) (fault : Fault)
  | unconfigured
  | reported (words : String)
  deriving DecidableEq

def EndpointFault.message : EndpointFault → String
  | .notLocal uri => "'" ++ uri ++ "' does not name a local directory"
  | .openFailed place fault => "failed to open " ++ place ++ ": " ++ fault.message
  | .publishFailed place fault => "failed to publish to " ++ place ++ ": " ++ fault.message
  | .downloadFailed resource fault =>
    "failed to download " ++ resource.display ++ ": " ++ fault.message
  | .unconfigured => "no transport configured for publishing"
  | .reported words => words

inductive ConfigFault
  | blankName
  | duplicateName (name : String)
  | invalidUri (uri name : String) (why : Uri.Fault)
  | unknownMember (group member : String) (known : List String)
  deriving DecidableEq, Repr

def ConfigFault.message : ConfigFault → String
  | .blankName => "location and group names must not be empty"
  | .duplicateName name => "duplicate location or group name '" ++ name ++ "'"
  | .invalidUri uri name why =>
    "invalid uri '" ++ uri ++ "' for location '" ++ name ++ "': " ++ why.message
  | .unknownMember group member _ =>
    "group '" ++ group ++ "' references unknown member '" ++ member ++ "'"

/-- How the configuration might be mended. -/
def ConfigFault.hint? : ConfigFault → Option String
  | .blankName => none
  | .duplicateName _ => some "Names are shared between locations and groups"
  | .invalidUri .. => some "Use an absolute URI such as file:///srv/repo"
  | .unknownMember _ _ known => some ("Known names: " ++ ", ".intercalate known)

inductive Failure
  | invalidResource (why : InvalidResource)
  | storage (activity : Activity) (place : String) (fault : Fault)
  /-- This thread already has an open writer on the resource. -/
  | writeInProgress (resource : Resource)
  /-- None of the locations, of which only the wording is kept, accepts stores. -/
  | noStorageLocation (spread : String)
  | endpoint (location : String) (why : EndpointFault)
  /-- The groups on the way, the last of which is on it already. -/
  | cycle (chain : List String)
  | config (why : ConfigFault)
  | document (location : String) (words : String)
  | io (fault : Fault)
  /-- The configuration is not a YAML document of the expected shape. -/
  | yaml
  | uri (why : Uri.Fault)
  deriving DecidableEq

def Failure.message : Failure → String
  | .invalidResource why => "Invalid resource: " ++ why.message
  | .storage activity place fault =>
    "Storage error during " ++ activity.label ++ " on " ++ place ++ ": " ++ fault.message
  | .writeInProgress resource => "Write already in progress for: " ++ resource.display
  | .noStorageLocation spread => "No deployment locations available for: " ++ spread
  | .endpoint location why => "Transport error for " ++ location ++ ": " ++ why.message
  | .cycle chain => "Cycle detected in location groups: " ++ " -> ".intercalate chain
  | .config why =>
    "Configuration parsing error: " ++ why.message ++
      match why.hint? with
      | some hint => "\n  hint: " ++ hint
      | none => ""
  | .document location words => "Document error at " ++ location ++ ": " ++ words
  | .io fault => "I/O error: " ++ fault.message
  | .yaml => "YAML parsing error: the document does not have the expected shape"
  | .uri why => "URL parsing error: " ++ why.message

/-- What lies below a failure, the nearest first. A report names it as the causes. -/
def Failure.causes : Failure → List String
  | .storage _ _ fault | .io fault => fault.message :: (fault.cause?.map (·.message)).toList
  | .uri why => [why.message]
  | _ => []

end ArtifactCache
