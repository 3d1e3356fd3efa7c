import ArtifactCache.CommandLine.Run

/-!
The part of the disk that a run may touch: the configuration, the cache, what
it may fetch for the locations, and the file that the command names.
-/
namespace ArtifactCache.CommandLine

/-- The path of the configuration, if the run gets as far as to read it. -/
def configPath? (i : Invocation) : Option String :=
  match Request.ofArguments i.cacheRoot? i.args with
  | .perform options _ => some options.config
  | _ => none

/-- A run reads its input only to store it. -/
def readsInput (i : Invocation) : Bool :=
  match Request.ofArguments i.cacheRoot? i.args with
  | .perform _ (.put _ _ none) => true
  | _ => false

def namedFile? : Command → Option String
  | .get _ _ _ output? => output?
  | .put _ _ file? => file?
  | _ => none

/-- The path whose content a command may fetch. -/
def fetchedPath? : Command → Option String
  | .get _ path _ _ => some path
  | .makeAlias _ path _ _ => some path
  | _ => none

/-- The files that a command may fetch from the directories of the locations. -/
def fetchedPlaces (config : Config) (path : String) : List Place :=
  config.locations.filterMap fun l => match (Uri.parse l.uri).toOption.bind Uri.localPath? with
    | none => none
    | some base => some { base := .ofBytes base, below := (Path.ofText path).segments }

/-- Where a run may read or write: everything below the first places, and the
others alone. The disk holds the configuration. -/
def reach (i : Invocation) (d : Disk) : List Place × List Place :=
  match Request.ofArguments i.cacheRoot? i.args with
  | .perform options command =>
    match loadConfig options.config d with
    | .error _ => ([], [])
    | .ok config =>
      let root := CacheRoot.resolve options.cacheRoot? config.cacheRoot? i.surroundings
      let fetched := (fetchedPath? command).elim [] (fetchedPlaces config)
      let named := (namedFile? command).toList.map fun base => { base := .text base }
      ([{ base := root }], fetched ++ named)
  | _ => ([], [])

end ArtifactCache.CommandLine
