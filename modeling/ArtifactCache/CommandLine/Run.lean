import ArtifactCache.CacheRoot
import ArtifactCache.CommandLine.Commands
import ArtifactCache.Config.Text

/-!
One run of the program: from its arguments to what it prints, its exit code
and the disk that it leaves.
-/
namespace ArtifactCache.CommandLine

structure Invocation where
  args : List String
  input : Bytes := []
  /-- The cache root that the environment names. -/
  cacheRoot? : Option String := none
  surroundings : Surroundings := {}

/-- What the program leaves to libraries: reading URIs, the written form of a
configuration, and the arguments. -/
structure Libraries where
  uris : UriReader := {}
  yaml : String → Option Config := Config.ofText?
  arguments : (environmentRoot? : Option String) → List String → Request := Request.ofArguments

structure Outcome where
  code : Nat := 0
  printed : Bytes := []
  /-- What is written beside the output. -/
  remarks : String := ""

/-- The levels of lines that a name admits, by their rank. -/
def rankOf? (name : String) : Option Nat :=
  let lower := name.toLower
  if lower = "off" then some 0
  else ([Level.error, .warn, .info, .debug, .trace].find? fun l => l.label.toLower = lower).map
    (·.rank)

def unknownLevel (name : String) : Complaint where
  message := "Invalid log level '" ++ name ++ "'"
  causes := ["attempted to convert a string that doesn't match an existing log level"]

/-- A line as it is written. Where its text breaks, it goes on indented. -/
def lineText (line : Line) : String :=
  let label := line.level.label
  "[" ++ label ++ String.ofList (List.replicate (5 - label.length) ' ') ++ " " ++
    line.speaker.label ++ "] " ++ Complaint.indent "" "    " line.text ++ "\n"

/-- The lines of a trace up to a rank. -/
def remarksOf (rank : Nat) (trace : List Occurrence) : String :=
  String.join ((trace.filterMap (·.line?)).filterMap fun line =>
    if line.level.rank ≤ rank then some (lineText line) else none)

def missingConfig (path : String) : Complaint where
  message := "Configuration file not found: " ++ path ++
    "\n  hint: pass --config or create repo-cache.yaml"

/-- Reads the configuration file. -/
def loadConfig (path : String) (d : Disk) (libraries : Libraries := {}) :
    Except Complaint Config :=
  let p : Place := { base := path }
  let failing (e : Failure) : Complaint := .about ("Failed to load config from " ++ path) e
  if d.isPresent p then
    match d.readFile p with
    | .error fault => .error (failing (.io fault))
    | .ok bytes =>
      match Bytes.toText? bytes with
      | none => .error (failing (.io .notText))
      | some text => (Config.parse text libraries.yaml libraries.uris).mapError failing
  else .error (missingConfig path)

/-- Loads the configuration and performs the command. -/
def session (i : Invocation) (options : Options) (command : Command)
    (libraries : Libraries := {}) : Action Disk Result := do
  match ← Action.inspect fun d => loadConfig options.config d libraries with
  | .error complaint => return { complaint? := some complaint }
  | .ok config =>
    let root := CacheRoot.resolve options.cacheRoot? config.cacheRoot? i.surroundings
    Action.say .debug .command ("using cache root " ++ root)
    let desk : Desk :=
      { config, files := { root, linking := config.linking }, uris := libraries.uris }
    desk.perform i.input command

def finish (rank : Nat) (result : Result) (w : World Disk) : Outcome × Disk :=
  ({ code := if result.complaint?.isSome then 1 else 0
     printed := result.printed
     remarks := remarksOf rank w.trace ++ (result.complaint?.map (·.text)).getD "" }, w.storage)

def programVersion : String := "repo-cache 0.1.0\n"

def usage : String :=
  "Usage: repo-cache [--config FILE] [--cache-root DIR] [--log-level LEVEL] COMMAND\n\n" ++
  "Commands:\n" ++
  "  get LOCATION PATH [--all] [--output FILE]\n" ++
  "  put LOCATION PATH [--file FILE]\n" ++
  "  delete LOCATION PATH\n" ++
  "  ls LOCATION [PATH] [--recursive]\n" ++
  "  alias LOCATION PATH LOCATION PATH\n"

def run (i : Invocation) (d : Disk) (libraries : Libraries := {}) : Outcome × Disk :=
  match libraries.arguments i.cacheRoot? i.args with
  | .help => ({ printed := Bytes.ofText usage }, d)
  | .version => ({ printed := Bytes.ofText programVersion }, d)
  | .misuse => ({ code := 2, remarks := usage }, d)
  | .perform options command =>
    match rankOf? options.logLevel with
    | none => ({ code := 1, remarks := (unknownLevel options.logLevel).text }, d)
    | some rank =>
      match (session i options command libraries).run { storage := d } with
      | .finished result w => finish rank result w
      | .waiting _ w => finish rank (.complain "waiting for a lock") w

end ArtifactCache.CommandLine
