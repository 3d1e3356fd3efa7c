import ArtifactCache.Table

/-!
The arguments of the program. Options may stand anywhere; each is given once
at most before the name of the command and once behind it, and the later one
counts. An option takes its value from the next argument or from the rest of
its own.
-/
namespace ArtifactCache.CommandLine

inductive Command
  /-- Writes content out, or lists the locations that hold it. -/
  | get (location path : String) (all : Bool) (output? : Option String)
  | put (location path : String) (file? : Option String)
  | delete (location path : String)
  | list (location path : String) (recursive : Bool)
  | makeAlias (fromLocation fromPath toLocation toPath : String)
  deriving DecidableEq, Repr

structure Options where
  config : String := "repo-cache.yaml"
  cacheRoot? : Option String := none
  logLevel : String := "warn"
  deriving DecidableEq, Repr

/-- What the arguments ask for. -/
inductive Request
  | help
  | version
  /-- They make no sense. -/
  | misuse
  | perform (options : Options) (command : Command)
  deriving DecidableEq, Repr

/-- What an option is called by. -/
structure Flag where
  long : String
  short? : Option Char := none
  takesValue : Bool := false
  /-- An empty value is no value. -/
  refusesEmpty : Bool := false
  deriving DecidableEq, Repr

/-- The options that every command takes. -/
def globalFlags : List Flag :=
  [{ long := "config", short? := some 'c', takesValue := true, refusesEmpty := true },
    { long := "cache-root", takesValue := true, refusesEmpty := true },
    { long := "log-level", takesValue := true },
    { long := "help", short? := some 'h' }]

/-- What a command takes beside the global options. -/
structure Shape where
  flags : List Flag
  /-- The greatest number of arguments that are no options. -/
  most : Nat

/-- In front of the command there are no other arguments. -/
def outerShape : Shape :=
  { flags := { long := "version", short? := some 'V' } :: globalFlags, most := 0 }

def shapeOf? : String → Option Shape
  | "get" => some
    { flags := [{ long := "all" },
        { long := "output", short? := some 'o', takesValue := true, refusesEmpty := true }]
        ++ globalFlags
      most := 2 }
  | "put" => some
    { flags := { long := "file", short? := some 'f', takesValue := true, refusesEmpty := true }
        :: globalFlags
      most := 2 }
  | "delete" => some { flags := globalFlags, most := 2 }
  | "ls" => some
    { flags := { long := "recursive", short? := some 'r' } :: globalFlags, most := 2 }
  | "alias" => some { flags := globalFlags, most := 4 }
  | _ => none

/-- Help may be asked for one command. -/
def isHelpTopic : List String → Bool
  | [] => true
  | [name] => name = "help" || (shapeOf? name).isSome
  | _ => false

/-- What was read of the arguments: the options with their values, and the others. -/
structure Given where
  values : Table String String := ∅
  others : List String := []

/-- How reading the arguments of one level ends. -/
inductive Reading
  | complete (given : Given)
  /-- The next argument is the name of a command. -/
  | command (name : String) (given : Given) (rest : List String)
  | help
  | version
  | misuse

/-- The options that an argument of the form `--name`, `--name=value` or `-xyz` names. -/
inductive Mention
  /-- An option, with the value that is attached to it. -/
  | option (flag : Flag) (value? : Option String) (more : List Char)
  | unknown

def mentionLong (shape : Shape) (text : List Char) : Mention :=
  let name := text.takeWhile (· ≠ '=')
  let value? := if name.length < text.length then
    some (String.ofList (text.drop (name.length + 1))) else none
  match shape.flags.find? fun f => f.long.toList = name with
  | none => .unknown
  | some f => if f.takesValue || value?.isNone then .option f value? [] else .unknown

def mentionShort (shape : Shape) : List Char → Mention
  | [] => .unknown
  | c :: more =>
    match shape.flags.find? fun f => f.short? = some c with
    | none => .unknown
    | some f =>
      if f.takesValue && more ≠ [] then
        .option f (some (String.ofList (if more.head? = some '=' then more.drop 1 else more))) []
      else .option f none more

/-- Sets an option, unless it was set before or its value is missing. -/
def Given.set (g : Given) (f : Flag) (value : String) : Option Given :=
  if g.values.contains f.long || (f.refusesEmpty && value = "") then none
  else some { g with values := g.values.insert f.long value }

/-- Reads the options that follow one hyphen. -/
def readCluster (shape : Shape) (g : Given) (next? : Option String) :
    List Char → Except Reading (Given × Bool)
  | [] => .ok (g, false)
  | c :: more =>
    match mentionShort shape (c :: more) with
    | .unknown => .error .misuse
    | .option f value? _ =>
      if f.long = "help" then .error .help
      else if f.long = "version" then .error .version
      else if f.takesValue then
        match value?.or next? with
        | none => .error .misuse
        | some value =>
          match g.set f value with
          | none => .error .misuse
          | some g => .ok (g, value?.isNone)
      else match g.set f "" with
        | none => .error .misuse
        | some g => readCluster shape g next? more

/-- The argument behind an option, if it can be its value. -/
def valueOf? (rest : List String) : Option String :=
  match rest with
  | [] => none
  | next :: _ =>
    match next.toList with
    | '-' :: _ :: _ => none
    | _ => some next

/-- Reads one option with its value; answers whether it took the next argument too. -/
def readOption (shape : Shape) (g : Given) (next? : Option String) :
    List Char → Except Reading (Given × Bool)
  | '-' :: name =>
    match mentionLong shape name with
    | .unknown => .error .misuse
    | .option f value? _ =>
      if f.long = "help" then .error .help
      else if f.long = "version" then .error .version
      else
        let value? := if f.takesValue then value?.or next? else some ""
        let takesNext := f.takesValue && !(name.contains '=')
        match value?.bind (g.set f) with
        | none => .error .misuse
        | some g => .ok (g, takesNext)
  | cluster => readCluster shape g next? cluster

/-- Takes in arguments that are no options, unless they are too many. -/
def Given.add (shape : Shape) (g : Given) (others : List String) : Option Given :=
  if g.others.length + others.length ≤ shape.most then
    some { g with others := g.others ++ others }
  else none

/-- Reads the arguments of one level. In front of the command, the first one
that is no option is its name. -/
def readLevel (shape : Shape) (outer : Bool) (g : Given) : List String → Reading
  | [] => .complete g
  | arg :: rest =>
    match arg.toList with
    | ['-', '-'] =>
      match g.add shape rest with
      | none => .misuse
      | some g => .complete g
    | '-' :: c :: more =>
      match readOption shape g (valueOf? rest) (c :: more), rest with
      | .error reading, _ => reading
      | .ok (g, true), _ :: rest => readLevel shape outer g rest
      | .ok (g, _), rest => readLevel shape outer g rest
    | _ =>
      if outer then .command arg g rest
      else match g.add shape [arg] with
        | none => .misuse
        | some g => readLevel shape outer g rest

def commandOf? (name : String) (g : Given) : Option Command :=
  let flag (name : String) : Bool := g.values.contains name
  match name, g.others with
  | "get", [location, path] =>
    some (.get location path (flag "all") (g.values.get? "output"))
  | "put", [location, path] => some (.put location path (g.values.get? "file"))
  | "delete", [location, path] => some (.delete location path)
  | "ls", [location] => some (.list location "" (flag "recursive"))
  | "ls", [location, path] => some (.list location path (flag "recursive"))
  | "alias", [fromLocation, fromPath, toLocation, toPath] =>
    some (.makeAlias fromLocation fromPath toLocation toPath)
  | _, _ => none

/-- The options of both levels. A cache root that the environment names counts
where none is given, and may not be empty then. -/
def optionsOf? (outer inner : Given) (environmentRoot? : Option String) : Option Options :=
  let value? (name : String) : Option String := (inner.values.get? name).or (outer.values.get? name)
  let missing (g : Given) : Bool := !g.values.contains "cache-root"
  if environmentRoot? = some "" && (missing outer || missing inner) then none
  else
    let plain : Options := {}
    some {
      config := (value? "config").getD plain.config
      cacheRoot? := (value? "cache-root").or environmentRoot?
      logLevel := (value? "log-level").getD plain.logLevel }

/-- What the arguments ask for, given the cache root that the environment names. -/
def Request.ofArguments (environmentRoot? : Option String) (args : List String) : Request :=
  match readLevel outerShape true {} args with
  | .help => .help
  | .version => .version
  | .misuse | .complete _ => .misuse
  | .command name outer rest =>
    if name = "help" then if isHelpTopic rest then .help else .misuse
    else match shapeOf? name with
      | none => .misuse
      | some shape =>
        match readLevel shape false {} rest with
        | .help => .help
        | .version | .misuse | .command .. => .misuse
        | .complete inner =>
          match optionsOf? outer inner environmentRoot?, commandOf? name inner with
          | some options, some command => .perform options command
          | _, _ => .misuse

end ArtifactCache.CommandLine
