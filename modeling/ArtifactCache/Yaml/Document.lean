import ArtifactCache.Yaml.Node
import ArtifactCache.Yaml.Tag

/-!
From tokens to the node that a document holds.
-/
namespace ArtifactCache.Yaml

/-- What a text holds: one document at most. -/
inductive Document
  | nothing
  | node (root : Node) (anchors : Anchors)

namespace Document

/-- What is left of a document, and what was read of it. -/
structure Reading where
  tokens : List Token
  /-- What the handles of tags stand for. -/
  handles : Table String Bytes
  anchors : Anchors := {}

/-- A step of reading; `none` where the tokens do not fit. -/
abbrev Reader := StateT Reading Option

def peek : Reader (Option Token) := do return (← get).tokens.head?

def advance : Reader Unit := modify fun r => { r with tokens := r.tokens.drop 1 }

/-- Whether the next token is one of these, or the last one was read. -/
def atAny (tokens : List Token) : Reader Bool := do
  match ← peek with
  | none => return true
  | some t => return tokens.contains t

/-- The anchor and the tag in front of a node. -/
structure Properties where
  anchor? : Option String := none
  tag? : Option Bytes := none

def Properties.isNone (p : Properties) : Bool := p.anchor?.isNone && p.tag?.isNone

/-- The tag that a handle and a suffix spell. -/
def tagOf (handle : String) (suffix : Bytes) : Reader Bytes := do
  if handle = "" then return suffix
  match (← get).handles.get? handle with
  | some stem => return stem ++ suffix
  | none => failure

/-- At most one anchor and one tag, in either order. -/
def properties : Reader Properties := do
  match ← peek with
  | some (.anchor name) =>
    advance
    match ← peek with
    | some (.tag handle suffix) =>
      advance
      return { anchor? := some name, tag? := some (← tagOf handle suffix) }
    | _ => return { anchor? := some name }
  | some (.tag handle suffix) =>
    advance
    let tag ← tagOf handle suffix
    match ← peek with
    | some (.anchor name) =>
      advance
      return { anchor? := some name, tag? := some tag }
    | _ => return { tag? := some tag }
  | _ => return {}

/-- Reads a node at its anchor. -/
def anchored (p : Properties) (read : Reader Node) : Reader Node :=
  match p.anchor? with
  | none => read
  | some name => do
    let place := (← get).anchors.count
    modify fun r => { r with anchors := r.anchors.add name }
    let node ← read
    modify fun r => { r with anchors := r.anchors.setNode place node }
    return node

/-- An alias of the latest anchor of the name so far. -/
def reference (name : String) : Reader Node := do
  match (← get).anchors.numbers.get? name with
  | some number => return .reference number
  | none => failure

/-- The tag of a scalar that was written. -/
def Properties.scalarTag? (p : Properties) : Option Bytes := p.tag?.filter (· ≠ Tag.bare)

/-- Reads a node, unless one of the tokens follows, which leave it out. -/
def unlessAt (tokens : List Token) (read : Reader Node) : Reader Node := do
  if ← atAny tokens then return Node.absent else read

/-- The value of a pair, if it has one. -/
def valueUnlessAt (tokens : List Token) (read : Reader Node) : Reader Node := do
  match ← peek with
  | some .value =>
    advance
    unlessAt tokens read
  | _ => return Node.absent

/-- Goes over the comma between two entries; the first one has none in front. -/
def comma (first : Bool) : Reader Unit := do
  if first then return
  match ← peek with
  | some .flowEntry => advance
  | _ => failure

mutual

/-- A node. In a block it may be a block, and a sequence in a mapping need not
be indented. The first argument bounds the depth. -/
def read : Nat → (inBlock inMapping : Bool) → Reader Node
  | 0, _, _ => failure
  | fuel + 1, inBlock, inMapping => do
    match ← peek with
    | some (.reference name) =>
      advance
      reference name
    | _ =>
      let p ← properties
      anchored p do
        match ← peek with
        | some .blockEntry =>
          if inMapping then return .sequence (← plainEntries fuel)
          else if p.isNone then failure
          else return .scalar .plain p.tag? ""
        | some (.scalar style text) =>
          advance
          return .scalar style p.scalarTag? text
        | some .flowSequenceStart =>
          advance
          return .sequence (← flowEntries fuel true)
        | some .flowMappingStart =>
          advance
          return .mapping (← flowPairs fuel true)
        | some .blockSequenceStart =>
          if inBlock then
            advance
            return .sequence (← blockEntries fuel)
          else if p.isNone then failure
          else return .scalar .plain p.tag? ""
        | some .blockMappingStart =>
          if inBlock then
            advance
            return .mapping (← blockPairs fuel)
          else if p.isNone then failure
          else return .scalar .plain p.tag? ""
        | _ => if p.isNone then failure else return .scalar .plain p.tag? ""

/-- The entries of a sequence that has its own indentation. -/
def blockEntries : Nat → Reader (List Node)
  | 0 => failure
  | fuel + 1 => do
    match ← peek with
    | some .blockEntry =>
      advance
      let node ← unlessAt [.blockEntry, .blockEnd] (read fuel true false)
      return node :: (← blockEntries fuel)
    | some .blockEnd =>
      advance
      return []
    | _ => failure

/-- The entries of a sequence at the column of the mapping around it. -/
def plainEntries : Nat → Reader (List Node)
  | 0 => failure
  | fuel + 1 => do
    match ← peek with
    | some .blockEntry =>
      advance
      let node ← unlessAt [.blockEntry, .key, .value, .blockEnd] (read fuel true false)
      return node :: (← plainEntries fuel)
    | _ => return []

def blockPairs : Nat → Reader (List (Node × Node))
  | 0 => failure
  | fuel + 1 => do
    match ← peek with
    | some .key =>
      advance
      let key ← unlessAt [.key, .value, .blockEnd] (read fuel true true)
      let value ← valueUnlessAt [.key, .value, .blockEnd] (read fuel true true)
      return (key, value) :: (← blockPairs fuel)
    | some .blockEnd =>
      advance
      return []
    | _ => failure

/-- A key mark with no key behind it takes the next token with it. -/
def flowEntries : Nat → (first : Bool) → Reader (List Node)
  | 0, _ => failure
  | fuel + 1, first => do
    if (← peek) = some .flowSequenceEnd then
      advance
      return []
    comma first
    match ← peek with
    | some .flowSequenceEnd =>
      advance
      return []
    | some .key =>
      advance
      let key ←
        if ← atAny [.value, .flowEntry, .flowSequenceEnd] then
          advance
          pure Node.absent
        else read fuel false false
      let value ← valueUnlessAt [.flowEntry, .flowSequenceEnd] (read fuel false false)
      return .mapping [(key, value)] :: (← flowEntries fuel false)
    | _ =>
      let node ← read fuel false false
      return node :: (← flowEntries fuel false)

def flowPairs : Nat → (first : Bool) → Reader (List (Node × Node))
  | 0, _ => failure
  | fuel + 1, first => do
    if (← peek) = some .flowMappingEnd then
      advance
      return []
    comma first
    match ← peek with
    | some .flowMappingEnd =>
      advance
      return []
    | some .key =>
      advance
      let key ← unlessAt [.value, .flowEntry, .flowMappingEnd] (read fuel false false)
      let value ← valueUnlessAt [.flowEntry, .flowMappingEnd] (read fuel false false)
      return (key, value) :: (← flowPairs fuel false)
    | _ =>
      let key ← read fuel false false
      return (key, Node.absent) :: (← flowPairs fuel false)

end

/-! ## Documents -/

/-- The directives in front of a document, and the tokens behind them. -/
def directives : List Token → List Directive × List Token
  | .directive d :: rest =>
    let (ds, rest) := directives rest
    (d :: ds, rest)
  | tokens => ([], tokens)

/-- A version that can be read. -/
def isReadable (major minor : Nat) : Bool := major = 1 && (minor = 1 || minor = 2)

def defaultHandles : Table String Bytes :=
  Table.ofPairs [("!", Bytes.ofText "!"), ("!!", Bytes.ofText "tag:yaml.org,2002:")]

/-- The handles that the directives leave. There is at most one version, and
one directive for each handle. -/
def handles? (ds : List Directive) : Option (Table String Bytes) :=
  let versions : List Bool := ds.filterMap fun
    | .version major minor => some (isReadable major minor)
    | .tag .. => none
  let tags : List (String × Bytes) := ds.filterMap fun
    | .version .. => none
    | .tag handle stem => some (handle, stem)
  let names : List String := tags.map (·.1)
  if versions.length ≤ 1 && versions.all id && decide names.Nodup then
    some (tags.foldl (fun table (handle, stem) => table.insert handle stem) defaultHandles)
  else none

/-- Where a document has no content. -/
def endsHere : List Token → Bool
  | [] | .directive _ :: _ | .documentStart :: _ | .documentEnd :: _ => true
  | _ => false

/-- The document at the start of the tokens. Nothing but end marks follows it. -/
def content? (handles : Table String Bytes) (explicit : Bool) (tokens : List Token) :
    Option Document := do
  let (root, left) ←
    if explicit && endsHere tokens then some (Node.absent, { tokens, handles })
    else (read (3 * tokens.length + 3) true false).run { tokens, handles }
  if left.tokens.all (· = .documentEnd) then some (.node root left.anchors) else none

/-- The document of a text, which is malformed if it has none. -/
def ofTokens? (tokens : List Token) : Option Document :=
  if tokens = [] then some .nothing
  else match directives tokens with
    | (ds, .documentStart :: rest) => do content? (← handles? ds) true rest
    | ([], tokens) => content? defaultHandles false tokens
    | _ => none

end Document
end ArtifactCache.Yaml
