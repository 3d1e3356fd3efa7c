import ArtifactCache.Text.Digits
import ArtifactCache.Yaml.Document

/-!
What a node can be taken for. A scalar that is not quoted may be a flag, a
number, a text or nothing, whichever is asked for; where a list or fields are
asked for, nothing is an empty one. Aliases are followed, but not without end.
-/
namespace ArtifactCache.Yaml

/-- What aliases lead to, and how many of them may be followed. -/
structure Guide where
  anchors : Anchors
  limit : Nat

/-- Takes a node for something, or fails. The state counts the aliases that
were followed. -/
abbrev Taking (α : Type) := ReaderT Guide (StateT Nat Option) α

/-- A document is gone through a hundred times at most. -/
def Guide.ofDocument (root : Node) (anchors : Anchors) : Guide :=
  { anchors, limit := 100 * root.size }

/-- What a document is taken for. -/
def Document.take? {α : Type} (nothing : α) (taking : Node → Taking α) : Document → Option α
  | .nothing => some nothing
  | .node root anchors => ((taking root).run (.ofDocument root anchors)).run' 0

namespace Node

/-- The node itself, or the one that it is an alias of. -/
def followed : Node → Taking Node
  | .reference number => do
    modify (· + 1)
    let guide ← read
    if guide.limit < (← get) then failure
    match guide.anchors.node? number with
    | some node => return node
    | none => failure
  | node => return node

def coreTag (name : String) : Bytes := Bytes.ofText ("tag:yaml.org,2002:" ++ name)

def text (node : Node) : Taking String := do
  match ← node.followed with
  | .scalar _ _ text => return text
  | _ => failure

/-- The text of a scalar that may be read as a value of the core type. -/
def bareText (type : String) (node : Node) : Taking String := do
  match ← node.followed with
  | .scalar .plain _ text => return text
  | .scalar .literal tag? text => if tag? = some (coreTag type) then return text else failure
  | _ => failure

def flag (node : Node) : Taking Bool := do
  match ← node.bareText "bool" with
  | "true" | "True" | "TRUE" => return true
  | "false" | "False" | "FALSE" => return false
  | _ => failure

/-- A number in the digits of a radix, of which there is at least one. -/
def digits? (radix : Nat) (cs : List Char) : Option Nat :=
  if cs = [] then none else Text.digitsIn radix cs

/-- A number in decimal, or with `0x`, `0o` or `0b` in front in another radix.
A decimal number of several digits does not begin with a zero. -/
def magnitude? : List Char → Option Nat
  | '0' :: 'x' :: cs => digits? 16 cs
  | '0' :: 'o' :: cs => digits? 8 cs
  | '0' :: 'b' :: cs => digits? 2 cs
  | '0' :: _ :: _ => none
  | cs => digits? 10 cs

def signed? : List Char → Option Int
  | '-' :: cs => (magnitude? cs).map fun n => -(n : Int)
  | '+' :: cs => (magnitude? cs).map fun n => (n : Int)
  | cs => (magnitude? cs).map fun n => (n : Int)

/-- An integer of 32 bits. -/
def integer (node : Node) : Taking Int := do
  match signed? (← node.bareText "int").toList with
  | some n => if -2147483648 ≤ n && n ≤ 2147483647 then return n else failure
  | none => failure

def isNullText (text : String) : Bool := ["null", "Null", "NULL", "~"].contains text

/-- Nothing, or what `take` makes of the node. -/
def optional {α : Type} (take : Node → Taking α) (node : Node) : Taking (Option α) := do
  let node ← node.followed
  match node with
  | .scalar .plain none text =>
    if text = "" || isNullText text then return none else return some (← take node)
  | .scalar .plain (some tag) text =>
    if tag = coreTag "null" then if isNullText text then return none else failure
    else return some (← take node)
  | _ => return some (← take node)

def items (node : Node) : Taking (List Node) := do
  match ← node.followed with
  | .sequence items => return items
  | .scalar .plain _ "" => return []
  | _ => failure

def list {α : Type} (take : Node → Taking α) (node : Node) : Taking (List α) := do
  (← node.items).mapM take

def pairs (node : Node) : Taking (List (Node × Node)) := do
  match ← node.followed with
  | .mapping entries => return entries
  | .scalar .plain _ "" => return []
  | _ => failure

/-- The fields of a record, none of them twice. Other keys are refused, or
passed over with what they hold if the record is `loose`. -/
def fields (names : List String) (loose : Bool) (node : Node) : Taking (Table String Node) := do
  (← node.pairs).foldlM (fun fields (key, value) => do
    let name ← key.text
    if names.contains name then
      if fields.contains name then failure else return fields.insert name value
    else if loose then return fields
    else failure) ∅

/-- A field that has to be there. -/
def field {α : Type} (fields : Table String Node) (name : String) (take : Node → Taking α) :
    Taking α :=
  match fields.get? name with
  | none => failure
  | some node => take node

/-- A field, or the given value where it is missing. -/
def fieldOr {α : Type} (fields : Table String Node) (name : String) (missing : α)
    (take : Node → Taking α) : Taking α :=
  match fields.get? name with
  | none => return missing
  | some node => take node

end Node
end ArtifactCache.Yaml
