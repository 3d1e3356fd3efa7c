import ArtifactCache.Config
import ArtifactCache.Yaml.Shape
import ArtifactCache.Yaml.Tokens

/-!
The written form of a configuration: a YAML document whose fields may all be
missing. Unknown fields are refused, except those of a location.
-/
namespace ArtifactCache.Config
open Yaml (Document Taking)
open Yaml.Node (field fieldOr flag integer list optional text)

def takeLocation (node : Yaml.Node) : Taking Location := do
  let fields ← node.fields
    ["name", "uri", "priority", "allows_stores", "allows_downloading"] true
  return {
    name := ← field fields "name" text
    uri := ← field fields "uri" text
    priority := ← fieldOr fields "priority" 0 integer
    acceptsStores := ← fieldOr fields "allows_stores" false flag
    downloads := ← fieldOr fields "allows_downloading" true flag }

def takeGroup (node : Yaml.Node) : Taking Group := do
  let fields ← node.fields ["name", "members"] false
  return {
    name := ← field fields "name" text
    members := ← fieldOr fields "members" [] (list text) }

def takeConfig (node : Yaml.Node) : Taking Config := do
  let fields ← node.fields ["cache_root", "alias_linking", "locations", "groups"] false
  return {
    cacheRoot? := ← fieldOr fields "cache_root" none (optional text)
    linking := ← fieldOr fields "alias_linking" false flag
    locations := ← fieldOr fields "locations" [] (list takeLocation)
    groups := ← fieldOr fields "groups" [] (list takeGroup) }

/-- The configuration that a text holds, before it is validated. -/
def ofText? (text : String) : Option Config := do
  if Text.isBlankText text then return {}
  (← Document.ofTokens? (← Yaml.tokens? text)).take? {} takeConfig

/-- Reads and validates a configuration. -/
def parse (text : String) (yaml : String → Option Config := ofText?) (uris : UriReader := {}) :
    Except Failure Config :=
  match yaml text with
  | none => .error .yaml
  | some config => do
    config.validate uris
    return config

end ArtifactCache.Config
