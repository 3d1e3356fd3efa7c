import ArtifactCache.Text.Pieces
import ArtifactCache.Uri.Domain.Label
import ArtifactCache.Uri.Percent

/-!
Domain names. Every spelling of a name is mapped to one, and the labels of
that one have to be such as a name may have.
-/
namespace ArtifactCache.Uri.Domain

/-- The one spelling of a name. -/
def mapText? (text : List Char) : Option (List Char) :=
  (text.mapM mapChar).map fun pieces => Text.Composition.compose pieces.flatten

/-- Whether the labels may stand in one domain name. -/
def areLabels (labels : List (List Char)) : Bool :=
  labels.all isLabel && (!labels.any turns || labels.all runsOneWay)

/-- The domain that percent-encoded text names, if it names one. -/
def ofText? (text : List Char) : Option (List Char) := do
  let decoded ← Bytes.toText? (percentDecode text)
  let mapped ← mapText? decoded.toList
  let labels ← (Text.split '.' mapped).mapM readLabel?
  if !mapped.any isDenied && areLabels labels then some mapped else none

end ArtifactCache.Uri.Domain
