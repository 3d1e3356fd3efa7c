import ArtifactCache.Main
import ArtifactCache.Memory
import ArtifactCache.Document.Reader
import ArtifactCache.Proofs.Soundness
import ArtifactCache.Proofs.Exclusion
import ArtifactCache.Proofs.Absence
import ArtifactCache.Proofs.Failing
import ArtifactCache.Proofs.Serial
import ArtifactCache.Proofs.Balance
import ArtifactCache.Proofs.Aliases
import ArtifactCache.Proofs.Copies
import ArtifactCache.Proofs.Agreement
import ArtifactCache.Proofs.Isolation
import ArtifactCache.Proofs.Expansion
import ArtifactCache.Proofs.Configured
import ArtifactCache.Proofs.Targets
import ArtifactCache.Proofs.Outcomes
import ArtifactCache.Proofs.FileFilling
import ArtifactCache.Proofs.Hits
import ArtifactCache.Proofs.Leftovers
import ArtifactCache.Proofs.Roundtrip
import ArtifactCache.Proofs.Events
import ArtifactCache.Proofs.Invisible
import ArtifactCache.Proofs.Refusals
import ArtifactCache.Proofs.Confinement
import ArtifactCache.Proofs.Rereading
import ArtifactCache.Proofs.Decoding
import ArtifactCache.Proofs.Addressing
import ArtifactCache.Proofs.Spelling
import ArtifactCache.Proofs.Ancestry
import ArtifactCache.Proofs.Overwriting
import ArtifactCache.Proofs.Listing
import ArtifactCache.Proofs.SearchOrder
import ArtifactCache.Proofs.Deletion
import ArtifactCache.Proofs.Closing
import ArtifactCache.Proofs.Walking
import ArtifactCache.Proofs.Publishing
import ArtifactCache.Proofs.Aliasing
