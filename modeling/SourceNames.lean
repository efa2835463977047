import SourceNames.Main
import SourceNames.Proofs.Memory
import SourceNames.Proofs.ProjectFiles
import SourceNames.Proofs.ReadBack
import SourceNames.Proofs.RecentUse
import SourceNames.Proofs.Sightings
import SourceNames.Proofs.Tunnelling
import SourceNames.Proofs.Stopping
import SourceNames.Proofs.ImportFailures
import SourceNames.Proofs.CasingAdvice
import SourceNames.Proofs.OneDisk
import SourceNames.Proofs.ImportRows
import SourceNames.Proofs.RelativeSpellings
import SourceNames.Proofs.Collaborators
import SourceNames.Proofs.Endings
import SourceNames.Proofs.Refusals
import SourceNames.Proofs.Collisions
import SourceNames.Proofs.MissedNames
import SourceNames.Proofs.JoinedNames
import SourceNames.Proofs.UncheckedNames
import SourceNames.Proofs.VersionedNames
import SourceNames.Proofs.ImportsTogether
import SourceNames.Proofs.InstantTexts
import SourceNames.Proofs.Exports
import SourceNames.Proofs.Climbing
import SourceNames.Proofs.RejectedImports
