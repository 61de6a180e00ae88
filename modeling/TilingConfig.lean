import TilingConfig.Files.Change
import TilingConfig.Main
import TilingConfig.Proofs.Binding.Diagnosis
import TilingConfig.Proofs.Binding.KeyName
import TilingConfig.Proofs.Binding.Language
import TilingConfig.Proofs.Document.Agreement
import TilingConfig.Proofs.Document.Expansion
import TilingConfig.Proofs.Document.Position
import TilingConfig.Proofs.Document.Sources
import TilingConfig.Proofs.Snapshot.Concatenation
import TilingConfig.Proofs.Snapshot.Control
import TilingConfig.Proofs.Snapshot.FirstFault
import TilingConfig.Proofs.Snapshot.MasterFactor
import TilingConfig.Proofs.Snapshot.Precedence
import TilingConfig.Proofs.Snapshot.Recognized
import TilingConfig.Proofs.Snapshot.Truthful
import TilingConfig.Proofs.Snapshot.WellFormed
import TilingConfig.Proofs.Watch.Filter
import TilingConfig.Proofs.Watch.Silence
import TilingConfig.Proofs.Yaml.Bare
