import Principal.Catalogue
import Principal.Proofs.AllOrNothing
import Principal.Proofs.Metadata
import Principal.Proofs.PublishedContext
import Principal.Proofs.Verdict
import Principal.Wiring
import Principal.Proofs.Reporting
import Principal.Proofs.Repetition
import Principal.Proofs.Diagnosis
import Principal.Proofs.Service
import Principal.Proofs.Wiring
import Principal.Proofs.Frame
import Principal.Proofs.Retelling
import Principal.Proofs.Masking
import Principal.Proofs.Registration
import Principal.Proofs.TenantMatching
import Principal.Proofs.Isolation
import Principal.Proofs.Decoration
import Principal.Proofs.LookUps
import Principal.Proofs.Recovery
import Principal.Proofs.Surrogate
import Principal.Proofs.PendingWrites
import Principal.Proofs.UserIdEntries
import Principal.Proofs.LastRegistered
import Principal.Proofs.SafeSettings
import Principal.Proofs.Amending
