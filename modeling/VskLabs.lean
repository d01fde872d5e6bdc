import VskLabs.Run.Reconciliation
import VskLabs.Run.Settlement
import VskLabs.Run.Consistency
import VskLabs.Schedule.Overlap
import VskLabs.Schedule.Retries
import VskLabs.Audit.TamperEvidence
import VskLabs.Audit.Agreement
import VskLabs.Audit.Stores
import VskLabs.Acknowledgement.Expiry
import VskLabs.Authorization.Grants
import VskLabs.Planning.StoredRisk
import VskLabs.Credential.Superseded
import VskLabs.Backup.Completeness
import VskLabs.Backup.Adapter
import VskLabs.Inventory.RecordListing
import VskLabs.Recovery.PendingPromotion
import VskLabs.Recovery.Promotion
import VskLabs.Recovery.AuditPosition
import VskLabs.Service.Capacity
import VskLabs.StateExport.Codec
import VskLabs.Ci.JobExecution
import VskLabs.Backup.OffsiteStaging
import VskLabs.Backup.RetirementSelection
