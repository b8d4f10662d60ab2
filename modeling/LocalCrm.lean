import LocalCrm.Contacts.Repository
import LocalCrm.Contacts.Requests
import LocalCrm.Contacts.Resubscription
import LocalCrm.Contacts.Withdrawal
import LocalCrm.System.Counters
import LocalCrm.System.FanOut
import LocalCrm.System.LedgerMatrix
import LocalCrm.System.SendingComplete
import LocalCrm.System.Stuck
import LocalCrm.Webhooks.Books
import LocalCrm.Webhooks.Isolation
import LocalCrm.Webhooks.RollupAgreement
import LocalCrm.Contacts.SuppressedAddresses
import LocalCrm.Purge.Announcement
import LocalCrm.Purge.Completeness
import LocalCrm.Erasure.Completeness
import LocalCrm.Erasure.Frame
import LocalCrm.Flows.Advance
import LocalCrm.Flows.EnrollExisting
import LocalCrm.Flows.Progress
import LocalCrm.Flows.SegmentSweep
import LocalCrm.Flows.Sends
import LocalCrm.System.FrequencyCap
import LocalCrm.System.Snapshot
import LocalCrm.Campaigns.OptimisticLock
import LocalCrm.Erasure.Resumption
import LocalCrm.Events.ExactlyOnce
import LocalCrm.Flows.Attempts
import LocalCrm.Flows.SegmentEntries
import LocalCrm.Library.Calendar
import LocalCrm.Partitions.Relocation
import LocalCrm.Triggers.ErasedContact
import LocalCrm.Triggers.LiveFlow
import LocalCrm.Triggers.OncePerEvent
import LocalCrm.Triggers.SeedOnly
import LocalCrm.Webhooks.Journal
import LocalCrm.Webhooks.JournalSafety
import LocalCrm.Dsr.Completeness
import LocalCrm.Erasure.Finality
import LocalCrm.Flows.Deletion
import LocalCrm.Flows.EjectedSends
import LocalCrm.Library.DecimalText
import LocalCrm.Library.ForeignKey
import LocalCrm.Partitions.Catalog
import LocalCrm.Partitions.Coverage
import LocalCrm.Segments.DeletionGuard
import LocalCrm.System.StopSignals
import LocalCrm.Delivery.KeyRedaction
import LocalCrm.Delivery.QuietHours
import LocalCrm.Delivery.ReconcilerTick
import LocalCrm.Flows.WaitUntil
import LocalCrm.Imports.DryRun
import LocalCrm.Imports.Fidelity
import LocalCrm.Imports.Finality
import LocalCrm.Library.Statements
import LocalCrm.Tenancy.Escalation
import LocalCrm.Webhooks.BatchMates
import LocalCrm.Webhooks.ReplaySweep
import LocalCrm.Contacts.IdentityAgreement
import LocalCrm.Contacts.UnsubscribeConvergence
import LocalCrm.Delivery.TenantLaneSemaphore
import LocalCrm.Delivery.TokenRotation
import LocalCrm.Imports.ErrorReport
import LocalCrm.Library.Cooldown
import LocalCrm.Library.OffsetPages
import LocalCrm.Library.Pattern
import LocalCrm.Lists.Pages
import LocalCrm.Ops.AlertDedup
import LocalCrm.Redaction.Completeness
import LocalCrm.Redaction.Preservation
import LocalCrm.Webhooks.EventOrder
import LocalCrm.Webhooks.OrderIndependence
import LocalCrm.Webhooks.Provisioning
import LocalCrm.Webhooks.ProvisioningApart
import LocalCrm.Library.Session
import LocalCrm.Segments.Compile
import LocalCrm.Tenancy.Scopes
