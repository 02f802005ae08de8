import SpaceWorks.Bookings.Calendar
import SpaceWorks.Events.Schedule
import SpaceWorks.Events.Calendar
import SpaceWorks.Payments.Receipts
import SpaceWorks.Payments.Rotation
import SpaceWorks.Payments.SessionExpiry
import SpaceWorks.Events.Charges
import SpaceWorks.Events.Sync
import SpaceWorks.Payments.Amounts
import SpaceWorks.Boxes.Containers
import SpaceWorks.Lending.Submission
import SpaceWorks.Machines.NotificationRecipients
import SpaceWorks.Machines.Pricing
import SpaceWorks.Machines.QueuePosition
import SpaceWorks.Machines.UsageTotals
import SpaceWorks.Forms.Answers
import SpaceWorks.Inventory.CodeSearch
import SpaceWorks.Inventory.ItemCodes
import SpaceWorks.Inventory.PartialImport
import SpaceWorks.Accounts.Presence
import SpaceWorks.Accounts.Roles
import SpaceWorks.Accounts.ClaimCodes
import SpaceWorks.Accounts.DeviceTokens
import SpaceWorks.ApiClients.Signatures
import SpaceWorks.Encryption.WriteFence
import SpaceWorks.Encryption.RoundTrip
import SpaceWorks.Encryption.Search
import SpaceWorks.Encryption.Envelopes
import SpaceWorks.Migration.Fencing
import SpaceWorks.Migration.Retry
import SpaceWorks.Migration.RowLoad
import SpaceWorks.Audit.Tampering
import SpaceWorks.Audit.Merkle
import SpaceWorks.Audit.RowMac
import SpaceWorks.Storage.Accounting
import SpaceWorks.Storage.Finalization
import SpaceWorks.Backup.ArtifactLedger
import SpaceWorks.Backup.Lossless
import SpaceWorks.Backup.Reservations
import SpaceWorks.Backup.MergeRuns
import SpaceWorks.Backup.ObjectPromotion
import SpaceWorks.Backup.MainProjection
import SpaceWorks.Lending.Stocktake
import SpaceWorks.Lending.Transfers
import SpaceWorks.Host.CutoverRuns
import SpaceWorks.Host.Restores
import SpaceWorks.Host.Capabilities
import SpaceWorks.Host.PointerText
import SpaceWorks.Storage.Publication
import SpaceWorks.Storage.EvidenceRollups
import SpaceWorks.Storage.DocumentCharges
import SpaceWorks.Backup.Custody
import SpaceWorks.Backup.RunLifecycle
import SpaceWorks.Backup.Recipients
import SpaceWorks.Procurement.ToBuy
