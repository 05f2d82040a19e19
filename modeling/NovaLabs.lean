import NovaLabs.Lib.Store
import NovaLabs.Lib.Run
import NovaLabs.Lib.Process
import NovaLabs.Lib.Transactions
import NovaLabs.Lib.Storage
import NovaLabs.Lib.SortedMap
import NovaLabs.Soroban.Host
import NovaLabs.Soroban.Reentrancy
import NovaLabs.Soroban.Footprint
import NovaLabs.PaymentEscrow.Custody
import NovaLabs.PaymentEscrow.Reentrancy
import NovaLabs.WorkspaceBooking.Capacity
import NovaLabs.WorkspaceBooking.Custody
import NovaLabs.WorkspaceBooking.Reentrancy
import NovaLabs.AccessControl.Quorum
import NovaLabs.AccessControl.Direct
import NovaLabs.AccessControl.Execution
import NovaLabs.AccessControl.Rejection
import NovaLabs.AccessControl.Authentication
import NovaLabs.AccessControl.Governance
import NovaLabs.AccessControl.SingleAdmin
import NovaLabs.AccessControl.AdminRoles
import NovaLabs.AccessControl.Bookkeeping
import NovaLabs.AccessControl.Modes
import NovaLabs.AccessControl.RoleGuards
import NovaLabs.AccessControl.Emergency
import NovaLabs.ResourceCredits.Conservation
import NovaLabs.ManageHub.Tokens
import NovaLabs.ManageHub.Metadata
import NovaLabs.ManageHub.Subscriptions
import NovaLabs.ManageHub.Renewal
import NovaLabs.ManageHub.Fractions
import NovaLabs.ManageHub.Staking
import NovaLabs.ManageHub.Upgrade
import NovaLabs.ManageHub.Interface
import NovaLabs.ManageHub.TimeLock
import NovaLabs.ManageHub.Solvency
import NovaLabs.ManageHub.Authority
import NovaLabs.ManageHub.MetadataCalls
import NovaLabs.ManageHub.TokenCalls
import NovaLabs.ManageHub.Halt
import NovaLabs.ManageHub.FractionCalls
import NovaLabs.ManageHub.Ownership
import NovaLabs.ManageHub.Rewards
import NovaLabs.ManageHub.MetadataIndex
import NovaLabs.ManageHub.SubscriptionCalls
import NovaLabs.ManageHub.TierChangeCalls
import NovaLabs.ManageHub.TierRequests
import NovaLabs.ManageHub.TierChanges
import NovaLabs.ManageHub.Subscribers
import NovaLabs.ManageHub.Attendance
import NovaLabs.ManageHub.UpgradeCalls
import NovaLabs.ManageHub.TokenChanges
import NovaLabs.ManageHub.AuditTrail
import NovaLabs.ManageHub.GracePeriods
import NovaLabs.ManageHub.Delegation
import NovaLabs.ManageHub.PauseLedger
import NovaLabs.Backend.Entities
import NovaLabs.Backend.Queries
import NovaLabs.Backend.Bookings
import NovaLabs.Backend.Payments
import NovaLabs.Backend.Effects
import NovaLabs.Backend.SeatProtocol
import NovaLabs.Backend.SeatCapacity
import NovaLabs.Backend.PaymentProtocol
import NovaLabs.Backend.PaymentStates
import NovaLabs.Backend.OpenPayments
import NovaLabs.Backend.References
import NovaLabs.Backend.DeliveryProtocol
import NovaLabs.Backend.WebhookEffects
import NovaLabs.Backend.BookingStates
import NovaLabs.Auth.Entities
import NovaLabs.Auth.Queries
import NovaLabs.Auth.Operations
import NovaLabs.Auth.Effects
import NovaLabs.Auth.RefreshProtocol
import NovaLabs.Auth.Rotation
import NovaLabs.Auth.Revocation
import NovaLabs.Auth.Calls
import NovaLabs.Auth.RefreshCalls
import NovaLabs.Auth.LoginSessions
import NovaLabs.Auth.SecondFactor
import NovaLabs.Auth.ResetCodes
import NovaLabs.Auth.Enrolment
import NovaLabs.Auth.BackupCodes
import NovaLabs.WorkspaceBooking.Availability
import NovaLabs.ManageHub.StakeRewards
import NovaLabs.PaymentEscrow.DisputeWindow
import NovaLabs.ManageHub.Dividends
import NovaLabs.Lib.Pairing
import NovaLabs.ManageHub.Sessions
import NovaLabs.Users.Entities
import NovaLabs.Users.Queries
import NovaLabs.Users.Operations
import NovaLabs.Users.LastAdmin
import NovaLabs.Users.AdminRequests
import NovaLabs.Users.Anonymise
import NovaLabs.Backend.Refunds
import NovaLabs.Backend.SweepConsistency
import NovaLabs.ManageHub.Promotions
import NovaLabs.ManageHub.Proration
import NovaLabs.ManageHub.Expiry
import NovaLabs.ManageHub.PauseTime
import NovaLabs.ManageHub.TokenRevocation
import NovaLabs.ManageHub.MetadataLog
import NovaLabs.ManageHub.Batches
import NovaLabs.ManageHub.Royalties
import NovaLabs.Backend.EscrowInvocations
import NovaLabs.Backend.CapturedPayments
import NovaLabs.Backend.DailyPrices
import NovaLabs.Common.SanitizeString
import NovaLabs.Audit.CreateAuditLog
import NovaLabs.Audit.Redaction
import NovaLabs.Lib.Keyset
import NovaLabs.Auth.HashMigration
import NovaLabs.Lib.Base64
import NovaLabs.Lib.Embedding
import NovaLabs.Passkey.RoundTrip
import NovaLabs.Passkey.Calls
import NovaLabs.Passkey.Challenges
import NovaLabs.Lib.Searches
import NovaLabs.Tracking.Operations
import NovaLabs.Tracking.Occupancy
import NovaLabs.Tracking.OpenLogs
import NovaLabs.PaymentMail.Operations
import NovaLabs.PaymentMail.Recipients
import NovaLabs.WorkspaceBooking.Indexes
import NovaLabs.Lib.JsInstance
import NovaLabs.Profile.Operations
import NovaLabs.Profile.Secrets
import NovaLabs.Newsletter.Operations
import NovaLabs.Newsletter.Calls
import NovaLabs.Newsletter.OptIn
import NovaLabs.Lib.Tally
import NovaLabs.Soroban.Stateless
import NovaLabs.ManageHub.AttendanceReports
import NovaLabs.PaymentEscrow.Settlement
import NovaLabs.PaymentEscrow.Indexes
import NovaLabs.Memberships.Contract
import NovaLabs.Memberships.Titles
import NovaLabs.ResourceCredits.Accounts
import NovaLabs.Lib.Apart
import NovaLabs.PaymentMail.Invoices
import NovaLabs.PaymentMail.Register
import NovaLabs.Auth.Bearers
import NovaLabs.Auth.Authority
import NovaLabs.Hubs.DefaultHub
import NovaLabs.WorkspaceBooking.Registry
import NovaLabs.ManageHub.Titles
import NovaLabs.Backend.BillProtocol
import NovaLabs.Backend.Charges
import NovaLabs.ManageHub.TierAccounts
import NovaLabs.Lib.Listing
import NovaLabs.ManageHub.Catalogue
import NovaLabs.Lib.Isolation
import NovaLabs.Lib.Selections
import NovaLabs.MemberViews.Operations
import NovaLabs.MemberViews.Isolation
import NovaLabs.ManageHub.VotingPower
