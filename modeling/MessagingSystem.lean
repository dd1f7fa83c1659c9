import MessagingSystem.Guarantees.AddressedDevices
import MessagingSystem.Guarantees.BackupRestore
import MessagingSystem.Guarantees.BootstrapRecovery
import MessagingSystem.Guarantees.BrokerAgreement
import MessagingSystem.Guarantees.CallConsent
import MessagingSystem.Guarantees.CiphertextHidden
import MessagingSystem.Guarantees.ConnectionBadge
import MessagingSystem.Guarantees.ConversationBumps
import MessagingSystem.Guarantees.ConversationPages
import MessagingSystem.Guarantees.DecryptRetries
import MessagingSystem.Guarantees.DeviceIdGrammar
import MessagingSystem.Guarantees.DeviceKeyCache
import MessagingSystem.Guarantees.DeviceKeyIsolation
import MessagingSystem.Guarantees.DirectDelivery
import MessagingSystem.Guarantees.DoorsAgree
import MessagingSystem.Guarantees.FailedRegistrations
import MessagingSystem.Guarantees.FailedSends
import MessagingSystem.Guarantees.GhostRing
import MessagingSystem.Guarantees.GroupTick
import MessagingSystem.Guarantees.GuestExpiry
import MessagingSystem.Guarantees.GuestSandbox
import MessagingSystem.Guarantees.HydrateMerge
import MessagingSystem.Guarantees.HydrationWindow
import MessagingSystem.Guarantees.ImportAtomicity
import MessagingSystem.Guarantees.InnerPlaintext
import MessagingSystem.Guarantees.KeyBatches
import MessagingSystem.Guarantees.KeySyncComplete
import MessagingSystem.Guarantees.KeySyncProgress
import MessagingSystem.Guarantees.KeyVersions
import MessagingSystem.Guarantees.KeyringAgreement
import MessagingSystem.Guarantees.MediaKeys
import MessagingSystem.Guarantees.MessagePages
import MessagingSystem.Guarantees.NotificationsOnce
import MessagingSystem.Guarantees.NotificationsReadBack
import MessagingSystem.Guarantees.OneDirectThread
import MessagingSystem.Guarantees.PassphraseWraps
import MessagingSystem.Guarantees.PresenceAuthenticity
import MessagingSystem.Guarantees.PresenceForward
import MessagingSystem.Guarantees.ReadAsTyped
import MessagingSystem.Guarantees.ReadCursor
import MessagingSystem.Guarantees.ReceiptTicks
import MessagingSystem.Guarantees.ReceiptTimes
import MessagingSystem.Guarantees.ReceiptViews
import MessagingSystem.Guarantees.RefreshOnce
import MessagingSystem.Guarantees.RefreshSingleFlight
import MessagingSystem.Guarantees.RequestsAccounted
import MessagingSystem.Guarantees.ResetRevokes
import MessagingSystem.Guarantees.RevokedDevices
import MessagingSystem.Guarantees.RotationHistory
import MessagingSystem.Guarantees.SearchResults
import MessagingSystem.Guarantees.SendOrder
import MessagingSystem.Guarantees.SendRateLimit
import MessagingSystem.Guarantees.SenderPlaintextAttribution
import MessagingSystem.Guarantees.SessionOrigins
import MessagingSystem.Guarantees.SettingsInForce
import MessagingSystem.Guarantees.SignalDelivery
import MessagingSystem.Guarantees.StoreAuthorization
import MessagingSystem.Guarantees.StoredContent
import MessagingSystem.Guarantees.SyncRequests
import MessagingSystem.Guarantees.ThreadActivity
import MessagingSystem.Guarantees.ThreadStructure
import MessagingSystem.Guarantees.TokenPurposes
