import ExpresSync.Foundation.JsNumber
import ExpresSync.Foundation.NumberText
import ExpresSync.Foundation.Transition
import ExpresSync.Foundation.KeyedLog
import ExpresSync.Foundation.LastWriter
import ExpresSync.Foundation.Cron
import ExpresSync.Foundation.Chunks
import ExpresSync.Foundation.SerialTable
import ExpresSync.Foundation.StepFunction
import ExpresSync.Foundation.DepthFirst
import ExpresSync.Foundation.Forest
import ExpresSync.Foundation.Sql
import ExpresSync.Foundation.ReadCommitted
import ExpresSync.Model.Types
import ExpresSync.Model.MappingResolver
import ExpresSync.Model.TagTree
import ExpresSync.Model.SyncDb
import ExpresSync.Model.TransactionProcessor
import ExpresSync.Model.SyncRun
import ExpresSync.Model.IncrementalBilling
import ExpresSync.Model.World
import ExpresSync.Model.WorldSteps
import ExpresSync.Model.SyncScheduler
import ExpresSync.Model.InFlightEvaluations
import ExpresSync.Model.TagSync
import ExpresSync.Model.CustomerMetaTags
import ExpresSync.Model.LagoWebhooks
import ExpresSync.Model.WebhookDispatch
import ExpresSync.Model.Reservations
import ExpresSync.Model.ScanPairing
import ExpresSync.Properties.SyncSteps
import ExpresSync.Properties.BillingContext
import ExpresSync.Properties.ObjectTally
import ExpresSync.Properties.BilledEnergy
import ExpresSync.Properties.InFlightSamples
import ExpresSync.Properties.ForwardOnly
import ExpresSync.Properties.LosslessBilling
import ExpresSync.Properties.OverBilling
import ExpresSync.Properties.SyncWedge
import ExpresSync.Properties.LookupFailures
import ExpresSync.Properties.LookbackWindow
import ExpresSync.Properties.NonUsagePlans
import ExpresSync.Properties.SameParty
import ExpresSync.Properties.LiveSubscriptions
import ExpresSync.Properties.BatchBookkeeping
import ExpresSync.Properties.TagAuthorization
import ExpresSync.Properties.DoubleBooking
import ExpresSync.Properties.TierHysteresis
import ExpresSync.Properties.AdminFinalSay
import ExpresSync.Properties.BreakerRuns
import ExpresSync.Properties.OwnPairings
import ExpresSync.Properties.CardTaps
import ExpresSync.Model.ArmRequests
import ExpresSync.Properties.SingleFlight
import ExpresSync.Model.ScanLogin
import ExpresSync.Properties.ScanSteps
import ExpresSync.Properties.SpentPairings
import ExpresSync.Properties.TappedOwner
import ExpresSync.Properties.SignedTexts
import ExpresSync.Model.Idempotency
import ExpresSync.Properties.OncePerKey
import ExpresSync.Model.DeviceSettings
import ExpresSync.Properties.SettingsMerge
import ExpresSync.Properties.InProcessReplay
import ExpresSync.Properties.DeliveryOrder
import ExpresSync.Properties.StreamLimits
import ExpresSync.Properties.ScanStatusAgreement
import ExpresSync.Properties.TruthfulSettings
import ExpresSync.Properties.JsonEquality
import ExpresSync.Properties.ResolvedFlags
import ExpresSync.Properties.StopGuards
import ExpresSync.Model.LinkPosts
import ExpresSync.Properties.CoveredDescendants
import ExpresSync.Properties.LinkedForest
import ExpresSync.Properties.SettingsConvergence
import ExpresSync.Properties.ReplayedBatch
import ExpresSync.Model.DeviceLogs
import ExpresSync.Properties.LogAcks
import ExpresSync.Model.EventBus
import ExpresSync.Model.SseStreams
import ExpresSync.Properties.SseResumption
import ExpresSync.Model.ScanStream
import ExpresSync.Properties.StreamReplacement
import ExpresSync.Model.DockerLogSubscriber
import ExpresSync.Properties.LogLines
import ExpresSync.Model.CustomerAccounts
import ExpresSync.Properties.AccountLinks
import ExpresSync.Model.ProvisioningRace
import ExpresSync.Properties.ProvisioningFates
import ExpresSync.Properties.ProvisioningSteps
import ExpresSync.Properties.ProvisioningConvergence
import ExpresSync.Model.LagoCache
import ExpresSync.Properties.LagoCacheSteps
import ExpresSync.Properties.OrphanRows
import ExpresSync.Properties.CacheVersions
import ExpresSync.Model.TagLinks
import ExpresSync.Properties.LinkCascade
import ExpresSync.Model.SyncGuard
import ExpresSync.Properties.SyncOverlap
import ExpresSync.Model.CustomerCards
import ExpresSync.Properties.CardOwnership
import ExpresSync.Model.LagoSignatures
import ExpresSync.Properties.WebhookBodies
import ExpresSync.Model.IdempotentRoutes
import ExpresSync.Properties.ReplaySenders
import ExpresSync.Model.DeviceRegistration
import ExpresSync.Properties.DeviceApproval
import ExpresSync.Model.RouteClassifier
import ExpresSync.Model.RootMiddleware
import ExpresSync.Properties.RouteGates
import ExpresSync.Properties.AdminIsolation
import ExpresSync.Model.CustomerNotifications
import ExpresSync.Properties.CustomerFeed
import ExpresSync.Model.RegistrationClaims
import ExpresSync.Properties.CodeClaims
import ExpresSync.Model.DeviceRevocation
import ExpresSync.Properties.RevokedStreams
import ExpresSync.Properties.OneLagoCustomer
import ExpresSync.Properties.SlowClientRecovery
import ExpresSync.Model.LinkRemoval
import ExpresSync.Properties.FreedChargers
import ExpresSync.Model.SteveTags
import ExpresSync.Model.DeviceTags
import ExpresSync.Properties.DeviceTagWrites
import ExpresSync.Properties.DeviceTagBilling
import ExpresSync.Properties.DeviceActivity
import ExpresSync.Model.InlinePushes
import ExpresSync.Properties.HierarchyWrites
import ExpresSync.Properties.ParentTagPlaces
import ExpresSync.Properties.LinkedPlaces
import ExpresSync.Properties.LinkPushes
import ExpresSync.Properties.TagHierarchies
import ExpresSync.Properties.TagTrees
import ExpresSync.Properties.SettledTags
import ExpresSync.Properties.ReservationReadings
import ExpresSync.Properties.UsableSuggestions
import ExpresSync.Model.ChargingProfiles
import ExpresSync.Properties.WeeklyLimits
import ExpresSync.Properties.MappingInheritance
import ExpresSync.Properties.MeaningfulEvents
import ExpresSync.Properties.MeterDips
import ExpresSync.Properties.AcceptedLedger
import ExpresSync.Properties.FlushIds
import ExpresSync.Model.RemoteStops
import ExpresSync.Properties.InterceptedStops
import ExpresSync.Properties.BookedHolds
import ExpresSync.Model.CustomerStops
import ExpresSync.Properties.SessionStops
import ExpresSync.Model.AutoStop
import ExpresSync.Properties.TerminatedSessions
import ExpresSync.Model.SessionNotices
import ExpresSync.Properties.AnnouncedSessions
import ExpresSync.Model.InvoiceFees
import ExpresSync.Properties.MirroredFees
import ExpresSync.Model.MeterValues
import ExpresSync.Properties.EnergyRegister
import ExpresSync.Properties.UnansweredLookups
import ExpresSync.Model.HttpRetries
import ExpresSync.Properties.RetriedRequests
import ExpresSync.Foundation.RateLadder
import ExpresSync.Model.CustomerTariffs
import ExpresSync.Properties.TierPricing
import ExpresSync.Properties.DerivedPrices
import ExpresSync.Properties.OpenRedirects
import ExpresSync.Model.LogScrubber
import ExpresSync.Properties.ScrubbedLogs
import ExpresSync.Model.SseConnections
import ExpresSync.Properties.ReleasedConnections
import ExpresSync.Model.ChargerCache
import ExpresSync.Properties.ChargerNames
import ExpresSync.Model.ProfileEdits
import ExpresSync.Properties.ProfileMirrors
import ExpresSync.Model.UnifiedScan
import ExpresSync.Properties.ScanSessions
import ExpresSync.Model.DockerLogStream
import ExpresSync.Properties.LogFrames
import ExpresSync.Model.InvoiceExport
import ExpresSync.Properties.ExportedInvoices
import ExpresSync.Model.RateLimits
import ExpresSync.Properties.CountedRequests
import ExpresSync.Model.PasswordResets
import ExpresSync.Properties.ResetTokens
import ExpresSync.Model.ApnsTokens
import ExpresSync.Properties.PushTokens
import ExpresSync.Properties.ReconciledAccounts
import ExpresSync.Properties.MeterMappings
import ExpresSync.Properties.CutStreams
