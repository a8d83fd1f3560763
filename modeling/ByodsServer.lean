import ByodsServer.Effects.Schedule
import ByodsServer.Effects.UnreliablePool
import ByodsServer.Effects.Regions
import ByodsServer.Effects.CommitPoints
import ByodsServer.Effects.Faults
import ByodsServer.Effects.Runs
import ByodsServer.Effects.SlidingWindow
import ByodsServer.Effects.Histories
import ByodsServer.Effects.Sessions
import ByodsServer.Effects.LoggedPool
import ByodsServer.Effects.Attribution
import ByodsServer.Effects.DurableFacts
import ByodsServer.Effects.Resources
import ByodsServer.Effects.Raising
import ByodsServer.Effects.MarkedQueue
import ByodsServer.Python.Text
import ByodsServer.Python.Url
import ByodsServer.Python.Json
import ByodsServer.Python.JsonText
import ByodsServer.Python.JsonRoundTrip
import ByodsServer.Python.DateTime
import ByodsServer.Python.TextOrder
import ByodsServer.Python.IsoOrder
import ByodsServer.Exceptions
import ByodsServer.Common.Logging
import ByodsServer.Byova.Catalog
import ByodsServer.Byova.CatalogFile
import ByodsServer.Byova.SdkPatch
import ByodsServer.Byova.MediaProtocol
import ByodsServer.Byova.MediaTraces
import ByodsServer.Byova.ObligingSdk
import ByodsServer.Byova.MediaIsolation
import ByodsServer.Byova.StreamRegistrations
import ByodsServer.Byova.TryStatement
import ByodsServer.Byova.MediaRelease
import ByodsServer.Byova.ResponseStream
import ByodsServer.Byova.Discovery
import ByodsServer.Byova.UnverifiedCallers
import ByodsServer.Persistence.Client
import ByodsServer.Persistence.CatalogRepository
import ByodsServer.Persistence.CatalogAtomicity
import ByodsServer.Byova.CatalogFreshness
import ByodsServer.Persistence.Settling
import ByodsServer.Persistence.CatalogWrites
import ByodsServer.Persistence.CatalogConcurrency
import ByodsServer.Persistence.CatalogSeeding
import ByodsServer.Persistence.CatalogPages
import ByodsServer.Persistence.InterruptedSeeding
import ByodsServer.Scripts.ManageVirtualAgents
import ByodsServer.Scripts.CatalogCommands
import ByodsServer.Scripts.CanonicalText
import ByodsServer.Persistence.CatalogBackends
import ByodsServer.Persistence.CatalogRepair
import ByodsServer.Scripts.CatalogBackup
import ByodsServer.Persistence.Encryption
import ByodsServer.Persistence.OrgRepository
import ByodsServer.Persistence.TokenStorage
import ByodsServer.Persistence.AuditRepository
import ByodsServer.Persistence.AuditSecrecy
import ByodsServer.Persistence.RedactedText
import ByodsServer.Persistence.AuditQuery
import ByodsServer.Persistence.TokenRefinement
import ByodsServer.Persistence.PayloadText
import ByodsServer.Persistence.TableOperations
import ByodsServer.Persistence.Records
import ByodsServer.Persistence.TokenLinearization
import ByodsServer.Persistence.TokenAtomicity
import ByodsServer.Persistence.DamagedCredentials
import ByodsServer.Persistence.SeedFileErrors
import ByodsServer.Persistence.TokenConcurrency
import ByodsServer.Persistence.AuthorizationHistory
import ByodsServer.Config.Settings
import ByodsServer.Config.Environment
import ByodsServer.Persistence.Factory
import ByodsServer.Webhooks.IntegrationBootstrap
import ByodsServer.Webhooks.OauthCallback
import ByodsServer.Webhooks.OauthSecrecy
import ByodsServer.Byods.Service
import ByodsServer.Byods.UniqueUrls
import ByodsServer.Byods.ConcurrentRegistration
import ByodsServer.Webhooks.DatasourceRegister
import ByodsServer.Webhooks.Routes
import ByodsServer.Webhooks.Delivery
import ByodsServer.Common.Middleware
import ByodsServer.CreateApp
import ByodsServer.Scripts.RegisterWebhooks
import ByodsServer.Scripts.ManageDatasources
import ByodsServer.Scripts.DatasourceCommands
import ByodsServer.Scripts.ListVirtualAgents
import ByodsServer.Main
import ByodsServer.HttpApp
import ByodsServer.Processes
import ByodsServer.Restarts
import ByodsServer.Lifetime
import ByodsServer.Persistence.BackendAgreement
