import CrmPortal.Library.IdentityTable
import CrmPortal.Library.Transaction
import CrmPortal.PyValue
import CrmPortal.Database
import CrmPortal.OrderNormalization
import CrmPortal.OrderSync
import CrmPortal.OrderSyncSpec
import CrmPortal.SyncVersions
import CrmPortal.Library.UnitOfWork
import CrmPortal.RequestContext
import CrmPortal.SyncContainment
import CrmPortal.ShopCatalogSync
import CrmPortal.Products
import CrmPortal.Shops
import CrmPortal.CatalogAtomicity
import CrmPortal.ShopMirror
import CrmPortal.Library.ReadCommitted
import CrmPortal.SyncConcurrency
import CrmPortal.CatalogRace
import CrmPortal.Orders
import CrmPortal.OrdersSpec
import CrmPortal.Simulation
import CrmPortal.BacklogClassification
import CrmPortal.OrderIntake
import CrmPortal.Library.ShiftedTable
import CrmPortal.SyncIsolation
import CrmPortal.SyncIdempotence
import CrmPortal.Accounts
import CrmPortal.SessionLookup
import CrmPortal.SessionGate
import CrmPortal.Portal
import CrmPortal.AccountsSpec
import CrmPortal.PortalSpec
import CrmPortal.SessionFreshness
import CrmPortal.RoleChanges
import CrmPortal.PrivilegeProvenance
import CrmPortal.LoginResolution
import CrmPortal.LoginThrottle
import CrmPortal.AuthAdmission
import CrmPortal.Library.Splitting
import CrmPortal.SsoCookie
import CrmPortal.IdToken
import CrmPortal.Library.ExpiringRegister
import CrmPortal.JsonText
import CrmPortal.ChaosStore
import CrmPortal.Library.ReplaceAll
import CrmPortal.ChaosRace
import CrmPortal.ChaosFaults
import CrmPortal.ChaosAuthorisation
import CrmPortal.CustomerCache
import CrmPortal.FaultInjection
import CrmPortal.CustomerCacheRace
import CrmPortal.Customers
import CrmPortal.CustomerEmails
import CrmPortal.LogWorker
import CrmPortal.InFlightGauge
import CrmPortal.SessionGauge
import CrmPortal.Library.LastWins
import CrmPortal.ProductLookup
import CrmPortal.ExplicitValues
import CrmPortal.PriceTampering
import CrmPortal.BootstrapAdmin
import CrmPortal.SimulationSwitches
import CrmPortal.ProductReferences
import CrmPortal.CrossOrigin
import CrmPortal.Library.LoggerTree
import CrmPortal.LogCorrelation
import CrmPortal.BootstrapShops
import CrmPortal.Library.ForeignKey
import CrmPortal.ShopDeletionRace
import CrmPortal.OrderTotals
import CrmPortal.Library.Trimming
import CrmPortal.InternalKey
import CrmPortal.SsoProvisioning
import CrmPortal.PartialUpdate
import CrmPortal.ShopAnswers
import CrmPortal.Library.FirstOccurrence
import CrmPortal.CorsOrigins
import CrmPortal.MaskedUrl
import CrmPortal.FrontendTelemetry
import CrmPortal.BacklogAge
import CrmPortal.Library.PositionalDigits
import CrmPortal.Library.Collapsing
import CrmPortal.OracleSqlId
import CrmPortal.SessionTagging
import CrmPortal.DependencyHealth
import CrmPortal.Library.Paging
import CrmPortal.ListPaging
import CrmPortal.Analytics
import CrmPortal.ChaosContainment
import CrmPortal.Library.References
import CrmPortal.ReferentialIntegrity
import CrmPortal.SsoAgreement
import CrmPortal.Library.Completion
import CrmPortal.SchemaBootstrap
import CrmPortal.SimulationRuns
import CrmPortal.Library.AuditTrail
import CrmPortal.SyncLedger
import CrmPortal.SyncHealth
import CrmPortal.Library.QuotedText
import CrmPortal.Library.LikePattern
import CrmPortal.InterpolatedStatements
import CrmPortal.KeyRotation
import CrmPortal.Library.DirectoryWalk
import CrmPortal.UploadedFiles
import CrmPortal.Library.InsertionDict
import CrmPortal.ApiKeys
import CrmPortal.Library.Grouping
import CrmPortal.Dashboard
import CrmPortal.Library.HexText
import CrmPortal.TraceContext
import CrmPortal.ColumnValues
import CrmPortal.Campaigns
import CrmPortal.Shipping
import CrmPortal.SyncFeed
