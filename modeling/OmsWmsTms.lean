import OmsWmsTms.Logistics.Issued
import OmsWmsTms.Logistics.Service
import OmsWmsTms.Lts.Basic
import OmsWmsTms.Control.Loop
import OmsWmsTms.Control.Except
import OmsWmsTms.Data.Heapq
import OmsWmsTms.Data.Dict
import OmsWmsTms.Data.Md5
import OmsWmsTms.Data.Numeric
import OmsWmsTms.Data.Paging
import OmsWmsTms.Data.OrderBy
import OmsWmsTms.Data.Sort
import OmsWmsTms.Data.Rows
import OmsWmsTms.Data.Text
import OmsWmsTms.Data.Cursor
import OmsWmsTms.Graph.Walk
import OmsWmsTms.Graph.BestFirst
import OmsWmsTms.Sql.Grouping
import OmsWmsTms.Core.Ids
import OmsWmsTms.Core.Clock
import OmsWmsTms.Core.Errors
import OmsWmsTms.Core.BodyBuffer
import OmsWmsTms.Core.Csrf
import OmsWmsTms.Tms.RouteSearch
import OmsWmsTms.Tms.RouteSearchCorrect
import OmsWmsTms.Tms.RoutePath
import OmsWmsTms.Tms.Models
import OmsWmsTms.Tms.Services
import OmsWmsTms.Tms.RoutePlan
import OmsWmsTms.Tms.RouteCache
import OmsWmsTms.Tms.GenerateRoutePlan
import OmsWmsTms.Tms.LanePrice
import OmsWmsTms.Tms.Freight
import OmsWmsTms.Txn.Table
import OmsWmsTms.Txn.Program
import OmsWmsTms.Txn.Writes
import OmsWmsTms.Txn.System
import OmsWmsTms.Txn.Outline
import OmsWmsTms.Txn.Alone
import OmsWmsTms.Txn.Serial
import OmsWmsTms.Oms.OrderStates
import OmsWmsTms.Oms.Models
import OmsWmsTms.Oms.Service
import OmsWmsTms.Oms.Merge
import OmsWmsTms.Oms.Tasks
import OmsWmsTms.Oms.Footprint
import OmsWmsTms.Oms.Lifecycle
import OmsWmsTms.Oms.ConcurrentStatus
import OmsWmsTms.Oms.StatusLog
import OmsWmsTms.Oms.Effects
import OmsWmsTms.Oms.SplitConserves
import OmsWmsTms.Oms.StaleFlags
import OmsWmsTms.Oms.MergeCodes
import OmsWmsTms.Oms.MergeCounts
import OmsWmsTms.Connectors.Service
import OmsWmsTms.Oms.OutboxComplete
import OmsWmsTms.Oms.Queries
import OmsWmsTms.Oms.OrderPages
import OmsWmsTms.Oms.SoftDelete
import OmsWmsTms.Outbox.Delivery
import OmsWmsTms.Outbox.Agreement
import OmsWmsTms.Outbox.DoubleDispatch
import OmsWmsTms.Outbox.Retries
import OmsWmsTms.Pda.Inserted
import OmsWmsTms.Mobile.Client
import OmsWmsTms.Mobile.Queue
import OmsWmsTms.Wms.Models
import OmsWmsTms.Wms.Adjust
import OmsWmsTms.Wms.StockOutOrder
import OmsWmsTms.Wms.StockOutAllocation
import OmsWmsTms.Txn.Keeps
import OmsWmsTms.Txn.Appended
import OmsWmsTms.Wms.AdjustCommits
import OmsWmsTms.Wms.AdjustEffect
import OmsWmsTms.Wms.NoLostUpdate
import OmsWmsTms.Wms.AdjustRun
import OmsWmsTms.Wms.AdjustAmong
import OmsWmsTms.Wms.AllOrNothing
import OmsWmsTms.Wms.Fulfils
import OmsWmsTms.Data.Keyspace
import OmsWmsTms.Auth.Security
import OmsWmsTms.Auth.Service
import OmsWmsTms.Auth.SingleUse
import OmsWmsTms.Auth.TokenChain
import OmsWmsTms.Auth.TokenLive
import OmsWmsTms.Auth.AccessOnly
import OmsWmsTms.Auth.Deactivated
import OmsWmsTms.Web.Session
import OmsWmsTms.Cache.Lock
import OmsWmsTms.Cache.Decorators
import OmsWmsTms.Cache.HitEqual
import OmsWmsTms.Cache.RateLimit
import OmsWmsTms.Tms.Tracking
import OmsWmsTms.Tms.CachedGetters
import OmsWmsTms.Tms.OrderTimes
import OmsWmsTms.Tms.SegmentTimes
import OmsWmsTms.Tms.Returns
import OmsWmsTms.Tms.RefundDiscipline
import OmsWmsTms.Web.SingleFlight
import OmsWmsTms.Txn.Triple
import OmsWmsTms.Wms.StockInvariant
import OmsWmsTms.Wms.CountSpares
import OmsWmsTms.Wms.StockRuns
import OmsWmsTms.Wms.StockInOut
import OmsWmsTms.Wms.PickAllocation
import OmsWmsTms.Wms.AuditTrail
import OmsWmsTms.Wms.CountRecorded
import OmsWmsTms.Wms.CountSets
import OmsWmsTms.Wms.Replenish
import OmsWmsTms.Wms.Ledger
import OmsWmsTms.Wms.ReleaseOnly
import OmsWmsTms.Wms.DocumentTotals
import OmsWmsTms.Txn.OneCommit
import OmsWmsTms.Wms.StockSteady
import OmsWmsTms.Wms.Transfers
import OmsWmsTms.Wms.TwoWriters
import OmsWmsTms.Wms.Picking
import OmsWmsTms.Sockets.Bound
import OmsWmsTms.Sockets.Delivery
import OmsWmsTms.Data.Csv
import OmsWmsTms.Data.Unicode
import OmsWmsTms.Admin.InventoryRoundTrip
import OmsWmsTms.Connectors.EdiRoundTrip
import OmsWmsTms.Mobile.Pull
import OmsWmsTms.Core.SharedLimits
import OmsWmsTms.Core.SlidingWindow
import OmsWmsTms.Wms.DocumentsConsistent
import OmsWmsTms.Wms.Analysis
import OmsWmsTms.Txn.Ends
import OmsWmsTms.Webhooks.Service
import OmsWmsTms.Webhooks.OrderStream
import OmsWmsTms.Txn.Decides
import OmsWmsTms.Oms.Returns
import OmsWmsTms.Txn.ThrowsOnly
import OmsWmsTms.Oms.Schemas
import OmsWmsTms.Data.Json
import OmsWmsTms.Data.JsonString
import OmsWmsTms.Data.JsonText
import OmsWmsTms.Connectors.ShopifyWebhook
import OmsWmsTms.Connectors.OneOrderEach
import OmsWmsTms.Core.Pagination
import OmsWmsTms.Data.Batch
import OmsWmsTms.Txn.Owned
import OmsWmsTms.Txn.Sorts
import OmsWmsTms.Imports.Orders
import OmsWmsTms.Imports.OrderRows
import OmsWmsTms.Imports.OrderSessions
import OmsWmsTms.Imports.OrderIsolation
import OmsWmsTms.Imports.Inventory
import OmsWmsTms.Imports.InventoryIsolation
import OmsWmsTms.Imports.Isolated
import OmsWmsTms.Barcode.Gtin
import OmsWmsTms.Barcode.SameCode
import OmsWmsTms.Wms.Locations
import OmsWmsTms.Connectors.DeadLetters
import OmsWmsTms.Pda.Mutations
import OmsWmsTms.Data.OrderedDict
import OmsWmsTms.Cache.MemoryCache
import OmsWmsTms.Cache.LeastRecentlyUsed
import OmsWmsTms.Data.Discounted
import OmsWmsTms.Tms.Forecast
import OmsWmsTms.Uow.Program
import OmsWmsTms.Uow.Journal
import OmsWmsTms.Uow.Shared
import OmsWmsTms.Core.Handlers
import OmsWmsTms.Auth.Roles
import OmsWmsTms.Auth.RoleIntegrity
import OmsWmsTms.Auth.Authority
import OmsWmsTms.Wms.PurchaseOrders
import OmsWmsTms.Wms.Shipping
import OmsWmsTms.Tms.Devices
import OmsWmsTms.Tms.Deliveries
import OmsWmsTms.Core.RemainingHeader
import OmsWmsTms.Barcode.Registry
import OmsWmsTms.Cache.CachedCalls
import OmsWmsTms.Analytics.Dashboard
import OmsWmsTms.Uow.Workflow
import OmsWmsTms.Tms.TransportRequests
import OmsWmsTms.Tms.ReturnRequests
import OmsWmsTms.Data.RunningSums
import OmsWmsTms.Wms.AbcRank
import OmsWmsTms.Wms.XyzAnalysis
