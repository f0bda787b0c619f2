import WmsDu.Count.Runs
import WmsDu.System.Counts
import WmsDu.System.Effects
import WmsDu.Theorems.Books
import WmsDu.Theorems.Freeze
import WmsDu.Theorems.ShelfLife
import WmsDu.Theorems.Fulfillment
import WmsDu.Theorems.Ingest
import WmsDu.Theorems.Replay
import WmsDu.Theorems.LotIdentity
import WmsDu.Theorems.Receiving
import WmsDu.Theorems.Completion
import WmsDu.Stock.InboundLot
import WmsDu.Theorems.BillTotals
import WmsDu.Theorems.BillReconcile
import WmsDu.Theorems.OrderRef
import WmsDu.Theorems.ReturnReceipt
import WmsDu.Theorems.FskuLifecycle
import WmsDu.Pricing.Bindings
import WmsDu.Pricing.Constraints
import WmsDu.Theorems.ManualOutbound
import WmsDu.Theorems.Snapshots
import WmsDu.Theorems.ThreeBooks
import WmsDu.Theorems.Administrators
import WmsDu.Theorems.LiveReceipts
import WmsDu.Theorems.PurchaseReceipts
import WmsDu.Theorems.SkuCodes
import WmsDu.Theorems.BillableWeight
import WmsDu.Theorems.WeightRanges
import WmsDu.Theorems.QuoteMatchers
import WmsDu.Theorems.DestinationGroups
import WmsDu.Theorems.PlatformLines
import WmsDu.Theorems.OrderMirrors
import WmsDu.Theorems.Conversion
import WmsDu.Theorems.ServiceRouting
import WmsDu.Theorems.LedgerRows
import WmsDu.Theorems.StoreBindings
import WmsDu.Theorems.Fefo
import WmsDu.Theorems.WarehouseRouting
import WmsDu.Theorems.ReturnTasks
import WmsDu.Theorems.CheckDigits
import WmsDu.Theorems.BarcodeParsing
import WmsDu.Theorems.Gs1Notations
import WmsDu.Theorems.PurchaseAmounts
import WmsDu.Theorems.UomPatches
import WmsDu.Theorems.MonthArithmetic
import WmsDu.Theorems.EffectivePermissions
import WmsDu.Theorems.PageTree
import WmsDu.Theorems.SpecCodes
import WmsDu.Theorems.CountPosting
import WmsDu.Theorems.EventHistory
import WmsDu.Theorems.SubmitProgress
import WmsDu.Theorems.OrderRequests
import WmsDu.Theorems.ReversalOptions
import WmsDu.Theorems.CountLifecycle
import WmsDu.Theorems.CloneQuotes
import WmsDu.Theorems.SubmitAcceptance
