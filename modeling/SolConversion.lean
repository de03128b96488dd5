import SolConversion.Foundation.AtomicBatch
import SolConversion.Foundation.Base64
import SolConversion.Foundation.BinaryFloat
import SolConversion.Foundation.Borsh
import SolConversion.Foundation.Calendar
import SolConversion.Foundation.ChangeLog
import SolConversion.Foundation.Checkpoint
import SolConversion.Foundation.DecimalFormat
import SolConversion.Foundation.DecimalLiteral
import SolConversion.Foundation.DecimalNearest
import SolConversion.Foundation.DecimalText
import SolConversion.Foundation.DutchAuction
import SolConversion.Foundation.FixedWidth
import SolConversion.Foundation.KeyedStore
import SolConversion.Foundation.LabelledRun
import SolConversion.Foundation.LotAccount
import SolConversion.Foundation.LotLog
import SolConversion.Foundation.NearestRank
import SolConversion.Foundation.PagedRead
import SolConversion.Foundation.RingBuffer
import SolConversion.Foundation.ScriptDate
import SolConversion.Foundation.ScriptNumber
import SolConversion.Foundation.ScriptValue
import SolConversion.Foundation.SharedLedger
import SolConversion.Foundation.Transactional
import SolConversion.Foundation.WhileLoop
import SolConversion.Foundation.WordArray
import SolConversion.OnChain.State
import SolConversion.OnChain.AskPrice
import SolConversion.OnChain.FillsRegistry
import SolConversion.OnChain.DequeueFills
import SolConversion.OnChain.BuySol
import SolConversion.OnChain.Administration
import SolConversion.OnChain.Program
import SolConversion.OnChain.Encoding
import SolConversion.OnChain.FillsHistory
import SolConversion.OnChain.LocalDeployment
import SolConversion.OnChain.FillsContract
import SolConversion.OnChain.PricingContract
import SolConversion.OnChain.PriceProtection
import SolConversion.OnChain.Panics
import SolConversion.OnChain.Admission
import SolConversion.OnChain.DenyList
import SolConversion.OnChain.Settlement
import SolConversion.OnChain.Custody
import SolConversion.OnChain.SplitDequeue
import SolConversion.OnChain.AttestationBinding
import SolConversion.OnChain.Authority
import SolConversion.OnChain.EventLog
import SolConversion.OnChain.Transactions
import SolConversion.OnChain.AuditTrail
import SolConversion.Cli.AccountMirrors
import SolConversion.Cli.InstructionData
import SolConversion.Cli.FixedPoint
import SolConversion.Cli.RemoteCall
import SolConversion.Cli.FillsView
import SolConversion.Cli.DequeueDelivery
import SolConversion.Indexer.Service
import SolConversion.Indexer.EventTables
import SolConversion.Indexer.Ledger
import SolConversion.Indexer.CursorInvariant
import SolConversion.Indexer.CursorSafety
import SolConversion.Indexer.Reindexing
import SolConversion.Indexer.ChainIndex
import SolConversion.Indexer.MetricsApi
import SolConversion.Indexer.DailyBuckets
import SolConversion.Indexer.DateValidation
import SolConversion.Indexer.DequeueTotals
import SolConversion.Indexer.DequeuePercentile
import SolConversion.Indexer.PagedQueries
import SolConversion.Indexer.PromisePool
import SolConversion.Indexer.BoundedPool
import SolConversion.Indexer.HistoryRecovery
import SolConversion.Oracle.CircuitBreaker
import SolConversion.Oracle.SwapRate
import SolConversion.Oracle.ConfidenceGate
import SolConversion.Oracle.SwapRateController
import SolConversion.Oracle.SignedRate
import SolConversion.Oracle.Freshness
import SolConversion.Oracle.FailureClassification
import SolConversion.Cli.QuoteDelivery
import SolConversion.Cli.QuotedPurchase
import SolConversion.Indexer.Reconciliation
