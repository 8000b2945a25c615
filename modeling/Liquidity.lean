import Liquidity.Process.Program
import Liquidity.Process.Interleaving
import Liquidity.Process.Assertions
import Liquidity.Process.Triples
import Liquidity.Process.Restarts
import Liquidity.Process.Attempts
import Liquidity.Process.Steps
import Liquidity.EventSourcing.Aggregate
import Liquidity.EventSourcing.Written
import Liquidity.Finance
import Liquidity.Position.Aggregate
import Liquidity.Position.Claim
import Liquidity.Position.FillMemory
import Liquidity.OffchainOrder.Aggregate
import Liquidity.OffchainOrder.Finalization
import Liquidity.OnChainTrade
import Liquidity.FillAccounting.Pipeline
import Liquidity.FillAccounting.ExactlyOnce
import Liquidity.FillAccounting.Serialized
import Liquidity.Hedging.World
import Liquidity.Hedging.Placement
import Liquidity.Hedging.Jobs
import Liquidity.Hedging.Discipline
import Liquidity.Hedging.Conduct
import Liquidity.Hedging.Release
import Liquidity.Hedging.Exposure
import Liquidity.Hedging.BrokerIdentity
import Liquidity.UsdcRebalance.Aggregate
import Liquidity.UsdcRebalance.Lifecycle
import Liquidity.UsdcRebalance.Stage
import Liquidity.Inventory
import Liquidity.Inventory.View
import Liquidity.Inventory.SnapshotOrder
import Liquidity.Rebalancing.PositionReactor
import Liquidity.Inventory.SingleWriter
import Liquidity.Rebalancing.Reactor
import Liquidity.Rebalancing.Settlement
import Liquidity.Rebalancing.Sweep
import Liquidity.Rebalancing.Guard
import Liquidity.Transfer.World
import Liquidity.Transfer.Bridging
import Liquidity.Transfer.Manager
import Liquidity.Transfer.Changes
import Liquidity.Transfer.Discipline
import Liquidity.Transfer.Conduct
import Liquidity.Transfer.Resume
import Liquidity.Transfer.Burn
import Liquidity.Transfer.Once
import Liquidity.Transfer.Scans
import Liquidity.Transfer.MovesOnce
import Liquidity.Backfill.Ranges
import Liquidity.Backfill.Events
import Liquidity.Backfill.World
import Liquidity.Backfill.Settlements
import Liquidity.Backfill.Coverage
import Liquidity.Backfill.NoGaps
import Liquidity.Backfill.Checkpoints
import Liquidity.Rebalancing.EquityGuard
import Liquidity.EquityRecovery.Wrapped
import Liquidity.EquityRecovery.Unwrapped
import Liquidity.EquityRecovery.Jobs
import Liquidity.EquityRecovery.Resumption
import Liquidity.EquityRecovery.Delivery
import Liquidity.EquityRecovery.Redelivery
import Liquidity.Tokenization
import Liquidity.TokenizedEquityMint.Aggregate
import Liquidity.EquityRedemption.Aggregate
import Liquidity.EquityRedemption.Moves
import Liquidity.EquityRedemption.Lifecycle
import Liquidity.TokenizedEquityMint.Moves
import Liquidity.TokenizedEquityMint.Lifecycle
import Liquidity.Inventory.InflightPolls
import Liquidity.Rebalancing.RecoveryClaim
import Liquidity.Rebalancing.RecoveryRollback
import Liquidity.Rebalancing.EquityCourse
import Liquidity.Rebalancing.EquitySettlement
import Liquidity.EventSourcing.Runs
import Liquidity.Position.Ledger
import Liquidity.Process.Requests
import Liquidity.Hedging.IdempotencyKey
import Liquidity.OffchainOrder.Lifecycle
import Liquidity.UsdcRebalance.Orderly
import Liquidity.Grid
import Liquidity.Hedging.LimitPrice
import Liquidity.Wallet.Submit
import Liquidity.Wallet.OneTransaction
import Liquidity.Wallet.Mempool
import Liquidity.Wallet.Evictions
import Liquidity.Wallet.NonceCache
import Liquidity.Fifo
import Liquidity.Pnl.Replay
import Liquidity.Pnl.Report
import Liquidity.Pnl.Lots
import Liquidity.Pnl.Balance
import Liquidity.Pnl.Reconciliation
import Liquidity.Pnl.Sessions
import Liquidity.Pnl.Costs
import Liquidity.Pnl.Overlaps
import Liquidity.Grouping
import Liquidity.Pnl.Response
import Liquidity.Pnl.Accumulators
import Liquidity.Pnl.SymbolRows
import Liquidity.Pnl.Breakdown
import Liquidity.Clearing.AfterClear
import Liquidity.Clearing.Trade
import Liquidity.Clearing.OwnChange
import Liquidity.Inventory.Snapshot
import Liquidity.Inventory.MarketMirror
import Liquidity.FixedDecimal
import Liquidity.Inventory.Imbalance
import Liquidity.Rebalancing.EquityAmounts
import Liquidity.Rebalancing.EquityFeasible
import Liquidity.Rebalancing.UsdcAmounts
import Liquidity.Rebalancing.UsdcLimits
import Liquidity.Polling
import Liquidity.Receipts.Wait
import Liquidity.Chunks
import Liquidity.Cctp.Message
import Liquidity.Cctp.MintScan
import Liquidity.Cctp.DestinationChain
import Liquidity.Cctp.ExistingMint
import Liquidity.VaultRegistry
import Liquidity.Inventory.VaultPolls
import Liquidity.Inventory.VaultCounts
import Liquidity.Cctp.BurnStatus
import Liquidity.Receipts.Drops
import Liquidity.DecimalText
import Liquidity.Pnl.Decimals
import Liquidity.Pnl.Printed
import Liquidity.Pnl.Amounts
import Liquidity.Pnl.Texts
import Liquidity.Process.Loops
import Liquidity.EventSourcing.Traces
import Liquidity.CrossVenueEquity.World
import Liquidity.CrossVenueEquity.Manager
import Liquidity.CrossVenueEquity.Stages
import Liquidity.CrossVenueEquity.Records
import Liquidity.CrossVenueEquity.Operations
import Liquidity.CrossVenueEquity.Redeeming
import Liquidity.CrossVenueEquity.Minting
import Liquidity.CrossVenueEquity.Attempts
import Liquidity.CrossVenueEquity.MovesOnce
import Liquidity.EventSourcing.Refolding
import Liquidity.Performance.StageTiming
import Liquidity.Performance.CatchUp
import Liquidity.Performance.Runs
import Liquidity.Performance.Stages
import Liquidity.Performance.Rebalance
import Liquidity.Performance.RebalancePaths
import Liquidity.Performance.RebalanceStages
import Liquidity.Performance.RebalanceSettles
import Liquidity.Performance.Equity
import Liquidity.Performance.EquityFailures
import Liquidity.Performance.EquityPhases
import Liquidity.Performance.EquityConverges
