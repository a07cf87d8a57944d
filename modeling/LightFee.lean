import LightFee.Engine.CloseAgreement
import LightFee.Engine.CloseBilling
import LightFee.Engine.CloseChunks
import LightFee.Engine.CloseConservation
import LightFee.Engine.CompensationFlatness
import LightFee.Engine.EntryCapacity
import LightFee.Engine.EntrySelection
import LightFee.Engine.EntryTotals
import LightFee.Engine.EvidenceMerge
import LightFee.Engine.ExchangeTruthPayload
import LightFee.Engine.ExecutionPlanner
import LightFee.Engine.FailClosedLatch
import LightFee.Engine.FundingCapture
import LightFee.Engine.HedgeFifo
import LightFee.Engine.HedgeRelease
import LightFee.Engine.HedgeReplay
import LightFee.Engine.HistoryEvidence
import LightFee.Engine.MakerCostBasis
import LightFee.Engine.OrderSuccess
import LightFee.Engine.PairProvenFlat
import LightFee.Engine.PassiveCloseReplay
import LightFee.Engine.PassiveOpsBudget
import LightFee.Engine.PositionReconciliation
import LightFee.Engine.ReconciliationOwners
import LightFee.Engine.RecoveryDedup
import LightFee.Engine.RecoveryFlatAgreement
import LightFee.Engine.ResidualRepairDrops
import LightFee.Engine.RiskMonotone
import LightFee.Engine.ZeroFillPhases
import LightFee.MarketData.BookUpdates
import LightFee.MarketData.BufferedReplay
import LightFee.MarketData.ChecksumBook
import LightFee.MarketData.PoolAssignments
import LightFee.MarketData.PrivateOrders
import LightFee.MarketData.StaleDelta
import LightFee.Persistence.CheckpointRuns
import LightFee.Persistence.IndexedStream
import LightFee.Persistence.ProjectionFacts
import LightFee.Persistence.ProjectionReplay
import LightFee.Persistence.ReplayComposition
import LightFee.RateLimit.RetryHints
import LightFee.RateLimit.Runtime
