import RouteLLM.Api.Conformance
import RouteLLM.Api.Correlation
import RouteLLM.Api.Errors
import RouteLLM.Api.Routes
import RouteLLM.Api.ServiceErrors
import RouteLLM.Api.Started
import RouteLLM.Api.Startup
import RouteLLM.Application.AdapterEvents
import RouteLLM.Application.Adaptive
import RouteLLM.Application.AdaptiveLedger
import RouteLLM.Application.AdaptiveLog
import RouteLLM.Application.AdaptiveRun
import RouteLLM.Application.AdaptiveSafety
import RouteLLM.Application.Chat
import RouteLLM.Application.ChatRecord
import RouteLLM.Application.EscalationOrder
import RouteLLM.Application.Inference
import RouteLLM.Application.InferenceRecord
import RouteLLM.Application.RejectedCompletion
import RouteLLM.Application.RuntimeRun
import RouteLLM.Application.StartedCalls
import RouteLLM.Benchmarks.AuditExactness
import RouteLLM.Benchmarks.CategoryDetector
import RouteLLM.Benchmarks.ConstructedTasks
import RouteLLM.Benchmarks.CosmeticVariants
import RouteLLM.Benchmarks.CostEnvelope
import RouteLLM.Benchmarks.CostEstimate
import RouteLLM.Benchmarks.DetectorManifest
import RouteLLM.Benchmarks.DetectorProjection
import RouteLLM.Benchmarks.DuplicateAudit
import RouteLLM.Benchmarks.Families
import RouteLLM.Benchmarks.Features
import RouteLLM.Benchmarks.FileRepository
import RouteLLM.Benchmarks.Models
import RouteLLM.Benchmarks.ProjectionAgreement
import RouteLLM.Benchmarks.ProtocolAudit
import RouteLLM.Benchmarks.ReasoningOracle
import RouteLLM.Benchmarks.RoutingBenchmark
import RouteLLM.Benchmarks.RoutingExport
import RouteLLM.Benchmarks.RunSurvival
import RouteLLM.Benchmarks.Runner
import RouteLLM.Benchmarks.SplitLeakage
import RouteLLM.Benchmarks.SplitManifest
import RouteLLM.Benchmarks.SummarizationCoverage
import RouteLLM.Benchmarks.SummarizationSpec
import RouteLLM.Benchmarks.WellFormedFamilies
import RouteLLM.Deadline
import RouteLLM.Errors
import RouteLLM.Evaluation.Aggregation
import RouteLLM.Evaluation.CompleteRuns
import RouteLLM.Evaluation.Conservation
import RouteLLM.Evaluation.HybridAcceptance
import RouteLLM.Evaluation.HybridJudge
import RouteLLM.Evaluation.Models
import RouteLLM.Evaluation.Normalization
import RouteLLM.Evaluation.Repository
import RouteLLM.Evaluation.Sandbox
import RouteLLM.Evaluation.Service
import RouteLLM.Evaluation.StoredSummary
import RouteLLM.Evaluation.StructuredAnswers
import RouteLLM.Evaluation.FlattenedAnswers
import RouteLLM.Lib.FloatError
import RouteLLM.Lib.MarkedWords
import RouteLLM.Lib.AssocList
import RouteLLM.Lib.Base64
import RouteLLM.Lib.Binary64
import RouteLLM.Lib.Choice
import RouteLLM.Lib.Combinations
import RouteLLM.Lib.Decimal
import RouteLLM.Lib.DecimalContext
import RouteLLM.Lib.DecimalGrid
import RouteLLM.Lib.DecimalSum
import RouteLLM.Lib.EvenFill
import RouteLLM.Lib.Except
import RouteLLM.Lib.ExpiringStore
import RouteLLM.Lib.FileTable
import RouteLLM.Lib.FixedWindow
import RouteLLM.Lib.FloatBounds
import RouteLLM.Lib.FloatMean
import RouteLLM.Lib.FloatOrder
import RouteLLM.Lib.FloatRepr
import RouteLLM.Lib.FloatReread
import RouteLLM.Lib.Grouping
import RouteLLM.Lib.Interleaving
import RouteLLM.Lib.Json.Correct
import RouteLLM.Lib.Json.Grammar
import RouteLLM.Lib.Json.Parser
import RouteLLM.Lib.Json.Writer
import RouteLLM.Lib.KeySort
import RouteLLM.Lib.Keyset
import RouteLLM.Lib.Labels
import RouteLLM.Lib.PaddedDigits
import RouteLLM.Lib.Pareto
import RouteLLM.Lib.PathSearch
import RouteLLM.Lib.PyDateTime
import RouteLLM.Lib.PyFloat
import RouteLLM.Lib.PyHash
import RouteLLM.Lib.PyJson
import RouteLLM.Lib.PyStr
import RouteLLM.Lib.PyUuid
import RouteLLM.Lib.PyValue
import RouteLLM.Lib.Rounding
import RouteLLM.Lib.Traced
import RouteLLM.Lib.TracedLog
import RouteLLM.Lib.TracedPair
import RouteLLM.Lib.TracedState
import RouteLLM.Lib.Unicode
import RouteLLM.Lib.WeightedSum
import RouteLLM.Lib.Words
import RouteLLM.Lib.WriteThreads
import RouteLLM.Models
import RouteLLM.Observability
import RouteLLM.Persistence.Constraints
import RouteLLM.Persistence.Reconciliation
import RouteLLM.Persistence.Repository
import RouteLLM.Persistence.Tables
import RouteLLM.Pricing
import RouteLLM.PricingContext
import RouteLLM.Providers.Completion
import RouteLLM.Providers.Portfolio
import RouteLLM.Providers.Vercel
import RouteLLM.RateLimit
import RouteLLM.RateLimitIntervals
import RouteLLM.RateLimitRetry
import RouteLLM.Registry
import RouteLLM.Routing.AllowanceAgreement
import RouteLLM.Routing.Analysis
import RouteLLM.Routing.CanonicalFeatures
import RouteLLM.Routing.CostBound
import RouteLLM.Routing.DecisionScoring
import RouteLLM.Routing.FeatureParity
import RouteLLM.Routing.Features
import RouteLLM.Routing.FoldBalance
import RouteLLM.Routing.Frontier
import RouteLLM.Routing.GroupedFolds
import RouteLLM.Routing.MlFeatures
import RouteLLM.Routing.OfflineEvidence
import RouteLLM.Routing.OfflineSelection
import RouteLLM.Routing.OracleBound
import RouteLLM.Routing.OutOfFold
import RouteLLM.Routing.Outcome
import RouteLLM.Routing.Policy
import RouteLLM.Routing.PolicyOrder
import RouteLLM.Routing.Predictor
import RouteLLM.Routing.QualityFeatures
import RouteLLM.Routing.Service
import RouteLLM.Routing.ThresholdContract
import RouteLLM.Telemetry
import RouteLLM.Telemetry.Activity
import RouteLLM.Telemetry.ChangingActivity
import RouteLLM.Telemetry.Privacy
import RouteLLM.Telemetry.Query
import RouteLLM.Validation.Contracts
import RouteLLM.Validation.DepthBound
import RouteLLM.Validation.Language
import RouteLLM.Validation.Satisfiable
import RouteLLM.Validation.Validator
import RouteLLM.Evaluation.Marks
import RouteLLM.Evaluation.FullMarks
import RouteLLM.Evaluation.Recovery
import RouteLLM.Providers.Diagnostics
