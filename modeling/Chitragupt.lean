import Chitragupt.StateMachine.PhaseOrder
import Chitragupt.StateMachine.SignOff
import Chitragupt.StateMachine.Terminal
import Chitragupt.Pipeline.CostAccounting
import Chitragupt.Pipeline.OptimisticUpdates
import Chitragupt.Pipeline.TokenDelivery
import Chitragupt.Pipeline.ConcurrentTurns
import Chitragupt.Gateway.AbortedTurn
import Chitragupt.Gateway.Delivery
import Chitragupt.StateMachine.Tenancy
import Chitragupt.Ingestion.Idempotence
import Chitragupt.Ingestion.Retry
import Chitragupt.Ingestion.TenantSetting
import Chitragupt.Pipeline.SharedBudget
import Chitragupt.Pipeline.ModelSelection
import Chitragupt.Pipeline.NodeFailures
import Chitragupt.Pipeline.RevisitCoherence
import Chitragupt.Pipeline.RevisitAgreement
import Chitragupt.Pipeline.NextAction
import Chitragupt.StateMachine.RegulatedGate
import Chitragupt.StateMachine.Refusals
import Chitragupt.StateMachine.TurnOrder
import Chitragupt.StateMachine.AcLedger
import Chitragupt.StateMachine.CapturedKnowledge
import Chitragupt.StateMachine.UpdatedAt
import Chitragupt.StateMachine.RevisitAudit
import Chitragupt.Pipeline.SessionDecoding
import Chitragupt.Pipeline.ReplyParsers
import Chitragupt.Pipeline.RevisitWords
import Chitragupt.Ingestion.ChunkCoverage
import Chitragupt.Ingestion.PiiWindows
import Chitragupt.Ingestion.OwnVectors
import Chitragupt.Ingestion.TokenCounts
import Chitragupt.StateMachine.AcExactness
import Chitragupt.StateMachine.EntityTyping
import Chitragupt.Ingestion.DocumentProcessor
import Chitragupt.Ingestion.SparseScores
import Chitragupt.Pipeline.CircuitBreaker
import Chitragupt.Pipeline.SystemPrompt
import Chitragupt.Pipeline.ConfigLoading
import Chitragupt.Pipeline.StateJson
import Chitragupt.StateMachine.Concurrency
import Chitragupt.Gateway.SseStream
import Chitragupt.Gateway.UnusedDocuments
import Chitragupt.Gateway.TurnAccounting
import Chitragupt.Gateway.SessionIsolation
import Chitragupt.Gateway.GapPrompt
import Chitragupt.Ingestion.SearchedUploads
import Chitragupt.Gateway.ShownTurn
