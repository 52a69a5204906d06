import TaskOrchestrator.Library.KeyedRows
import TaskOrchestrator.Library.Comparators
import TaskOrchestrator.Library.Program
import TaskOrchestrator.Library.Pools
import TaskOrchestrator.Library.Announcements
import TaskOrchestrator.Library.Ledger
import TaskOrchestrator.Library.Segments
import TaskOrchestrator.Library.Load
import TaskOrchestrator.Library.Machine
import TaskOrchestrator.Library.Liveness
import TaskOrchestrator.Library.TreeSearch
import TaskOrchestrator.Library.LinearRows
import TaskOrchestrator.Library.Text
import TaskOrchestrator.Library.Updates
import TaskOrchestrator.Library.Paging
import TaskOrchestrator.Library.Loops
import TaskOrchestrator.Library.Percent
import TaskOrchestrator.Library.Doubles
import TaskOrchestrator.Library.Numbers
import TaskOrchestrator.Library.Readers
import TaskOrchestrator.Library.UrlPath
import TaskOrchestrator.Library.EventStreams
import TaskOrchestrator.Library.Sequencing
import TaskOrchestrator.Protocol.Messages
import TaskOrchestrator.Protocol.StreamingCall
import TaskOrchestrator.Protocol.StreamingClient
import TaskOrchestrator.Protocol.UnaryCalls
import TaskOrchestrator.Core.Workflow
import TaskOrchestrator.Core.Scheduler
import TaskOrchestrator.Core.Feasibility
import TaskOrchestrator.Core.Planning
import TaskOrchestrator.Core.ActorChoice
import TaskOrchestrator.Core.Dependencies
import TaskOrchestrator.Core.Simulation
import TaskOrchestrator.Core.EarliestStart
import TaskOrchestrator.Core.NextStart
import TaskOrchestrator.Core.SimClock
import TaskOrchestrator.Core.Determinism
import TaskOrchestrator.Core.Orchestrator
import TaskOrchestrator.Core.Steps
import TaskOrchestrator.Core.Bookkeeping
import TaskOrchestrator.Core.Notifications
import TaskOrchestrator.Core.Maximality
import TaskOrchestrator.Core.Dispatching
import TaskOrchestrator.Core.Commitment
import TaskOrchestrator.Core.MutualExclusion
import TaskOrchestrator.Core.PlanningTurns
import TaskOrchestrator.Core.Phases
import TaskOrchestrator.Core.PhaseCount
import TaskOrchestrator.Core.WorkflowSwitch
import TaskOrchestrator.Core.Progress
import TaskOrchestrator.Core.Batches
import TaskOrchestrator.Core.DeadlineFirst
import TaskOrchestrator.Core.PooledActors
import TaskOrchestrator.Core.ShortestFirst
import TaskOrchestrator.Optimizer.Model
import TaskOrchestrator.Optimizer.ConstraintIndex
import TaskOrchestrator.Optimizer.Schedules
import TaskOrchestrator.Optimizer.IndexedExact
import TaskOrchestrator.Optimizer.EligibleActors
import TaskOrchestrator.Optimizer.EarliestStarts
import TaskOrchestrator.Optimizer.SearchTree
import TaskOrchestrator.Optimizer.SearchFeasibility
import TaskOrchestrator.Optimizer.Exactness
import TaskOrchestrator.Optimizer.Pruning
import TaskOrchestrator.Optimizer.ListScheduling
import TaskOrchestrator.Optimizer.Optimality
import TaskOrchestrator.Optimizer.Formulation
import TaskOrchestrator.Optimizer.FormulationTerms
import TaskOrchestrator.Optimizer.FormulationExactness
import TaskOrchestrator.Optimizer.EngineExclusions
import TaskOrchestrator.Optimizer.MipBackend
import TaskOrchestrator.Optimizer.BackendAgreement
import TaskOrchestrator.Optimizer.UnknownDependencies
import TaskOrchestrator.Optimizer.MandatoryTasks
import TaskOrchestrator.Optimizer.NlpParser
import TaskOrchestrator.Optimizer.RequestLines
import TaskOrchestrator.Optimizer.RequestLayout
import TaskOrchestrator.Optimizer.ParsedValues
import TaskOrchestrator.Optimizer.ParserFailures
import TaskOrchestrator.Optimizer.Registry
import TaskOrchestrator.Application.Config
import TaskOrchestrator.Application.Runner
import TaskOrchestrator.Application.ConfigLoader
import TaskOrchestrator.Application.Description
import TaskOrchestrator.Application.TextForm
import TaskOrchestrator.Application.Intake
import TaskOrchestrator.Application.RuntimeService
import TaskOrchestrator.Application.FeasiblePlans
import TaskOrchestrator.Application.Overrides
import TaskOrchestrator.Application.LaunchConfig
import TaskOrchestrator.Application.ConfigRoundTrip
import TaskOrchestrator.Application.Authentication
import TaskOrchestrator.ControlPlane.Store
import TaskOrchestrator.ControlPlane.UpdateFeed
import TaskOrchestrator.ControlPlane.Followers
import TaskOrchestrator.ControlPlane.Calls
import TaskOrchestrator.ControlPlane.Service
import TaskOrchestrator.ControlPlane.PlanDiff
import TaskOrchestrator.ControlPlane.Paging
import TaskOrchestrator.ControlPlane.Retention
import TaskOrchestrator.Application.Operator
import TaskOrchestrator.Application.HttpTransport
import TaskOrchestrator.Application.DashboardQuery
import TaskOrchestrator.Application.Dashboard
import TaskOrchestrator.Application.DashboardReads
import TaskOrchestrator.Application.DashboardStream
import TaskOrchestrator.System.Runs
import TaskOrchestrator.System.PersistenceLoop
import TaskOrchestrator.System.Effects
import TaskOrchestrator.System.Ledger
import TaskOrchestrator.System.History
import TaskOrchestrator.System.SharedCalls
import TaskOrchestrator.System.SharedState
import TaskOrchestrator.System.Concurrency
import TaskOrchestrator.System.Crash
import TaskOrchestrator.System.StoredRecords
import TaskOrchestrator.System.Cancellation
import TaskOrchestrator.System.Rejection
import TaskOrchestrator.System.Idempotency
import TaskOrchestrator.System.Sessions
import TaskOrchestrator.System.Interventions
import TaskOrchestrator.System.OperatorRoutes
import TaskOrchestrator.System.Agreement
import TaskOrchestrator.System.Hydration
import TaskOrchestrator.System.PlanVersions
import TaskOrchestrator.System.TaskEdits
import TaskOrchestrator.System.Streams
import TaskOrchestrator.System.TaskDeletions
import TaskOrchestrator.System.Priorities
import TaskOrchestrator.System.SessionRuns
import TaskOrchestrator.System.Alternatives
import TaskOrchestrator.System.Calendars
import TaskOrchestrator.System.Pins
import TaskOrchestrator.System.Isolation
import TaskOrchestrator.System.Lifetimes
import TaskOrchestrator.System.StoredPlans
import TaskOrchestrator.System.Announcements
import TaskOrchestrator.Console.ScheduleTime
import TaskOrchestrator.Console.Tasks
import TaskOrchestrator.Console.Details
import TaskOrchestrator.Console.TaskEditor
import TaskOrchestrator.Console.Scenario
import TaskOrchestrator.Console.Routes
import TaskOrchestrator.Console.Dashboard
import TaskOrchestrator.System.LiveDashboard
import TaskOrchestrator.System.StreamedDashboard
