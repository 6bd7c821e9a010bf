import BgeRouter.Library.PartialRuns
import BgeRouter.Library.LoadStoreCell
import BgeRouter.Library.OrderedMultimap
import BgeRouter.Library.TimedCourses
import BgeRouter.Library.BiasedSelect
import BgeRouter.Library.RaisingFolds
import BgeRouter.Library.StagedSearch
import BgeRouter.Library.KeyedLists
import BgeRouter.Library.CappedDoubling
import BgeRouter.Library.FixedWidthSums
import BgeRouter.Library.CompactJson
import BgeRouter.Library.CompactJsonParser
import BgeRouter.Library.SkippedTicks
import BgeRouter.Library.SortedEntries
import BgeRouter.UpstreamSnapshot
import BgeRouter.RoutingPolicy
import BgeRouter.CircuitBreaker
import BgeRouter.Discovery
import BgeRouter.HealthPolling
import BgeRouter.TrippedRouting
import BgeRouter.PoolWriters
import BgeRouter.PoolMembership
import BgeRouter.CooldownWindows
import BgeRouter.Configuration
import BgeRouter.ReverseProxy
import BgeRouter.HeaderTransparency
import BgeRouter.AppState
import BgeRouter.RetryLoop
import BgeRouter.RequestEffects
import BgeRouter.HedgedRace
import BgeRouter.RaceSpecification
import BgeRouter.SequentialDispatch
import BgeRouter.ControlPlaneTrips
import BgeRouter.StatusTransparency
import BgeRouter.RouteDispatch
import BgeRouter.PriorityOrder
import BgeRouter.HedgedPoolEffect
import BgeRouter.UnbuildableRequests
import BgeRouter.SelectionOrder
import BgeRouter.SecondaryTarget
import BgeRouter.SerialisedUpdates
import BgeRouter.ConcurrentTrips
import BgeRouter.SequentialSpecification
import BgeRouter.PoolHistory
import BgeRouter.BackgroundLoops
import BgeRouter.HealthReports
import BgeRouter.RetrySpecification
import BgeRouter.RetryBudget
import BgeRouter.RefreshCadence
import BgeRouter.HealthUpdates
import BgeRouter.ClockRange
import BgeRouter.HeartbeatSums
import BgeRouter.Environment
import BgeRouter.Logging
import BgeRouter.WriterTransitions
import BgeRouter.PoolProvenance
import BgeRouter.CooldownExpiry
import BgeRouter.RequestLegs
import BgeRouter.ServedRequests
import BgeRouter.SerialisableRuns
import BgeRouter.Recovery
import BgeRouter.CallBounds
import BgeRouter.AnswerOrigins
import BgeRouter.FrontEnd
import BgeRouter.AnswerDeadlines
import BgeRouter.HedgingBenefit
import BgeRouter.ReportedRouting
import BgeRouter.AcceptedSettings
import BgeRouter.PollCadence
import BgeRouter.FailingFleet
import BgeRouter.TimedLoops
import BgeRouter.EnvironmentFollowed
import BgeRouter.RequestIds
import BgeRouter.HedgeLog
import BgeRouter.HedgeLogSpecification
import BgeRouter.WindowDeadlines
import BgeRouter.SteadyService
