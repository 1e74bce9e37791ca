import SuspicionMonitor.Agenda
import SuspicionMonitor.Bytes
import SuspicionMonitor.Cluster
import SuspicionMonitor.CommandLine.Invocation
import SuspicionMonitor.CommandLine.Options
import SuspicionMonitor.CommandLine.Session
import SuspicionMonitor.Data.Basic
import SuspicionMonitor.Data.Forms
import SuspicionMonitor.Data.Json
import SuspicionMonitor.Data.JsonText
import SuspicionMonitor.Decimal.Binary
import SuspicionMonitor.Decimal.Fixed
import SuspicionMonitor.Decimal.Reading
import SuspicionMonitor.Decimal.Shortest
import SuspicionMonitor.DecodeError
import SuspicionMonitor.Duration
import SuspicionMonitor.Expectation
import SuspicionMonitor.Filing
import SuspicionMonitor.Graph.Basic
import SuspicionMonitor.Graph.Candidates
import SuspicionMonitor.Graph.Exclusions
import SuspicionMonitor.Graph.Text
import SuspicionMonitor.IndependentSet
import SuspicionMonitor.Latency.Board
import SuspicionMonitor.Latency.Matrix
import SuspicionMonitor.Latency.Windows
import SuspicionMonitor.LatencyVector
import SuspicionMonitor.Ledger
import SuspicionMonitor.Main
import SuspicionMonitor.Metrics
import SuspicionMonitor.MonitorError
import SuspicionMonitor.Proofs.AnsweredLies
import SuspicionMonitor.Proofs.Arming
import SuspicionMonitor.Proofs.BatchOrder
import SuspicionMonitor.Proofs.BoardQueries
import SuspicionMonitor.Proofs.BuildPlacement
import SuspicionMonitor.Proofs.CandidateFloor
import SuspicionMonitor.Proofs.ChargedRounds
import SuspicionMonitor.Proofs.CliqueSearch
import SuspicionMonitor.Proofs.DecaySteps
import SuspicionMonitor.Proofs.DeclaredExclusions
import SuspicionMonitor.Proofs.DelayOrder
import SuspicionMonitor.Proofs.Deliveries
import SuspicionMonitor.Proofs.Dissemination
import SuspicionMonitor.Proofs.DoublePrecision
import SuspicionMonitor.Proofs.DrawableSamples
import SuspicionMonitor.Proofs.DrawnAccusations
import SuspicionMonitor.Proofs.EntangledEdges
import SuspicionMonitor.Proofs.ExclusionList
import SuspicionMonitor.Proofs.ExemptRounds
import SuspicionMonitor.Proofs.ExplainedAccusations
import SuspicionMonitor.Proofs.FiledSuspicions
import SuspicionMonitor.Proofs.GraphRuns
import SuspicionMonitor.Proofs.GreedySeeds
import SuspicionMonitor.Proofs.HeldSuspicions
import SuspicionMonitor.Proofs.HonestExclusions
import SuspicionMonitor.Proofs.IgnoredSuspicions
import SuspicionMonitor.Proofs.IndependentCandidates
import SuspicionMonitor.Proofs.LatencyBoards
import SuspicionMonitor.Proofs.LatencyCodec
import SuspicionMonitor.Proofs.LatencyPayloads
import SuspicionMonitor.Proofs.LayerPrecedence
import SuspicionMonitor.Proofs.LayeredSettings
import SuspicionMonitor.Proofs.LeadingPhases
import SuspicionMonitor.Proofs.LedgerRuns
import SuspicionMonitor.Proofs.LyingReplicas
import SuspicionMonitor.Proofs.LyingReports
import SuspicionMonitor.Proofs.MaximumCandidates
import SuspicionMonitor.Proofs.MissingExpectations
import SuspicionMonitor.Proofs.MutualSuspicion
import SuspicionMonitor.Proofs.OrderedSets
import SuspicionMonitor.Proofs.OverlaidData
import SuspicionMonitor.Proofs.PeriodicTasks
import SuspicionMonitor.Proofs.ProposalVerdicts
import SuspicionMonitor.Proofs.PublishedAccusations
import SuspicionMonitor.Proofs.RandomSamples
import SuspicionMonitor.Proofs.Reconfiguration
import SuspicionMonitor.Proofs.RefusedSuspicions
import SuspicionMonitor.Proofs.ReplicaRuns
import SuspicionMonitor.Proofs.RetainedRounds
import SuspicionMonitor.Proofs.Retention
import SuspicionMonitor.Proofs.ScaledDurations
import SuspicionMonitor.Proofs.ScannerPairs
import SuspicionMonitor.Proofs.SensorHistories
import SuspicionMonitor.Proofs.SensorRuns
import SuspicionMonitor.Proofs.SettingFields
import SuspicionMonitor.Proofs.Settling
import SuspicionMonitor.Proofs.SignedWords
import SuspicionMonitor.Proofs.Silencing
import SuspicionMonitor.Proofs.SimulationReports
import SuspicionMonitor.Proofs.SlowerReports
import SuspicionMonitor.Proofs.SoleLayer
import SuspicionMonitor.Proofs.SoundEdges
import SuspicionMonitor.Proofs.SquareBoards
import SuspicionMonitor.Proofs.StrategyComparison
import SuspicionMonitor.Proofs.SuspicionCodec
import SuspicionMonitor.Proofs.SuspicionPayloads
import SuspicionMonitor.Proofs.SymmetricBounds
import SuspicionMonitor.Proofs.TimerJobs
import SuspicionMonitor.Proofs.TimerRecords
import SuspicionMonitor.Proofs.TimerRuns
import SuspicionMonitor.Proofs.TomlDialects
import SuspicionMonitor.Proofs.TomlReadings
import SuspicionMonitor.Proofs.UnsuspectedCandidates
import SuspicionMonitor.Proofs.ValidSettings
import SuspicionMonitor.Proofs.WindowMedians
import SuspicionMonitor.Protocol
import SuspicionMonitor.Random.ChaCha
import SuspicionMonitor.Random.Sample
import SuspicionMonitor.Random.Source
import SuspicionMonitor.Replica
import SuspicionMonitor.Round
import SuspicionMonitor.Sensor
import SuspicionMonitor.Settings.Basic
import SuspicionMonitor.Settings.Conversion
import SuspicionMonitor.Settings.File
import SuspicionMonitor.Settings.Layers
import SuspicionMonitor.Settings.Locations
import SuspicionMonitor.Settings.Path
import SuspicionMonitor.Settings.Reading
import SuspicionMonitor.Settings.Validation
import SuspicionMonitor.Simulation.Entanglement
import SuspicionMonitor.Simulation.Report
import SuspicionMonitor.Simulation.Scale
import SuspicionMonitor.Simulation.Scenario
import SuspicionMonitor.Stopwatch
import SuspicionMonitor.Suspicion
import SuspicionMonitor.Text.Casing
import SuspicionMonitor.Text.Lowercase
import SuspicionMonitor.Text.Scanner
import SuspicionMonitor.Toml.Dialect
import SuspicionMonitor.Toml.Document
import SuspicionMonitor.Toml.Quoted
import SuspicionMonitor.Toml.Scalar
import SuspicionMonitor.Toml.Tree
import SuspicionMonitor.View
