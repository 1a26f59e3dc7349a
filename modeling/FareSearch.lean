import FareSearch.Calendar.Date
import FareSearch.Calendar.Reader
import FareSearch.Calendar.Timestamp
import FareSearch.Calendar.Writer
import FareSearch.CommandLine.Arguments
import FareSearch.CommandLine.Invocation
import FareSearch.CommandLine.Program
import FareSearch.CommandLine.Word
import FareSearch.Criteria.Basic
import FareSearch.Criteria.Error
import FareSearch.Criteria.Filters
import FareSearch.Criteria.Key
import FareSearch.Criteria.Sort
import FareSearch.Criteria.Wire
import FareSearch.Flight.Basic
import FareSearch.Flight.Wire
import FareSearch.Json.Reader
import FareSearch.Json.Record
import FareSearch.Json.Value
import FareSearch.Json.Writer
import FareSearch.Leg.Duplicates
import FareSearch.Leg.Eligibility
import FareSearch.Leg.Offers
import FareSearch.Leg.Ranking
import FareSearch.Main
import FareSearch.Money.Amount
import FareSearch.Money.AmountReader
import FareSearch.Money.Rupiah
import FareSearch.Number.Binary64
import FareSearch.Number.FixedPlaces
import FareSearch.Number.Powers
import FareSearch.Number.Reader
import FareSearch.Number.RealReader
import FareSearch.Number.Rounding
import FareSearch.Number.Shortest
import FareSearch.Proofs.Calendar.DayNumber
import FareSearch.Proofs.Calendar.Instant
import FareSearch.Proofs.Calendar.Moved
import FareSearch.Proofs.Calendar.ReadBack
import FareSearch.Proofs.Calendar.Writer
import FareSearch.Proofs.Criteria.Accepted
import FareSearch.Proofs.Criteria.ExactKey
import FareSearch.Proofs.Criteria.FilterKey
import FareSearch.Proofs.Criteria.Key
import FareSearch.Proofs.Criteria.ReadBack
import FareSearch.Proofs.Criteria.Reanchored
import FareSearch.Proofs.Criteria.Tightened
import FareSearch.Proofs.Criteria.WayBack
import FareSearch.Proofs.Json.Members
import FareSearch.Proofs.Json.ReadBack
import FareSearch.Proofs.Leg.Again
import FareSearch.Proofs.Leg.Comparison
import FareSearch.Proofs.Leg.Contradictions
import FareSearch.Proofs.Leg.Distinct
import FareSearch.Proofs.Leg.Duplicates
import FareSearch.Proofs.Leg.Durations
import FareSearch.Proofs.Leg.Keys
import FareSearch.Proofs.Leg.LetterCase
import FareSearch.Proofs.Leg.Offers
import FareSearch.Proofs.Leg.Order
import FareSearch.Proofs.Leg.ReturnWindows
import FareSearch.Proofs.Leg.Scores
import FareSearch.Proofs.Money.ReadBack
import FareSearch.Proofs.Money.Rupiah
import FareSearch.Proofs.Money.Value
import FareSearch.Proofs.Money.Writer
import FareSearch.Proofs.Number.Digits
import FareSearch.Proofs.Number.Rounding
import FareSearch.Proofs.Provider.Backoff
import FareSearch.Proofs.Provider.Callers
import FareSearch.Proofs.Provider.Limited
import FareSearch.Proofs.Provider.RetriedCalls
import FareSearch.Proofs.Provider.Schedule
import FareSearch.Proofs.Search.Accounts
import FareSearch.Proofs.Search.Agreement
import FareSearch.Proofs.Search.Cache
import FareSearch.Proofs.Search.CacheLog
import FareSearch.Proofs.Search.Course
import FareSearch.Proofs.Search.Isolation
import FareSearch.Proofs.Search.LimitedTrip
import FareSearch.Proofs.Search.Offers
import FareSearch.Proofs.Search.Passage
import FareSearch.Proofs.Search.RacingCache
import FareSearch.Proofs.Search.Replay
import FareSearch.Proofs.Search.RoundTrip
import FareSearch.Proofs.Search.Trace
import FareSearch.Proofs.Text.Joined
import FareSearch.Proofs.Text.Lowercase
import FareSearch.Proofs.Timed.Alone
import FareSearch.Provider.Basic
import FareSearch.Provider.Limiter
import FareSearch.Provider.Random
import FareSearch.Provider.Retry
import FareSearch.Provider.Scripted
import FareSearch.Provider.Simulated
import FareSearch.Report.Duration
import FareSearch.Report.Table
import FareSearch.Report.View
import FareSearch.Search.Cache
import FareSearch.Search.FanOut
import FareSearch.Search.Outcome
import FareSearch.Search.OutcomeWire
import FareSearch.Search.Service
import FareSearch.Settings.Assignment
import FareSearch.Settings.Basic
import FareSearch.Settings.Directory
import FareSearch.Settings.EnvironmentFile
import FareSearch.Settings.EnvironmentLines
import FareSearch.Settings.Format
import FareSearch.Settings.Ini
import FareSearch.Settings.Json5
import FareSearch.Settings.Ron
import FareSearch.Settings.Sources
import FareSearch.Settings.Toml.Document
import FareSearch.Settings.Toml.Scalar
import FareSearch.Settings.Yaml.Document
import FareSearch.Settings.Yaml.Flow
import FareSearch.Settings.Yaml.Node
import FareSearch.Text.AlphanumericTable
import FareSearch.Text.Blank
import FareSearch.Text.CaseTable
import FareSearch.Text.HiddenTable
import FareSearch.Text.Lowercase
import FareSearch.Text.Quoted
import FareSearch.Text.Ranges
import FareSearch.Text.Series
import FareSearch.Timed.Crowd
import FareSearch.Timed.Task
