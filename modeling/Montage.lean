import Montage.Main
import Montage.Media.Bench
import Montage.Proofs.Pool.Slots
import Montage.Proofs.Pool.Moves
import Montage.Proofs.Pool.Tidy
import Montage.Proofs.Pool.Order
import Montage.Proofs.Pool.Notes
import Montage.Proofs.Pool.Polls
import Montage.Proofs.Pool.Works
import Montage.Proofs.Pool.Runs
import Montage.Proofs.Pool.Handles
import Montage.Proofs.Pool.Background
import Montage.Proofs.Preview.Passes
import Montage.Proofs.Preview.Staging
import Montage.Proofs.Preview.Turns
import Montage.Proofs.Preview.Drawing
import Montage.Proofs.Timeline.ClipMaps
import Montage.Proofs.Output.Agreement
import Montage.Proofs.Output.Styles
import Montage.Proofs.Output.Histories
import Montage.Proofs.Playback.Requests
import Montage.Proofs.Preview.Scenes
import Montage.Proofs.Preview.Waits
import Montage.Proofs.Preview.Sync
import Montage.Proofs.Preview.Stacks
import Montage.Proofs.Preview.Rest
import Montage.Proofs.Preview.Refreshes
import Montage.Proofs.Timeline.ActiveSets
import Montage.Proofs.Timeline.Submissions
import Montage.Proofs.Playback.Runs
import Montage.Proofs.Playback.Open
import Montage.Proofs.Playback.Events
import Montage.Proofs.Playback.Advances
import Montage.Proofs.Playback.Ticks
import Montage.Proofs.Playback.Elapsed
import Montage.Proofs.Json.ReadBack
import Montage.Proofs.Json.Texts
import Montage.Proofs.Timeline.Identifiers
import Montage.Proofs.Timeline.Files
import Montage.Proofs.Timeline.Versions
import Montage.Proofs.Pool.Steps
import Montage.Proofs.Pool.Contests
import Montage.Proofs.Pool.Queues
import Montage.Proofs.Pool.Crowds
import Montage.Proofs.Pool.Duels
import Montage.Proofs.Pool.Abandonment
import Montage.Proofs.Pool.Elements
import Montage.Proofs.Pool.Pauses
import Montage.Proofs.Pool.Alone
import Montage.Proofs.Pool.Asks
import Montage.Proofs.Pool.Answers
import Montage.Proofs.Pool.Unbound
import Montage.Proofs.Pool.Sources
import Montage.Proofs.Pool.Constancy
import Montage.Proofs.Pool.Pins
import Montage.Proofs.Preview.Journeys
import Montage.Proofs.Preview.Sources
import Montage.Proofs.Preview.Walks
import Montage.Proofs.Preview.Rosters
import Montage.Proofs.Preview.Running
import Montage.Proofs.Preview.Lingering
import Montage.Proofs.Pool.Clocks
import Montage.Proofs.Preview.Times
import Montage.Proofs.Playback.Pending
import Montage.Proofs.Preview.Uses
import Montage.Proofs.Preview.Callbacks
import Montage.Proofs.Output.Presence
import Montage.Proofs.Pool.Closing
import Montage.Proofs.Pool.Acquiring
import Montage.Proofs.Pool.Recency
import Montage.Proofs.Pool.Takings
import Montage.Proofs.Pool.Residents
import Montage.Proofs.Preview.Disposal
import Montage.Proofs.Timeline.Upgrades
import Montage.Proofs.Timeline.Seconds
import Montage.Proofs.Timeline.Entries
import Montage.Proofs.Time.Quotients
import Montage.Proofs.Timeline.Upcoming
import Montage.Proofs.Preview.Reach
import Montage.Proofs.Preview.Recurrence
import Montage.Proofs.Visual.Keyframes
import Montage.Proofs.Time.Microseconds
import Montage.Proofs.Visual.Progress
import Montage.Proofs.Visual.Stillness
import Montage.Proofs.Visual.Shifts
import Montage.Proofs.Floats
import Montage.Proofs.Playback.Rates
import Montage.Proofs.Playback.Overflows
import Montage.Proofs.Pool.Vacancies
import Montage.Proofs.Preview.Solitude
import Montage.Proofs.Preview.Summaries
import Montage.Proofs.Visual.Fades
import Montage.Proofs.Timeline.Lookups
import Montage.Proofs.Timeline.DecimalRates
import Montage.Proofs.Pool.Liveness
