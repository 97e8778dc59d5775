import DurableTrivia.Lib.Filling
import DurableTrivia.Lib.MapSum
import DurableTrivia.Lib.Suffix
import DurableTrivia.Lib.System
import DurableTrivia.Lib.Urn
import DurableTrivia.Shared.Contract
import DurableTrivia.Lib.Window
import DurableTrivia.Shared.EventWindow
import DurableTrivia.Lib.Json
import DurableTrivia.Lib.JsonRecords
import DurableTrivia.Shared.Wire
import DurableTrivia.Shared.History
import DurableTrivia.Web.Deck
import DurableTrivia.Web.DeckConservation
import DurableTrivia.Web.Model
import DurableTrivia.Web.GameWorkflow
import DurableTrivia.Web.RoundLoop
import DurableTrivia.Web.RoundSteps
import DurableTrivia.Web.Modifiers
import DurableTrivia.Web.RustOnly
import DurableTrivia.Web.RoundInvariant
import DurableTrivia.Web.EndRound
import DurableTrivia.Web.Exits
import DurableTrivia.Web.ActivityIds
import DurableTrivia.Web.Refusals
import DurableTrivia.Lib.Ledger
import DurableTrivia.Web.ScoreLedger
import DurableTrivia.Web.Index
import DurableTrivia.Web.Scheduling
import DurableTrivia.Web.Handoffs
import DurableTrivia.Web.Recovery
import DurableTrivia.Web.Powerups
import DurableTrivia.Web.Deadline
import DurableTrivia.Web.Slot
import DurableTrivia.Firmware.SessionRuns
import DurableTrivia.Lib.Tasks
import DurableTrivia.Web.Controller
import DurableTrivia.Web.ControllerInvariant
import DurableTrivia.Web.Board
import DurableTrivia.Web.Restarts
import DurableTrivia.Web.Continuity
import DurableTrivia.Web.Page
import DurableTrivia.Web.Wedge
import DurableTrivia.Web.Intermission
import DurableTrivia.Firmware.Buttons
import DurableTrivia.Firmware.Session
import DurableTrivia.Firmware.Ui
import DurableTrivia.Firmware.Badge
import DurableTrivia.Firmware.Questions
import DurableTrivia.Firmware.Choices
import DurableTrivia.Firmware.Custody
import DurableTrivia.Firmware.Release
import DurableTrivia.BadgeScreen.Wrap
import DurableTrivia.BadgeScreen.Words
import DurableTrivia.Web.Questions
import DurableTrivia.BadgeScreen.Question
import DurableTrivia.Firmware.Watcher
import DurableTrivia.Firmware.LiveQuestion
import DurableTrivia.Firmware.Heartbeat
import DurableTrivia.Firmware.GiveUp
import DurableTrivia.Web.Refill
import DurableTrivia.Shared.Identity
import DurableTrivia.Web.Pollers
import DurableTrivia.Lib.Ranking
import DurableTrivia.Shared.Standings
import DurableTrivia.BadgeScreen.Results
import DurableTrivia.Web.Lanes
import DurableTrivia.Lib.Rounds
import DurableTrivia.Lib.Bytes
import DurableTrivia.Web.Pools
import DurableTrivia.BadgeScreen.Fold
import DurableTrivia.Web.BuildDeck
import DurableTrivia.Web.DeckBuilt
import DurableTrivia.Web.DeckMix
import DurableTrivia.Web.DeckRenderable
import DurableTrivia.Web.InFlight
import DurableTrivia.Firmware.Play
import DurableTrivia.Firmware.Verdicts
import DurableTrivia.Lib.Painting
import DurableTrivia.BadgeScreen.Canvas
import DurableTrivia.BadgeScreen.Faces
import DurableTrivia.BadgeScreen.Drawing
import DurableTrivia.BadgeScreen.Regions
import DurableTrivia.BadgeScreen.Parts
import DurableTrivia.BadgeScreen.Labels
import DurableTrivia.BadgeScreen.Centered
import DurableTrivia.BadgeScreen.Screens
import DurableTrivia.Lib.Mealy
import DurableTrivia.Firmware.Sleep
import DurableTrivia.Lib.Bus
import DurableTrivia.Firmware.Chips
import DurableTrivia.Firmware.Matrix
import DurableTrivia.Firmware.Flashes
import DurableTrivia.Firmware.Haptics
import DurableTrivia.Firmware.Display
import DurableTrivia.Firmware.BadgeUi
import DurableTrivia.Firmware.Glass
import DurableTrivia.Firmware.Gestures
import DurableTrivia.Firmware.Rolls
import DurableTrivia.Firmware.Holds
import DurableTrivia.Firmware.Injected
import DurableTrivia.Firmware.Notices
import DurableTrivia.Lib.Framing
import DurableTrivia.Firmware.Hil
import DurableTrivia.Lib.Quoting
import DurableTrivia.Shared.Env
import DurableTrivia.Shared.EnvValues
import DurableTrivia.Lib.Records
import DurableTrivia.Shared.EnvLines
import DurableTrivia.Shared.EnvRoundTrip
