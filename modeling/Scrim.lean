import Scrim.Alarm
import Scrim.Animation
import Scrim.Blanking
import Scrim.Callback
import Scrim.Catalog
import Scrim.Color
import Scrim.CommandLine.Arguments
import Scrim.CommandLine.Commands
import Scrim.CommandLine.Help
import Scrim.CommandLine.Run
import Scrim.Config
import Scrim.Config.Decode
import Scrim.Config.Limits
import Scrim.Config.Location
import Scrim.Controller
import Scrim.Controller.Dump
import Scrim.Controller.Environment
import Scrim.Controller.Gesture
import Scrim.Controller.HostEvent
import Scrim.Controller.Operation
import Scrim.Controller.Transition
import Scrim.Controller.Update
import Scrim.Curve
import Scrim.Decimal.Binary
import Scrim.Decimal.Fixed
import Scrim.Decimal.Layout
import Scrim.Decimal.Shortest
import Scrim.Error
import Scrim.Expansion
import Scrim.Failure
import Scrim.FileTree
import Scrim.Files
import Scrim.Host
import Scrim.Json
import Scrim.Layer
import Scrim.Log
import Scrim.Main
import Scrim.Proofs.Acceptance
import Scrim.Proofs.Agenda
import Scrim.Proofs.Agenda.HostEvent
import Scrim.Proofs.Agenda.Request
import Scrim.Proofs.Agenda.Step
import Scrim.Proofs.Agenda.Update
import Scrim.Proofs.Answer
import Scrim.Proofs.Arguments
import Scrim.Proofs.Arrival
import Scrim.Proofs.Attempt
import Scrim.Proofs.BlankFrame
import Scrim.Proofs.BlankProtocol
import Scrim.Proofs.Cadence
import Scrim.Proofs.Callbacks
import Scrim.Proofs.Checked
import Scrim.Proofs.Checked.EventLoop
import Scrim.Proofs.Checked.Operation
import Scrim.Proofs.Checked.Replay
import Scrim.Proofs.Collapse
import Scrim.Proofs.ColorCodes
import Scrim.Proofs.Cover
import Scrim.Proofs.Custody
import Scrim.Proofs.Delivery
import Scrim.Proofs.DisplayBlanked
import Scrim.Proofs.Driven
import Scrim.Proofs.EarlyUnlock
import Scrim.Proofs.Fronted
import Scrim.Proofs.Guard
import Scrim.Proofs.Hearing
import Scrim.Proofs.Hearing.Attuned
import Scrim.Proofs.Hearing.Step
import Scrim.Proofs.LastFrame
import Scrim.Proofs.Lease
import Scrim.Proofs.Ledger
import Scrim.Proofs.Ledger.Step
import Scrim.Proofs.Ledger.Update
import Scrim.Proofs.Lifetime
import Scrim.Proofs.Livery
import Scrim.Proofs.LowPower
import Scrim.Proofs.Notifications
import Scrim.Proofs.Number
import Scrim.Proofs.Occlusion
import Scrim.Proofs.Opacity
import Scrim.Proofs.Opacity.Trial
import Scrim.Proofs.Outlook
import Scrim.Proofs.Pace
import Scrim.Proofs.Painting
import Scrim.Proofs.Quiescence
import Scrim.Proofs.Rearming
import Scrim.Proofs.Refusal
import Scrim.Proofs.Reliability
import Scrim.Proofs.Replay
import Scrim.Proofs.Resolution
import Scrim.Proofs.Rest
import Scrim.Proofs.Rounds
import Scrim.Proofs.Run
import Scrim.Proofs.Scene
import Scrim.Proofs.Settling
import Scrim.Proofs.Sight
import Scrim.Proofs.Sound
import Scrim.Proofs.Splitting
import Scrim.Proofs.Standing
import Scrim.Proofs.StartNotice
import Scrim.Proofs.StateTable
import Scrim.Proofs.Steady
import Scrim.Proofs.Surroundings
import Scrim.Proofs.Timely
import Scrim.Proofs.Unlocked
import Scrim.Proofs.Work
import Scrim.Report
import Scrim.Scenario
import Scrim.Scenario.Decode
import Scrim.Scenario.Replay
import Scrim.Scheduler
import Scrim.Simulation
import Scrim.Simulation.EventLoop
import Scrim.State
import Scrim.StateTable
import Scrim.Surface
import Scrim.Time
import Scrim.Toml.Blank
import Scrim.Toml.Decode
import Scrim.Toml.Document
import Scrim.Toml.Moment
import Scrim.Toml.Node
import Scrim.Toml.Number
import Scrim.Toml.Quoted
import Scrim.Toml.Reader
import Scrim.Trace
import Scrim.Visibility
import Scrim.WakeLock
import Scrim.Proofs.FrameClock
