import Drill.Assoc
import Drill.Clock
import Drill.Cluster
import Drill.Complaint
import Drill.Fault
import Drill.Http.Controller
import Drill.Http.Cookie
import Drill.Http.Counter
import Drill.Http.Date
import Drill.Http.Digest
import Drill.Http.Exchange
import Drill.Http.Host
import Drill.Http.Library
import Drill.Http.Management
import Drill.Http.Percent
import Drill.Http.Url
import Drill.Http.Web
import Drill.Invoker.Basic
import Drill.Invoker.Control
import Drill.Invoker.Cue
import Drill.Invoker.Service
import Drill.Invoker.Step
import Drill.Json.Reader
import Drill.Json.Value
import Drill.Json.Whole
import Drill.Log.Event
import Drill.Log.Level
import Drill.Log.Line
import Drill.Log.Loggers
import Drill.Monitor
import Drill.Number.Decimal
import Drill.Number.Double
import Drill.Proofs.Agenda
import Drill.Proofs.Announced
import Drill.Proofs.Answers
import Drill.Proofs.Available
import Drill.Proofs.Course
import Drill.Proofs.Flight
import Drill.Proofs.Grace
import Drill.Proofs.History
import Drill.Proofs.Labels
import Drill.Proofs.Latch
import Drill.Proofs.Legal
import Drill.Proofs.Legible
import Drill.Proofs.Lifecycle
import Drill.Proofs.Lines
import Drill.Proofs.Literals
import Drill.Proofs.Loop
import Drill.Proofs.Onset
import Drill.Proofs.Outcome
import Drill.Proofs.Place
import Drill.Proofs.Priority
import Drill.Proofs.Pulse
import Drill.Proofs.Relaxed
import Drill.Proofs.Release
import Drill.Proofs.Reload
import Drill.Proofs.Renumbered
import Drill.Proofs.Replay
import Drill.Proofs.Round
import Drill.Proofs.Shapes
import Drill.Proofs.Standing
import Drill.Proofs.Survival
import Drill.Proofs.Tally
import Drill.Proofs.Timing
import Drill.Proofs.Toggling
import Drill.Proofs.Tokens
import Drill.Proofs.Tolerance
import Drill.Proofs.Trail
import Drill.Proofs.Unreached
import Drill.Proofs.Unseen
import Drill.Proofs.Verdict
import Drill.Proofs.Window
import Drill.Proofs.Windup
import Drill.Proofs.Work
import Drill.Run.Conduct
import Drill.Run.Progress
import Drill.Run.Session
import Drill.Script
import Drill.Settings.Basic
import Drill.Settings.File
import Drill.Settings.Library
import Drill.Settings.Overview
import Drill.Settings.Pace
import Drill.Settings.Reading
import Drill.Settings.Source
import Drill.Text.Base64
import Drill.Text.Blank
import Drill.Text.Case
import Drill.Text.Digit
import Drill.Text.Encoding
import Drill.Text.Hex
import Drill.Text.Printable
import Drill.Text.Quoted
import Drill.Text.Split
import Drill.Topology.Basic
import Drill.Topology.Shape
import Drill.Topology.Shelf
