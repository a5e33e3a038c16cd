import PodTunnels.Text.Blank
import PodTunnels.Text.Digit
import PodTunnels.Text.Grapheme
import PodTunnels.Text.Columns
import PodTunnels.Text.Lines
import PodTunnels.Text.LowerCase
import PodTunnels.Text.Quoted
import PodTunnels.Text.Split
import PodTunnels.Text.Utf8
import PodTunnels.OrderedMap
import PodTunnels.OrderedMap.Lookup
import PodTunnels.Json.Double
import PodTunnels.Json.Number
import PodTunnels.Json.Basic
import PodTunnels.Json.Lexer
import PodTunnels.Json.Parser
import PodTunnels.Json.Printer
import PodTunnels.Json.Decode
import PodTunnels.Resource
import PodTunnels.Tunnel
import PodTunnels.Failure
import PodTunnels.Resource.Parser
import PodTunnels.Port
import PodTunnels.Pod
import PodTunnels.Selection
import PodTunnels.Manifest
import PodTunnels.KeyTable
import PodTunnels.UiQueue
import PodTunnels.Kubectl.Stderr
import PodTunnels.Kubectl.Announcement
import PodTunnels.Cluster
import PodTunnels.Resolution
import PodTunnels.Session
import PodTunnels.Registry
import PodTunnels.Transport
import PodTunnels.Availability
import PodTunnels.Switchboard.Notice
import PodTunnels.Switchboard.Controller
import PodTunnels.Switchboard.Basic
import PodTunnels.Switchboard.Runner
import PodTunnels.Switchboard.Start
import PodTunnels.Switchboard.Stop
import PodTunnels.Switchboard.Dialog
import PodTunnels.Switchboard.Move
import PodTunnels.Switchboard.Schedule
import PodTunnels.Switchboard.Foreground
import PodTunnels.Config
import PodTunnels.Console.Keys
import PodTunnels.Text.Shorten
import PodTunnels.Console.Form
import PodTunnels.Console.Basic
import PodTunnels.Console.Input
import PodTunnels.Console.Desk
import PodTunnels.Console.Canvas
import PodTunnels.Console.Screen
import PodTunnels.Console.Reload
import PodTunnels.Storage.Location
import PodTunnels.Storage.FileSystem
import PodTunnels.Config.Store
import PodTunnels.Kubectl.Arguments
import PodTunnels.Host
import PodTunnels.Host.Script
import PodTunnels.Kubectl.Client
import PodTunnels.Kubectl.PortForward
import PodTunnels.Command.Report
import PodTunnels.Command.Configuration
import PodTunnels.Command.Pods
import PodTunnels.Command.Forward
import PodTunnels.CommandLine
import PodTunnels.Program
import PodTunnels.Main
import PodTunnels.Proofs.Registry
import PodTunnels.Proofs.Standing
import PodTunnels.Proofs.Turn
import PodTunnels.Proofs.Quiet
import PodTunnels.Proofs.Arrival
import PodTunnels.Proofs.Step
import PodTunnels.Proofs.Life
import PodTunnels.Proofs.Sound
import PodTunnels.Proofs.Activation
import PodTunnels.Proofs.Clash
import PodTunnels.Proofs.Ledger
import PodTunnels.Proofs.Uniqueness
import PodTunnels.Proofs.Cleanup
import PodTunnels.Proofs.Shutdown
import PodTunnels.Proofs.Drive
import PodTunnels.Proofs.RequestedClose
import PodTunnels.Proofs.Apart
import PodTunnels.Proofs.Aside
import PodTunnels.Proofs.Within
import PodTunnels.Proofs.StaleDialog
import PodTunnels.Proofs.Affair
import PodTunnels.Proofs.Claims
import PodTunnels.Proofs.Leftover
import PodTunnels.Proofs.Settling
import PodTunnels.Proofs.Settlement
import PodTunnels.Proofs.Checking
import PodTunnels.Proofs.Validation
import PodTunnels.Proofs.Lifecycle
import PodTunnels.Proofs.Dialogue
import PodTunnels.Proofs.FlowTurn
import PodTunnels.Proofs.Flows
import PodTunnels.Proofs.Verdict
import PodTunnels.Proofs.Notices
import PodTunnels.Proofs.Modal
import PodTunnels.Proofs.Agreement
import PodTunnels.Proofs.Isolation
import PodTunnels.Proofs.Cutting
import PodTunnels.Proofs.Numeral
import PodTunnels.Proofs.Chosen
import PodTunnels.Proofs.Declared
import PodTunnels.Proofs.Reloads
import PodTunnels.Proofs.Sights
import PodTunnels.Proofs.EndNotice
import PodTunnels.Proofs.PortConflict
import PodTunnels.Proofs.Mappings
import PodTunnels.Proofs.SoleStart
import PodTunnels.Proofs.Foreground
import PodTunnels.Proofs.Deletion
import PodTunnels.Proofs.Readiness
import PodTunnels.Proofs.LastLines
import PodTunnels.Proofs.Resolution
import PodTunnels.Proofs.ByteOrder
import PodTunnels.Proofs.PodObjects
import PodTunnels.Proofs.StartForm
import PodTunnels.Proofs.Cursors
import PodTunnels.Proofs.Instant
import PodTunnels.Proofs.Deadlines
import PodTunnels.Proofs.Decoding
import PodTunnels.Proofs.Scanning
import PodTunnels.Proofs.JsonText
import PodTunnels.Proofs.Files
import PodTunnels.Proofs.Directories
import PodTunnels.Proofs.Configuration
import PodTunnels.Proofs.Replacement
import PodTunnels.Proofs.Binding
import PodTunnels.Proofs.PortZero
import PodTunnels.Proofs.Answering
import PodTunnels.Proofs.LetterCase
import PodTunnels.Proofs.Listing
import PodTunnels.Proofs.Patience
import PodTunnels.Proofs.Loading
import PodTunnels.Proofs.PortTexts
import PodTunnels.Proofs.Queueing
import PodTunnels.Proofs.Targets
import PodTunnels.Proofs.Views
