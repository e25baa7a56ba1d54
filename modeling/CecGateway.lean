import CecGateway.Answer
import CecGateway.Config
import CecGateway.Config.Flags
import CecGateway.Config.Layers
import CecGateway.Config.Toml
import CecGateway.Config.Toml.Table
import CecGateway.Config.Toml.Words
import CecGateway.Config.Variables
import CecGateway.Console
import CecGateway.Contract
import CecGateway.Controller
import CecGateway.Daemon
import CecGateway.Device
import CecGateway.Event
import CecGateway.Failure
import CecGateway.Fault
import CecGateway.Files
import CecGateway.Generic
import CecGateway.Handler
import CecGateway.Hardware
import CecGateway.Json.Printer
import CecGateway.Json.Reader
import CecGateway.Json.Value
import CecGateway.LogFilter
import CecGateway.LogFilter.Expression
import CecGateway.Main
import CecGateway.Message
import CecGateway.Native
import CecGateway.Number.Binary64
import CecGateway.Number.Shortest
import CecGateway.Payload
import CecGateway.Proofs.Traffic
import CecGateway.Queue
import CecGateway.Registry
import CecGateway.Reply.Interpret
import CecGateway.Reply.Scan
import CecGateway.Reply.Values
import CecGateway.Request
import CecGateway.Result
import CecGateway.Session
import CecGateway.Shell.Arithmetic
import CecGateway.Shell.Builtin
import CecGateway.Shell.Expansion
import CecGateway.Shell.Format
import CecGateway.Shell.Machine
import CecGateway.Shell.Pattern
import CecGateway.Shell.Program
import CecGateway.Shell.Run
import CecGateway.Shell.Syntax
import CecGateway.Shell.Test
import CecGateway.Shell.Variables
import CecGateway.Text.Blank
import CecGateway.Text.Decimal
import CecGateway.Text.Letters
import CecGateway.Text.Lines
import CecGateway.Text.Marker
import CecGateway.Text.Utf8
import CecGateway.Tool
import CecGateway.Proofs.Traffic.Balance
import CecGateway.Proofs.Traffic.Correlation
import CecGateway.Proofs.Traffic.Runs
import CecGateway.Proofs.Traffic.Completion
import CecGateway.Proofs.Native
import CecGateway.Proofs.RequestLine
import CecGateway.Proofs.Serving
import CecGateway.Proofs.Serving.Progress
import CecGateway.Proofs.Traffic.Quiet
import CecGateway.Proofs.Lines
import CecGateway.Proofs.Controller
import CecGateway.Proofs.Serving.Session
import CecGateway.Proofs.Serving.Answered
import CecGateway.Proofs.Acceptance
import CecGateway.Proofs.Traffic.Forwarding
import CecGateway.Proofs.Traffic.Course
import CecGateway.Proofs.Serving.Provenance
import CecGateway.Proofs.Delivery
import CecGateway.Proofs.Delivery.Registry
import CecGateway.Proofs.Queue
import CecGateway.Proofs.Delivery.Rejection
import CecGateway.Proofs.Controller.Calls
import CecGateway.Proofs.Controller.Construction
import CecGateway.Proofs.Controller.Dispatch
import CecGateway.Proofs.Delivery.Lookout
import CecGateway.Proofs.Controller.Watcher
import CecGateway.Proofs.Controller.Sightings
import CecGateway.Proofs.Traffic.Queueing
import CecGateway.Proofs.Serving.Faults
import CecGateway.Proofs.Controller.Tickets
import CecGateway.Proofs.Reply.Answers
import CecGateway.Proofs.Serving.Composition
import CecGateway.Proofs.Text.Utf8
import CecGateway.Proofs.Json.Spelling
import CecGateway.Proofs.Json.Reading
import CecGateway.Proofs.Json.Members
import CecGateway.Proofs.Json.Printing
import CecGateway.Proofs.Decoding
import CecGateway.Proofs.Answer.Shape
import CecGateway.Proofs.Lifetime
import CecGateway.Proofs.Serving.BareRequests
import CecGateway.Proofs.Delivery.Destinations
import CecGateway.Proofs.Json.Extent
import CecGateway.Proofs.Envelope
import CecGateway.Proofs.Serving.Identifiers
import CecGateway.Proofs.Reply.FirstValue
import CecGateway.Proofs.Reply.LogicalAddress
import CecGateway.Proofs.Reply.Dump
import CecGateway.Proofs.Reply.Values
import CecGateway.Proofs.Reply.Outcomes
import CecGateway.Proofs.Parameters
import CecGateway.Proofs.Serving.Terminators
import CecGateway.Proofs.Delivery.Merging
import CecGateway.Proofs.Native.Building
import CecGateway.Proofs.Native.Tokens
import CecGateway.Proofs.Text.Decimal
import CecGateway.Proofs.Deadlines
import CecGateway.Proofs.Lines.Arrival
