import Telemetry.Backend.Endpoint
import Telemetry.Backend.Fetch
import Telemetry.Backend.Refresh
import Telemetry.Backend.Status
import Telemetry.Binary64.Arithmetic
import Telemetry.Binary64.Basic
import Telemetry.Chart.Basic
import Telemetry.Chart.History
import Telemetry.Chart.Plot
import Telemetry.CommandLine.Arguments
import Telemetry.CommandLine.Mistake
import Telemetry.CommandLine.Plan
import Telemetry.CommandLine.Similarity
import Telemetry.CommandLine.Switch
import Telemetry.Dashboard
import Telemetry.Decimal.Fixed
import Telemetry.Decimal.Shortest
import Telemetry.Json.Fault
import Telemetry.Json.Number
import Telemetry.Json.Printer
import Telemetry.Json.Reader
import Telemetry.Json.Record
import Telemetry.Json.Scan
import Telemetry.Json.Skip
import Telemetry.Main
import Telemetry.Panel
import Telemetry.Readout.ByteSize
import Telemetry.Readout.Label
import Telemetry.Readout.Uptime
import Telemetry.Screen.Basic
import Telemetry.Screen.Projection
import Telemetry.Session.Basic
import Telemetry.Session.Drawing
import Telemetry.Session.Input
import Telemetry.Session.Key
import Telemetry.Settings.Check
import Telemetry.Settings.Config
import Telemetry.Settings.File
import Telemetry.Settings.Location
import Telemetry.Snapshot.Basic
import Telemetry.Snapshot.Body
import Telemetry.Storage.Fault
import Telemetry.Storage.Log
import Telemetry.Terminal.Ansi
import Telemetry.Terminal.Border
import Telemetry.Terminal.Braille
import Telemetry.Terminal.Canvas
import Telemetry.Terminal.ChartView
import Telemetry.Terminal.FieldList
import Telemetry.Terminal.Header
import Telemetry.Terminal.TableView
import Telemetry.Text.Measure
import Telemetry.Text.Quoted
import Telemetry.Text.Split
import Telemetry.Text.Unprinted
import Telemetry.Text.Utf8
import Telemetry.Text.Width
import Telemetry.Url.Address
import Telemetry.Url.Basic
import Telemetry.Url.Domain
import Telemetry.Url.Fault
import Telemetry.Url.Host
import Telemetry.Url.Percent
import Telemetry.Url.Punycode
import Telemetry.Url.Reference
import Telemetry.Url.Segments
import Telemetry.Window
import Telemetry.Proofs.Screen.Ownership
import Telemetry.Proofs.Dashboard.Accepted
import Telemetry.Proofs.Dashboard.Freshness
import Telemetry.Proofs.Dashboard.Isolation
import Telemetry.Proofs.Dashboard.Restriction
import Telemetry.Proofs.Dashboard.Projection
import Telemetry.Proofs.Chart.Advance
import Telemetry.Proofs.Backend.Delivery
import Telemetry.Proofs.Polling.Basic
import Telemetry.Proofs.Dashboard.Display
import Telemetry.Proofs.Polling.Convergence
import Telemetry.Proofs.Chart.Sliding
import Telemetry.Proofs.Json.Tree
import Telemetry.Proofs.Json.Outcome
import Telemetry.Proofs.Json.Characters
import Telemetry.Proofs.Json.Numerals
import Telemetry.Proofs.Json.Skipping
import Telemetry.Proofs.Json.Values
import Telemetry.Proofs.Json.Records
import Telemetry.Proofs.Json.Schema
import Telemetry.Proofs.Json.Printing
import Telemetry.Proofs.Settings.Reload
import Telemetry.Proofs.Backend.Request
import Telemetry.Proofs.Backend.Whole
import Telemetry.Proofs.Session.Navigation
import Telemetry.Proofs.Session.Interleaving
import Telemetry.Proofs.Json.Continuation
import Telemetry.Proofs.Json.Delimited
import Telemetry.Proofs.Json.Bracketed
import Telemetry.Proofs.Json.Truncation
import Telemetry.Proofs.CommandLine.OneUrl
import Telemetry.Proofs.Settings.Effective
import Telemetry.Proofs.Window.Pushes
import Telemetry.Proofs.Window.Columns
import Telemetry.Proofs.Dashboard.MetricFields
import Telemetry.Proofs.Text.Split
import Telemetry.Proofs.Url.Escapes
import Telemetry.Proofs.Url.Settled
import Telemetry.Proofs.Backend.Endpoints
import Telemetry.Proofs.Binary64.Finite
import Telemetry.Proofs.Decimal.Placed
import Telemetry.Proofs.Readout.ByteSize
import Telemetry.Proofs.Binary64.Value
import Telemetry.Proofs.Readout.Uptime
import Telemetry.Proofs.Json.Integers
import Telemetry.Proofs.Json.Places
import Telemetry.Proofs.Json.IntegerFields
import Telemetry.Proofs.Decimal.Signed
import Telemetry.Proofs.Text.Elision
import Telemetry.Proofs.Readout.MetricValue
import Telemetry.Proofs.Binary64.Range
import Telemetry.Proofs.Json.Provenance
import Telemetry.Proofs.Json.FiniteNumbers
import Telemetry.Proofs.Dashboard.FiniteValues
import Telemetry.Proofs.Terminal.Canvas
import Telemetry.Proofs.Terminal.Table
import Telemetry.Proofs.Terminal.Addresses
import Telemetry.Proofs.Chart.Lines
