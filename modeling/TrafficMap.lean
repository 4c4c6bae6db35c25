import TrafficMap.Archive.Reader
import TrafficMap.Archive.Writer
import TrafficMap.Command.Arguments
import TrafficMap.Command.Launch
import TrafficMap.Endpoint.Fetch
import TrafficMap.Endpoint.Problem
import TrafficMap.Json.Basic
import TrafficMap.Json.Fault
import TrafficMap.Json.NumberReader
import TrafficMap.Json.Printer
import TrafficMap.Json.Reader
import TrafficMap.Json.Scan
import TrafficMap.Json.Skip
import TrafficMap.Json.StringReader
import TrafficMap.Json.Typed
import TrafficMap.Json5.Basic
import TrafficMap.Json5.Document
import TrafficMap.Json5.Meaning
import TrafficMap.Json5.Token
import TrafficMap.Json5.Typed
import TrafficMap.Log.Filter
import TrafficMap.Log.Pattern
import TrafficMap.Log.Record
import TrafficMap.Main
import TrafficMap.Number.Binary
import TrafficMap.Number.Scalar
import TrafficMap.Number.Shortest
import TrafficMap.Number.Word
import TrafficMap.Poll.Age
import TrafficMap.Poll.Status
import TrafficMap.Proofs.Endpoint.Answer
import TrafficMap.Proofs.Json.Members
import TrafficMap.Proofs.Json5.Edits
import TrafficMap.Proofs.Json5.Records
import TrafficMap.Proofs.Number.Comparison
import TrafficMap.Proofs.Number.Magnitude
import TrafficMap.Proofs.Number.MinusSign
import TrafficMap.Proofs.Number.NearestEven
import TrafficMap.Proofs.Number.Overflow
import TrafficMap.Proofs.Number.Packing
import TrafficMap.Proofs.Number.Sign
import TrafficMap.Proofs.Poll.Ages
import TrafficMap.Proofs.Poll.Bookkeeping
import TrafficMap.Proofs.Report.Document
import TrafficMap.Proofs.Report.Entries
import TrafficMap.Proofs.Report.Leniency
import TrafficMap.Proofs.Report.LinkSelection
import TrafficMap.Proofs.Report.Litter
import TrafficMap.Proofs.Report.NormalForm
import TrafficMap.Proofs.Report.Position
import TrafficMap.Proofs.Report.RoundTrip
import TrafficMap.Proofs.Report.ServiceSelection
import TrafficMap.Proofs.Session.Exchange
import TrafficMap.Proofs.Session.Freshness
import TrafficMap.Proofs.Session.HitService
import TrafficMap.Proofs.Session.Independence
import TrafficMap.Proofs.Session.LastGood
import TrafficMap.Proofs.Session.Pointer
import TrafficMap.Proofs.Session.Selection
import TrafficMap.Proofs.Session.SizeReports
import TrafficMap.Proofs.Session.Update
import TrafficMap.Proofs.Settings.Defaults
import TrafficMap.Proofs.Settings.EndpointUrl
import TrafficMap.Proofs.Settings.Sections
import TrafficMap.Proofs.Simulation.Outages
import TrafficMap.Proofs.Simulation.Rates
import TrafficMap.Proofs.Simulation.Traffic
import TrafficMap.Proofs.Text.Capital
import TrafficMap.Proofs.Text.Padding
import TrafficMap.Proofs.Text.Pieces
import TrafficMap.Proofs.Text.Utf8
import TrafficMap.Proofs.Topology.Conservation
import TrafficMap.Proofs.Topology.DisplayName
import TrafficMap.Proofs.Topology.FirstOccurrence
import TrafficMap.Proofs.Topology.Neighbours
import TrafficMap.Proofs.Topology.Registration
import TrafficMap.Proofs.Url.Trail
import TrafficMap.Proofs.View.Disc
import TrafficMap.Proofs.View.LinkCurve
import TrafficMap.Proofs.View.NameLines
import TrafficMap.Proofs.View.Picture
import TrafficMap.Proofs.View.RateAccuracy
import TrafficMap.Proofs.View.RateReading
import TrafficMap.Proofs.View.RateSign
import TrafficMap.Proofs.View.RateUnits
import TrafficMap.Proofs.View.Similarity
import TrafficMap.Report.Basic
import TrafficMap.Report.Entry
import TrafficMap.Report.Normal
import TrafficMap.Report.Reader
import TrafficMap.Report.Writer
import TrafficMap.Session.Canvas
import TrafficMap.Session.Map
import TrafficMap.Session.Panel
import TrafficMap.Session.Source
import TrafficMap.Session.State
import TrafficMap.Settings.Basic
import TrafficMap.Settings.Check
import TrafficMap.Settings.File
import TrafficMap.Settings.Reader
import TrafficMap.Simulation.Random
import TrafficMap.Simulation.Simulator
import TrafficMap.Text.Alphanumeric
import TrafficMap.Text.Blank
import TrafficMap.Text.Canonical
import TrafficMap.Text.Category
import TrafficMap.Text.Parsed
import TrafficMap.Text.Quoted
import TrafficMap.Text.Table
import TrafficMap.Text.Terminal
import TrafficMap.Text.Uppercase
import TrafficMap.Time.Timestamp
import TrafficMap.Topology.Basic
import TrafficMap.Topology.Registry
import TrafficMap.Topology.Snapshot
import TrafficMap.Url.Address
import TrafficMap.Url.Basic
import TrafficMap.Url.Direction
import TrafficMap.Url.Domain
import TrafficMap.Url.Joining
import TrafficMap.Url.NameForm
import TrafficMap.Url.Punycode
import TrafficMap.Url.Reader
import TrafficMap.View.Frame
import TrafficMap.View.Mark
import TrafficMap.View.Painting
import TrafficMap.View.Palette
import TrafficMap.View.Projection
import TrafficMap.View.Rate
