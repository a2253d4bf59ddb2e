import MappedTables.Main
import MappedTables.Container.HeadCursor
import MappedTables.Foreign.Lookup
import MappedTables.Foreign.Segment
import MappedTables.Segment.Document
import MappedTables.Proofs.StoredHeader
import MappedTables.Proofs.Draft.Admission
import MappedTables.Proofs.Layout.RoundUp
import MappedTables.Proofs.Draft.History
import MappedTables.Proofs.Image.Encoding
import MappedTables.Proofs.Text.Visible
import MappedTables.Proofs.Text.Utf8
import MappedTables.Proofs.Text.Lines
import MappedTables.Proofs.Text.Numerals
import MappedTables.Proofs.Draft.Source
import MappedTables.Proofs.Draft.Filling
import MappedTables.Proofs.Draft.Growth
import MappedTables.Proofs.VersionTag.Line
import MappedTables.Proofs.VersionTag.Source
import MappedTables.Proofs.Image.Writing
import MappedTables.Proofs.Image.Relocating
import MappedTables.Proofs.Image.Canonical
import MappedTables.Proofs.Image.RowReading
import MappedTables.Proofs.Image.Parts
import MappedTables.Proofs.Image.Reading
import MappedTables.Proofs.Image.Loaded
import MappedTables.Proofs.Image.Presentation
import MappedTables.Proofs.VersionTag.Binary
import MappedTables.Proofs.VersionTag.Readers
import MappedTables.Proofs.VersionTag.Recorded
import MappedTables.Proofs.VersionTag.Area
import MappedTables.Proofs.Reader.Guarded
import MappedTables.Proofs.Reader.Agreement
import MappedTables.Proofs.Reader.Stops
import MappedTables.Proofs.Reader.Readings
import MappedTables.Proofs.Reader.Terminated
import MappedTables.Proofs.Reader.Moved
import MappedTables.Proofs.Reader.Answers
import MappedTables.Proofs.Reader.WellFormed
import MappedTables.Proofs.Reader.Searches
import MappedTables.Proofs.Reader.FirstMatch
import MappedTables.Proofs.Image.Lifecycle
import MappedTables.Proofs.Image.Frame
import MappedTables.Proofs.Image.Conversion
import MappedTables.Proofs.Image.Passes
import MappedTables.Proofs.Image.LaidOut
import MappedTables.Proofs.Image.Marks
import MappedTables.Proofs.Image.Fields
import MappedTables.Proofs.Storage.Changes
import MappedTables.Proofs.Storage.Reachable
import MappedTables.Proofs.Storage.Descriptors
import MappedTables.Proofs.Error.Wording
import MappedTables.Proofs.Segment.Writing
import MappedTables.Proofs.Segment.Published
import MappedTables.Proofs.Segment.Opened
import MappedTables.Proofs.Segment.Attaching
import MappedTables.Proofs.Error.Plain
import MappedTables.Proofs.Foreign.Requests
import MappedTables.Proofs.Foreign.Failures
import MappedTables.Proofs.Foreign.Exchanges
import MappedTables.Proofs.Foreign.Ledger
import MappedTables.Proofs.Foreign.Pointers
import MappedTables.Proofs.Foreign.Columns
import MappedTables.Proofs.Foreign.Lookups
import MappedTables.Proofs.CommandLine.Failures
import MappedTables.Proofs.CommandLine.Runs
import MappedTables.Proofs.Segment.Entrances
import MappedTables.Proofs.Segment.Identity
import MappedTables.Proofs.Segment.Steps
import MappedTables.Proofs.Segment.Calls
import MappedTables.Proofs.Segment.Protocol
import MappedTables.Proofs.Foreign.Surfaces
import MappedTables.Proofs.CommandLine.Processes
import MappedTables.Proofs.CommandLine.Routes
import MappedTables.Proofs.CommandLine.Requests
import MappedTables.Proofs.CommandLine.Queries
