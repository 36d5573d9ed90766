import Sketchbook.Autosave.Editor
import Sketchbook.Autosave.QuietQueue
import Sketchbook.Autosave.Session
import Sketchbook.CommandLine.Grammar
import Sketchbook.CommandLine.Reader
import Sketchbook.CommandLine.Run
import Sketchbook.CommandLine.Usage
import Sketchbook.Config
import Sketchbook.Decimal.Binary64
import Sketchbook.Decimal.Notation
import Sketchbook.Decimal.Numeral
import Sketchbook.Decimal.Shortest
import Sketchbook.Disk.Basic
import Sketchbook.Disk.Changes
import Sketchbook.Disk.Path
import Sketchbook.Document.Content
import Sketchbook.Document.Descriptor
import Sketchbook.Document.Id
import Sketchbook.Document.Library
import Sketchbook.Document.Model
import Sketchbook.Document.Uuid
import Sketchbook.Entries
import Sketchbook.Environment
import Sketchbook.Json.Basic
import Sketchbook.Json.Cause
import Sketchbook.Json.Error
import Sketchbook.Json.Literal
import Sketchbook.Json.Printer
import Sketchbook.Json.Reader
import Sketchbook.Json.Shape
import Sketchbook.Json.Skip
import Sketchbook.Json.Typed
import Sketchbook.Main
import Sketchbook.Notice
import Sketchbook.Output
import Sketchbook.Preference.Basic
import Sketchbook.Preference.Key
import Sketchbook.Preference.Store
import Sketchbook.Proofs.Autosave.Fates
import Sketchbook.Proofs.Autosave.Ledger
import Sketchbook.Proofs.Autosave.Run
import Sketchbook.Proofs.Autosave.SingleKey
import Sketchbook.Proofs.Autosave.Tickets
import Sketchbook.Proofs.Disk.Files
import Sketchbook.Proofs.Failing
import Sketchbook.Proofs.Json.Number
import Sketchbook.Proofs.Json.Text
import Sketchbook.Proofs.Store.Texts
import Sketchbook.SortedMap
import Sketchbook.Store.Directory
import Sketchbook.Store.Error
import Sketchbook.Store.Memory
import Sketchbook.Store.Records
import Sketchbook.Text.Blank
import Sketchbook.Text.ByteSize
import Sketchbook.Text.Lines
import Sketchbook.Text.PercentEncoding
import Sketchbook.Text.Quoted
import Sketchbook.Text.Separated
import Sketchbook.Text.Unprintable
import Sketchbook.Toml.Basic
import Sketchbook.Toml.Literal
import Sketchbook.Toml.Reader
import Sketchbook.Workspace.Basic
import Sketchbook.Workspace.Command
import Sketchbook.Workspace.Documents
import Sketchbook.Workspace.Error
import Sketchbook.Workspace.Preferences
import Sketchbook.Proofs.Autosave.Polling
import Sketchbook.Proofs.Autosave.Convergence
import Sketchbook.Proofs.Json.RoundTrip
import Sketchbook.Proofs.Document.Content
import Sketchbook.Proofs.Autosave.Reopening
import Sketchbook.Proofs.Autosave.Visits
import Sketchbook.Proofs.Disk.Paths
import Sketchbook.Proofs.Disk.Parents
import Sketchbook.Proofs.Text.PercentEncoding
import Sketchbook.Proofs.Store.Directory
import Sketchbook.Proofs.Autosave.Switching
import Sketchbook.Proofs.Autosave.Hydration
import Sketchbook.Proofs.Autosave.Coherence
import Sketchbook.Proofs.Document.Ids
import Sketchbook.Proofs.Document.Requests
import Sketchbook.Proofs.Json.Lines
import Sketchbook.Proofs.Autosave.SessionCalls
import Sketchbook.Proofs.Autosave.Sessions
import Sketchbook.Proofs.Autosave.Paired
import Sketchbook.Proofs.Autosave.Outages
import Sketchbook.Proofs.Preference.Durable
import Sketchbook.Proofs.Disk.Footprints
import Sketchbook.Proofs.Preference.Footprints
import Sketchbook.Proofs.Store.Footprints
import Sketchbook.Proofs.Json.Texts
import Sketchbook.Proofs.Preference.Forms
import Sketchbook.Proofs.Workspace.Changes
import Sketchbook.Proofs.Workspace.Runs
import Sketchbook.Proofs.Workspace.WellFormed
import Sketchbook.Proofs.Workspace.Outcomes
import Sketchbook.Proofs.Workspace.CurrentDocument
import Sketchbook.Proofs.Workspace.Layout
import Sketchbook.Proofs.Workspace.Alike
import Sketchbook.Proofs.Workspace.Separation
import Sketchbook.Proofs.Document.RecordNames
import Sketchbook.Proofs.Store.Listing
import Sketchbook.Proofs.Document.Listing
import Sketchbook.Proofs.Workspace.Storing
import Sketchbook.Proofs.Autosave.QueueCalls
import Sketchbook.Proofs.Autosave.QueueBooks
import Sketchbook.Proofs.Autosave.PayloadFates
import Sketchbook.Proofs.Autosave.Deadlines
import Sketchbook.Proofs.Autosave.Flushing
import Sketchbook.Proofs.Autosave.Opening
import Sketchbook.Proofs.Autosave.Refusals
import Sketchbook.Proofs.Preference.Lists
import Sketchbook.Proofs.Autosave.Draining
import Sketchbook.Proofs.Autosave.LastPayloads
import Sketchbook.Proofs.Document.Validity
import Sketchbook.Proofs.Workspace.Setting
