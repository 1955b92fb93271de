import ScriptBridge.Binding.Keymap
import ScriptBridge.Binding.Section
import ScriptBridge.Bus.Bridge
import ScriptBridge.Bus.Broadcast
import ScriptBridge.Bus.Pump
import ScriptBridge.Cli.Arguments
import ScriptBridge.Cli.Journal
import ScriptBridge.Cli.Reports
import ScriptBridge.Cli.Run
import ScriptBridge.Coercion
import ScriptBridge.Config.Reading
import ScriptBridge.Config.Settings
import ScriptBridge.Config.Writing
import ScriptBridge.Error
import ScriptBridge.Event
import ScriptBridge.Files.AppDirectories
import ScriptBridge.Files.FileSystem
import ScriptBridge.Files.Path
import ScriptBridge.Files.SystemError
import ScriptBridge.Host.Program
import ScriptBridge.Host.Request
import ScriptBridge.Host.Simulated
import ScriptBridge.HostAccess
import ScriptBridge.Json.Number
import ScriptBridge.Json.Reading
import ScriptBridge.KeyMessage
import ScriptBridge.Main
import ScriptBridge.Node.Basic
import ScriptBridge.Node.Text
import ScriptBridge.Number.Double
import ScriptBridge.Number.Numeral
import ScriptBridge.Number.Reading
import ScriptBridge.Number.Shortest
import ScriptBridge.Property
import ScriptBridge.QualifiedName
import ScriptBridge.Routing
import ScriptBridge.Script.Loaded
import ScriptBridge.Script.Manifest
import ScriptBridge.Script.Resolved
import ScriptBridge.ScriptId
import ScriptBridge.ScriptState
import ScriptBridge.Table
import ScriptBridge.Text.Blank
import ScriptBridge.Text.Cased
import ScriptBridge.Text.Lowercase
import ScriptBridge.Text.Printable
import ScriptBridge.Text.Quoted
import ScriptBridge.Text.Reader
import ScriptBridge.Text.Utf8
import ScriptBridge.Toml.Datetime
import ScriptBridge.Toml.Decoding
import ScriptBridge.Toml.Document
import ScriptBridge.Toml.Draft
import ScriptBridge.Toml.Lexeme
import ScriptBridge.Toml.Number
import ScriptBridge.Toml.Text
import ScriptBridge.Toml.Value
import ScriptBridge.Toml.Writing
import ScriptBridge.Watchlist
import ScriptBridge.Proofs.Answering
import ScriptBridge.Proofs.WireForm
import ScriptBridge.Proofs.KeyMessages
import ScriptBridge.Proofs.Registration
import ScriptBridge.Proofs.Containment
import ScriptBridge.Proofs.ScriptSets
import ScriptBridge.Proofs.SectionLines
import ScriptBridge.Proofs.Isolation
import ScriptBridge.Proofs.Numerals
import ScriptBridge.Proofs.Keymap.History
import ScriptBridge.Proofs.Keymap.Records
import ScriptBridge.Proofs.Bus.Feeding
import ScriptBridge.Proofs.Bus.Schedules
import ScriptBridge.Proofs.Bus.Completion
import ScriptBridge.Proofs.Keymap.DefaultNames
import ScriptBridge.Proofs.Keymap.LatestCallback
import ScriptBridge.Proofs.Keymap.SectionOrder
import ScriptBridge.Proofs.Bus.Agreement
import ScriptBridge.Proofs.Loading
import ScriptBridge.Proofs.Property.Conversion
import ScriptBridge.Proofs.Property.Operations
import ScriptBridge.Proofs.Property.Store
import ScriptBridge.Proofs.Property.StoreLaw
import ScriptBridge.Proofs.Property.Boundary
import ScriptBridge.Proofs.Property.Requested
import ScriptBridge.Proofs.Bus.Receipts
import ScriptBridge.Proofs.Bus.Places
import ScriptBridge.Proofs.Bus.Numbering
import ScriptBridge.Proofs.Releases
import ScriptBridge.Proofs.FanOut
import ScriptBridge.Proofs.Manifests
import ScriptBridge.Proofs.Bus.Firings
import ScriptBridge.Proofs.Dispatching
import ScriptBridge.Proofs.Journals
import ScriptBridge.Proofs.SectionNames
import ScriptBridge.Proofs.Deciding
import ScriptBridge.Proofs.Files.Walking
import ScriptBridge.Proofs.Files.Canonical
import ScriptBridge.Proofs.Discovery
import ScriptBridge.Proofs.Files.Storing
import ScriptBridge.Proofs.Toml.Strings
import ScriptBridge.Proofs.Toml.Values
import ScriptBridge.Proofs.Config.Sections
import ScriptBridge.Proofs.Config.SavedSettings
import ScriptBridge.Proofs.ByteOrder
import ScriptBridge.Proofs.Keymap.Compilation
import ScriptBridge.Proofs.SectionText
import ScriptBridge.Proofs.Submission
import ScriptBridge.Proofs.Bus.Sessions
import ScriptBridge.Proofs.Bus.PumpAccounts
import ScriptBridge.Proofs.MessageDecoding
import ScriptBridge.Proofs.Number.Truncation
import ScriptBridge.Proofs.Number.IntegerNumerals
import ScriptBridge.Proofs.IntegerCoercion
import ScriptBridge.Proofs.Text.Runs
import ScriptBridge.Proofs.Text.Quoting
import ScriptBridge.Proofs.ContainerText
import ScriptBridge.Proofs.LoadOutcomes
import ScriptBridge.Proofs.ManifestEntries
import ScriptBridge.Proofs.Files.LastNames
import ScriptBridge.Proofs.Files.PathOrder
import ScriptBridge.Proofs.Listing
import ScriptBridge.Proofs.WantedPaths
import ScriptBridge.Proofs.Identities
