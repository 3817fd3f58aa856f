import IdService.Allocator
import IdService.Boot
import IdService.Bytes
import IdService.Config.CommandLine
import IdService.Config.Configuration
import IdService.Config.Node
import IdService.Config.Setting
import IdService.Config.Startup
import IdService.Connection
import IdService.Counter.Fault
import IdService.Counter.Value
import IdService.Decimal.Shortest
import IdService.Json.Fault
import IdService.Json.Lexeme
import IdService.Json.Number
import IdService.Json.Skip
import IdService.Json.Typed
import IdService.Log.Filter
import IdService.Log.Plain
import IdService.Main
import IdService.Numeral
import IdService.Proofs.Counter
import IdService.Proofs.Numeral
import IdService.Proofs.Store.Contents
import IdService.Proofs.Table
import IdService.Proofs.Text.Utf8
import IdService.Registry
import IdService.Server
import IdService.Service
import IdService.Service.Command
import IdService.Settings
import IdService.Store
import IdService.Store.Persistent
import IdService.Store.Volatile
import IdService.Table
import IdService.Text.Alphanumeric
import IdService.Text.Blank
import IdService.Text.Quoted
import IdService.Text.Utf8
import IdService.Text.Visible
import IdService.Wire.Encoding
import IdService.Wire.Fault
import IdService.Wire.Feed
import IdService.Wire.Limits
import IdService.Wire.Line
import IdService.Wire.Reply
import IdService.Wire.ReplyDecoder
import IdService.Wire.Request
import IdService.Wire.RequestDecoder
import IdService.Proofs.Allocator
import IdService.Proofs.Holding
import IdService.Proofs.Holding.Step
import IdService.Proofs.Holding.Effect
import IdService.Proofs.Settings
import IdService.Proofs.Holding.Restart
import IdService.Proofs.Service.Commands
import IdService.Proofs.Run
import IdService.Proofs.Run.Identifiers
import IdService.Proofs.Run.Coupling
import IdService.Proofs.Run.KeyRecords
import IdService.Proofs.Run.Reference
import IdService.Proofs.Wire.Line
import IdService.Proofs.Wire.Grammar
import IdService.Proofs.Wire.Element
import IdService.Proofs.Wire.Words
import IdService.Proofs.Wire.Scan
import IdService.Proofs.Wire.Feed
import IdService.Proofs.Wire.Requests
import IdService.Proofs.Wire.Frames
import IdService.Proofs.Wire.Requests.Accepted
import IdService.Proofs.Wire.Requests.Cuts
import IdService.Proofs.Wire.Encoding
import IdService.Proofs.Wire.Replies
import IdService.Proofs.Wire.Requests.RoundTrip
import IdService.Proofs.Wire.Replies.RoundTrip
import IdService.Proofs.Sharing
import IdService.Proofs.Settings.Overlay
import IdService.Proofs.Store.Settings
import IdService.Proofs.Service.Settings
import IdService.Proofs.Service.Refusals
import IdService.Proofs.Run.Settings
import IdService.Proofs.Store.Engines
import IdService.Proofs.Wire.Faults
import IdService.Proofs.Connection
import IdService.Proofs.Service.Crashes
import IdService.Proofs.Connection.Traffic
import IdService.Proofs.Store.Counts
import IdService.Proofs.Run.Epochs
import IdService.Proofs.Wire.Replies.Cuts
import IdService.Proofs.Allocator.Retrying
import IdService.Proofs.Service.Confinement
import IdService.Proofs.Overlaps
import IdService.Proofs.Overlaps.Agreement
import IdService.Proofs.Wire.Requests.Resuming
import IdService.Proofs.Store.Bytes
import IdService.Proofs.Allocator.Limits
import IdService.Proofs.Holding.Striking
import IdService.Proofs.Service.Deletion
import IdService.Proofs.Restoring
import IdService.Config.Editing
import IdService.Proofs.Settings.Editing
import IdService.Proofs.Config.Node
import IdService.Proofs.Log.Filter
import IdService.Proofs.Settings.Reached
import IdService.Proofs.Text.Blank
import IdService.Proofs.Json.Written
import IdService.Proofs.Settings.Reading
import IdService.Proofs.Settings.Resolving
import IdService.Proofs.Settings.Reapplying
import IdService.Proofs.Holding.Steady
import IdService.Proofs.Wire.Requests.Forms
import IdService.Proofs.Wire.Requests.Limits
import IdService.Proofs.Service.Isolation
import IdService.Proofs.Service.Corruption
import IdService.Proofs.Run.Cursor
import IdService.Proofs.Service.Methods
import IdService.Proofs.Settings.Peers
import IdService.Proofs.Allocator.Afresh
import IdService.Proofs.Wire.Requests.Calls
