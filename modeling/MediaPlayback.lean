import MediaPlayback.Audio.Wave
import MediaPlayback.Config
import MediaPlayback.Core.Basic
import MediaPlayback.Core.Clock
import MediaPlayback.Core.Declaration
import MediaPlayback.Cursor
import MediaPlayback.Desktop.Attachments
import MediaPlayback.Desktop.Basic
import MediaPlayback.Desktop.Watch
import MediaPlayback.Duration
import MediaPlayback.Engine.Callback
import MediaPlayback.Engine.Command
import MediaPlayback.Engine.Holdings
import MediaPlayback.Engine.Message
import MediaPlayback.Engine.Mode
import MediaPlayback.Engine.Presenter
import MediaPlayback.Engine.Transition
import MediaPlayback.Engine.Turn
import MediaPlayback.Engine.World
import MediaPlayback.Error
import MediaPlayback.Event
import MediaPlayback.Event.Audience
import MediaPlayback.Event.Bus
import MediaPlayback.Host.Attachment
import MediaPlayback.Host.Call
import MediaPlayback.Host.Error
import MediaPlayback.Host.Notification
import MediaPlayback.Host.Session
import MediaPlayback.Host.Token
import MediaPlayback.Host.Visibility
import MediaPlayback.Item
import MediaPlayback.Json.Basic
import MediaPlayback.Json.Draft
import MediaPlayback.Json.Event
import MediaPlayback.Json.Failure
import MediaPlayback.Json.LogEntry
import MediaPlayback.Json.Notification
import MediaPlayback.Json.Numeral
import MediaPlayback.Json.Parser
import MediaPlayback.Json.Parser.Steps
import MediaPlayback.Json.Quoted
import MediaPlayback.Json.Reader
import MediaPlayback.Json.Real
import MediaPlayback.Json.Sorted
import MediaPlayback.Lifecycle.Signal
import MediaPlayback.Listener.Registry
import MediaPlayback.Log.Directive
import MediaPlayback.Log.Filter
import MediaPlayback.Log.Pattern
import MediaPlayback.Log.Record
import MediaPlayback.Log.Setup
import MediaPlayback.Log.Timestamp
import MediaPlayback.Number.Shortest
import MediaPlayback.Path
import MediaPlayback.Playlist
import MediaPlayback.Rehearsal.Basic
import MediaPlayback.Rehearsal.Bench
import MediaPlayback.Rehearsal.Direction
import MediaPlayback.Rehearsal.Feed
import MediaPlayback.Rehearsal.Host
import MediaPlayback.Rehearsal.Observer
import MediaPlayback.Rehearsal.Opening
import MediaPlayback.Rehearsal.Order
import MediaPlayback.Rehearsal.Report
import MediaPlayback.Rehearsal.Shelf
import MediaPlayback.Rehearsal.Step
import MediaPlayback.Service
import MediaPlayback.Settings
import MediaPlayback.Shuffle
import MediaPlayback.Text.Alphanumeric
import MediaPlayback.Text.Blank
import MediaPlayback.Text.Hexadecimal
import MediaPlayback.Text.Printable
import MediaPlayback.Text.Quoted
import MediaPlayback.Proofs.Engine.Change
import MediaPlayback.Proofs.Engine.Outcome
import MediaPlayback.Proofs.Engine.Account
import MediaPlayback.Proofs.Engine.Coherence
import MediaPlayback.Proofs.Engine.Course
import MediaPlayback.Proofs.Invariant
import MediaPlayback.Proofs.Focus
import MediaPlayback.Proofs.LatestStart
import MediaPlayback.Proofs.Ledger
import MediaPlayback.Proofs.Release
import MediaPlayback.Proofs.Cursor
import MediaPlayback.Proofs.Track
import MediaPlayback.Proofs.Engine.Played
import MediaPlayback.Proofs.Silence
import MediaPlayback.Proofs.Stopped
import MediaPlayback.Proofs.Lifecycle.Chronicle
import MediaPlayback.Proofs.Lifecycle.Debounce
import MediaPlayback.Proofs.Story
import MediaPlayback.Proofs.Engine.Front
import MediaPlayback.Proofs.Engine.Catalog
import MediaPlayback.Proofs.Publish
import MediaPlayback.Proofs.Outlook
import MediaPlayback.Proofs.Background
import MediaPlayback.Proofs.Event.Subscriber
import MediaPlayback.Proofs.View
import MediaPlayback.Proofs.Caption
import MediaPlayback.Proofs.Output
import MediaPlayback.Proofs.Stage
import MediaPlayback.Proofs.Playthrough
import MediaPlayback.Proofs.Pause
import MediaPlayback.Proofs.Interruption
import MediaPlayback.Proofs.Relocation.Cursor
import MediaPlayback.Proofs.Relocation.World
import MediaPlayback.Proofs.Relocation.Turn
import MediaPlayback.Proofs.Relocation.Run
import MediaPlayback.Proofs.Engine.Conduct
import MediaPlayback.Proofs.Tokens
import MediaPlayback.Proofs.Lifecycle.Abreast
import MediaPlayback.Proofs.Intent
import MediaPlayback.Proofs.Failure
import MediaPlayback.Proofs.Reset
import MediaPlayback.Proofs.Continuity
import MediaPlayback.Proofs.Index
import MediaPlayback.Proofs.Reselection
import MediaPlayback.Proofs.Cursor.Operation
import MediaPlayback.Proofs.Cursor.Checked
import MediaPlayback.Proofs.Cursor.Shuffling
import MediaPlayback.Proofs.Cursor.Navigation
import MediaPlayback.Proofs.Catalog
import MediaPlayback.Proofs.Place
import MediaPlayback.Proofs.Durations
import MediaPlayback.Proofs.Listener.Round
import MediaPlayback.Proofs.Listener.Registration
import MediaPlayback.Proofs.Event.Stream
import MediaPlayback.Proofs.Attachments
import MediaPlayback.Proofs.Json.RoundTrip
import MediaPlayback.Proofs.Clock
import MediaPlayback.Proofs.Service
