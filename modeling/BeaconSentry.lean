import BeaconSentry.Action
import BeaconSentry.Alert.Basic
import BeaconSentry.Alert.History
import BeaconSentry.Alert.Manager
import BeaconSentry.Alert.Sink
import BeaconSentry.Alert.Wire
import BeaconSentry.Beacon.Basic
import BeaconSentry.Beacon.Client
import BeaconSentry.Beacon.Decode
import BeaconSentry.Beacon.Encode
import BeaconSentry.Beacon.Quantity
import BeaconSentry.Beacon.Slot
import BeaconSentry.Duration
import BeaconSentry.EventStream
import BeaconSentry.Evm.Abi
import BeaconSentry.Evm.Node
import BeaconSentry.Exit.Bus
import BeaconSentry.Exit.Cache
import BeaconSentry.Exit.Range
import BeaconSentry.Exit.Requests
import BeaconSentry.Json.Basic
import BeaconSentry.Json.Decode
import BeaconSentry.Json.Printer
import BeaconSentry.Json.Reader
import BeaconSentry.Json.Token
import BeaconSentry.Keys.Basic
import BeaconSentry.Keys.File
import BeaconSentry.Keys.Service
import BeaconSentry.Keys.Source
import BeaconSentry.Main
import BeaconSentry.Metrics.Basic
import BeaconSentry.Metrics.Build
import BeaconSentry.Metrics.Exposition
import BeaconSentry.Metrics.Histogram
import BeaconSentry.Net.Error
import BeaconSentry.Net.Http
import BeaconSentry.Net.Provider
import BeaconSentry.Net.Retry
import BeaconSentry.Number.Binary
import BeaconSentry.Number.Decimal
import BeaconSentry.Options.Basic
import BeaconSentry.Options.Encode
import BeaconSentry.Options.Parser
import BeaconSentry.Options.Seconds
import BeaconSentry.Options.SlotRange
import BeaconSentry.Proofs.Alert.Delivery
import BeaconSentry.Proofs.Alert.Judged
import BeaconSentry.Proofs.Alert.Labels
import BeaconSentry.Proofs.Alert.Posted
import BeaconSentry.Proofs.Alert.ReadBack
import BeaconSentry.Proofs.Alert.Recent
import BeaconSentry.Proofs.Beacon.FirstKnown
import BeaconSentry.Proofs.Beacon.Lossless
import BeaconSentry.Proofs.Beacon.Resolution
import BeaconSentry.Proofs.Beacon.Slashed
import BeaconSentry.Proofs.Beacon.Spelling
import BeaconSentry.Proofs.Beacon.Streaming
import BeaconSentry.Proofs.EventStream.Chunks
import BeaconSentry.Proofs.EventStream.Standard
import BeaconSentry.Proofs.Exit.Refresh
import BeaconSentry.Proofs.Exit.Reorgs
import BeaconSentry.Proofs.Exit.Repeat
import BeaconSentry.Proofs.Exit.Scan
import BeaconSentry.Proofs.Exit.Tiling
import BeaconSentry.Proofs.Exit.Window
import BeaconSentry.Proofs.Json.Lexemes
import BeaconSentry.Proofs.Json.ReadBack
import BeaconSentry.Proofs.Json.Records
import BeaconSentry.Proofs.Json.Spelling
import BeaconSentry.Proofs.Keys.Canonical
import BeaconSentry.Proofs.Keys.Freshness
import BeaconSentry.Proofs.Keys.Last
import BeaconSentry.Proofs.Keys.Listed
import BeaconSentry.Proofs.Keys.Reloads
import BeaconSentry.Proofs.Keys.Timeline
import BeaconSentry.Proofs.Net.Attempts
import BeaconSentry.Proofs.Net.Backoff
import BeaconSentry.Proofs.Net.Tour
import BeaconSentry.Proofs.Text.Casing
import BeaconSentry.Proofs.Text.Numeral
import BeaconSentry.Proofs.Text.Trimming
import BeaconSentry.Proofs.Text.Utf8Machine
import BeaconSentry.Proofs.Time.Calendar
import BeaconSentry.Proofs.Time.Stamps
import BeaconSentry.Proofs.Url.Join
import BeaconSentry.Proofs.Watch.Atomic
import BeaconSentry.Proofs.Watch.Bounds
import BeaconSentry.Proofs.Watch.Consolidations
import BeaconSentry.Proofs.Watch.Course
import BeaconSentry.Proofs.Watch.Crew
import BeaconSentry.Proofs.Watch.CrewRuns
import BeaconSentry.Proofs.Watch.Cycle
import BeaconSentry.Proofs.Watch.Drafts
import BeaconSentry.Proofs.Watch.Due
import BeaconSentry.Proofs.Watch.Exits
import BeaconSentry.Proofs.Watch.Forks
import BeaconSentry.Proofs.Watch.Groups
import BeaconSentry.Proofs.Watch.Independence
import BeaconSentry.Proofs.Watch.Lineage
import BeaconSentry.Proofs.Watch.Looks
import BeaconSentry.Proofs.Watch.Order
import BeaconSentry.Proofs.Watch.Outlets
import BeaconSentry.Proofs.Watch.Overflows
import BeaconSentry.Proofs.Watch.Ownership
import BeaconSentry.Proofs.Watch.Partition
import BeaconSentry.Proofs.Watch.Queue
import BeaconSentry.Proofs.Watch.Range
import BeaconSentry.Proofs.Watch.Refreshes
import BeaconSentry.Proofs.Watch.Replay
import BeaconSentry.Proofs.Watch.Retries
import BeaconSentry.Proofs.Watch.Rounds
import BeaconSentry.Proofs.Watch.Silences
import BeaconSentry.Proofs.Watch.Skipped
import BeaconSentry.Proofs.Watch.Slashings
import BeaconSentry.Proofs.Watch.Verdicts
import BeaconSentry.Proofs.Watch.Withdrawals
import BeaconSentry.Pulse
import BeaconSentry.Rehearsal.Hosts
import BeaconSentry.Rehearsal.Mailbox
import BeaconSentry.Rehearsal.Oracle
import BeaconSentry.Rehearsal.Scene
import BeaconSentry.Rehearsal.World
import BeaconSentry.Report
import BeaconSentry.Text.Blank
import BeaconSentry.Text.CaseTable
import BeaconSentry.Text.Hex
import BeaconSentry.Text.Lower
import BeaconSentry.Text.Numeral
import BeaconSentry.Text.Quoted
import BeaconSentry.Text.Utf8
import BeaconSentry.Time.Date
import BeaconSentry.Time.Instant
import BeaconSentry.Time.Timestamp
import BeaconSentry.Url.Basic
import BeaconSentry.Url.Host
import BeaconSentry.Url.Parser
import BeaconSentry.Url.Percent
import BeaconSentry.Url.Punycode
import BeaconSentry.Watch.Consolidations
import BeaconSentry.Watch.Cycle
import BeaconSentry.Watch.Exits
import BeaconSentry.Watch.Forks
import BeaconSentry.Watch.Gauges
import BeaconSentry.Watch.Groups
import BeaconSentry.Watch.Handler
import BeaconSentry.Watch.Links
import BeaconSentry.Watch.Owner
import BeaconSentry.Watch.Refresh
import BeaconSentry.Watch.Settings
import BeaconSentry.Watch.Slashings
import BeaconSentry.Watch.State
import BeaconSentry.Watch.Watcher
import BeaconSentry.Watch.Withdrawals
import BeaconSentry.Word
import BeaconSentry.Yaml.Block
import BeaconSentry.Yaml.Flow
import BeaconSentry.Yaml.Glyph
import BeaconSentry.Yaml.Grammar
import BeaconSentry.Yaml.Lexer
import BeaconSentry.Yaml.Marks
import BeaconSentry.Yaml.Node
import BeaconSentry.Yaml.Number
import BeaconSentry.Yaml.Schema
import BeaconSentry.Yaml.Token
import BeaconSentry.Yaml.Value
