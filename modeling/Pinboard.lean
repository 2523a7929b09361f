import Pinboard.Action
import Pinboard.Builtin.Ambient
import Pinboard.Builtin.Basic
import Pinboard.Builtin.Catalogue
import Pinboard.Builtin.Effects
import Pinboard.Builtin.Interaction
import Pinboard.Builtin.Listing
import Pinboard.Builtin.Script
import Pinboard.CommandLine.Arguments
import Pinboard.CommandLine.Desk
import Pinboard.CommandLine.Run
import Pinboard.Console
import Pinboard.Context
import Pinboard.Deferred
import Pinboard.Directive.Basic
import Pinboard.Directive.Callable
import Pinboard.Directive.Declared
import Pinboard.Directive.Description
import Pinboard.Directive.Registry
import Pinboard.Document.Basic
import Pinboard.Document.Server
import Pinboard.Environment
import Pinboard.Expiry
import Pinboard.Fault
import Pinboard.Fields
import Pinboard.Item.Basic
import Pinboard.Item.Group
import Pinboard.Item.Pin
import Pinboard.Json.Basic
import Pinboard.Json.Display
import Pinboard.Json.Printer
import Pinboard.Json.Reader
import Pinboard.LanguageModel.Client
import Pinboard.Launch
import Pinboard.Main
import Pinboard.Markup.Arguments
import Pinboard.Markup.Escape
import Pinboard.Markup.Header
import Pinboard.Markup.Invocation
import Pinboard.Markup.Occurrence
import Pinboard.Number.Binary64
import Pinboard.Number.Decimal
import Pinboard.Number.Numeric
import Pinboard.Number.Places
import Pinboard.Number.ReadReal
import Pinboard.Number.Rounding
import Pinboard.Number.Shortest
import Pinboard.Number.Whole
import Pinboard.Proofs.Action
import Pinboard.Proofs.Builtin.Ambient
import Pinboard.Proofs.Builtin.Deferral
import Pinboard.Proofs.Builtin.Grouping
import Pinboard.Proofs.Builtin.JsonListings
import Pinboard.Proofs.Builtin.LastPin
import Pinboard.Proofs.Builtin.Listings
import Pinboard.Proofs.Builtin.Mutations
import Pinboard.Proofs.Builtin.Prompts
import Pinboard.Proofs.Builtin.Reentry
import Pinboard.Proofs.Builtin.Sampling
import Pinboard.Proofs.Builtin.Snapshot
import Pinboard.Proofs.Builtin.Transitions
import Pinboard.Proofs.Context
import Pinboard.Proofs.Digits
import Pinboard.Proofs.Expiry.Checks
import Pinboard.Proofs.Expiry.CustomActions
import Pinboard.Proofs.Fields
import Pinboard.Proofs.Item.Data
import Pinboard.Proofs.Item.RoundTrip
import Pinboard.Proofs.Json.Escaping
import Pinboard.Proofs.Json.Refusal
import Pinboard.Proofs.Json.RoundTrip
import Pinboard.Proofs.Launch.Averages
import Pinboard.Proofs.Launch.Desktop
import Pinboard.Proofs.Launch.Failures
import Pinboard.Proofs.Launch.HandOff
import Pinboard.Proofs.Launch.Ledger
import Pinboard.Proofs.Launch.Plan
import Pinboard.Proofs.Launch.Quotient
import Pinboard.Proofs.Launch.Statistics
import Pinboard.Proofs.Launch.Tree
import Pinboard.Proofs.Markup.Arguments
import Pinboard.Proofs.Markup.Balance
import Pinboard.Proofs.Markup.Escaping
import Pinboard.Proofs.Markup.Grammar
import Pinboard.Proofs.Markup.Headers
import Pinboard.Proofs.Markup.Nesting
import Pinboard.Proofs.Markup.Patterns
import Pinboard.Proofs.Markup.Rendering
import Pinboard.Proofs.Markup.Scanning
import Pinboard.Proofs.Markup.Splitting
import Pinboard.Proofs.Markup.Tokens
import Pinboard.Proofs.Number.Rounding
import Pinboard.Proofs.Number.Whole
import Pinboard.Proofs.Registry.Unambiguous
import Pinboard.Proofs.Resolution.Bounds
import Pinboard.Proofs.Resolution.Constants
import Pinboard.Proofs.Resolution.DirectCalls
import Pinboard.Proofs.Resolution.Guards
import Pinboard.Proofs.Resolution.Idempotence
import Pinboard.Proofs.Resolution.Isolation
import Pinboard.Proofs.Resolution.Loop
import Pinboard.Proofs.Resolution.Replacements
import Pinboard.Proofs.Resolution.Settled
import Pinboard.Proofs.Resolution.Transitions
import Pinboard.Proofs.Schedule.Copies
import Pinboard.Proofs.Schedule.Delivery
import Pinboard.Proofs.Schedule.Events
import Pinboard.Proofs.Schedule.Fates
import Pinboard.Proofs.Schedule.Journal
import Pinboard.Proofs.Schedule.PlainList
import Pinboard.Proofs.Schedule.Records
import Pinboard.Proofs.Schedule.Remainder
import Pinboard.Proofs.Script.Transitions
import Pinboard.Proofs.State.RecentApps
import Pinboard.Proofs.State.Variables
import Pinboard.Proofs.Store.Collections
import Pinboard.Proofs.Store.Documents
import Pinboard.Proofs.Template.Basic
import Pinboard.Proofs.Template.Evaluation
import Pinboard.Proofs.Template.Outermost
import Pinboard.Proofs.Template.Scanning
import Pinboard.Proofs.Template.Schedule
import Pinboard.Proofs.Text.Numerals
import Pinboard.Proofs.Text.Percent
import Pinboard.Proofs.Time.Amounts
import Pinboard.Proofs.Time.Durations
import Pinboard.Proofs.Time.Stored
import Pinboard.Proofs.Transitions
import Pinboard.Record.Checked
import Pinboard.Record.Moment
import Pinboard.Record.Numeral
import Pinboard.Record.Report
import Pinboard.Record.Scalar
import Pinboard.Rehearsal.Data
import Pinboard.Rehearsal.Directive
import Pinboard.Rehearsal.Host
import Pinboard.Rehearsal.Machine
import Pinboard.Rehearsal.World
import Pinboard.Resolver
import Pinboard.Schedule
import Pinboard.Script.Arithmetic
import Pinboard.Script.Call
import Pinboard.Script.Collection
import Pinboard.Script.Conversion
import Pinboard.Script.Equality
import Pinboard.Script.JsonReading
import Pinboard.Script.JsonWriting
import Pinboard.Script.Literal
import Pinboard.Script.Names
import Pinboard.Script.Parameters
import Pinboard.Script.Policy
import Pinboard.Script.Reader
import Pinboard.Script.Reader.Basic
import Pinboard.Script.Reader.Expression
import Pinboard.Script.Reader.Signature
import Pinboard.Script.Reader.Statement
import Pinboard.Script.Run
import Pinboard.Script.Sandbox
import Pinboard.Script.SetTable
import Pinboard.Script.Shown
import Pinboard.Script.Sorting
import Pinboard.Script.TextMethod
import Pinboard.Script.Token
import Pinboard.Script.Tree
import Pinboard.Script.Value
import Pinboard.Script.Worker
import Pinboard.Script.Written
import Pinboard.Services
import Pinboard.Settings
import Pinboard.State.LastPin
import Pinboard.State.RecentApps
import Pinboard.State.Stored
import Pinboard.State.Variables
import Pinboard.Store.Documents
import Pinboard.Store.Memory
import Pinboard.Text.Basic
import Pinboard.Text.Blank
import Pinboard.Text.CombiningClass
import Pinboard.Text.Compatibility
import Pinboard.Text.Composition
import Pinboard.Text.Identifier
import Pinboard.Text.Letter
import Pinboard.Text.Lowercase
import Pinboard.Text.Normal
import Pinboard.Text.Number
import Pinboard.Text.Percent
import Pinboard.Text.Printable
import Pinboard.Text.Quoted
import Pinboard.Text.Ranges
import Pinboard.Text.Uppercase
import Pinboard.Time.Calendar
import Pinboard.Time.Duration
import Pinboard.Time.Format
import Pinboard.Time.Iso
import Pinboard.Time.MonthTable
import Pinboard.Time.Timestamp
