import QuoteService.Assembly
import QuoteService.Database.Dialect
import QuoteService.Database.Disk
import QuoteService.Database.Key
import QuoteService.Database.Options
import QuoteService.Database.Place
import QuoteService.Database.Session
import QuoteService.Database.Store
import QuoteService.Database.Tables
import QuoteService.Database.Target
import QuoteService.Database.Url
import QuoteService.Entity.Basic
import QuoteService.Entity.Check
import QuoteService.Entity.Row
import QuoteService.Failure
import QuoteService.Http.Address
import QuoteService.Http.Authority
import QuoteService.Http.Exchange
import QuoteService.Http.Header
import QuoteService.Http.Payload
import QuoteService.Http.Query
import QuoteService.Http.Request
import QuoteService.Http.Response
import QuoteService.Http.Route
import QuoteService.Http.Status
import QuoteService.Json.Basic
import QuoteService.Json.Reader
import QuoteService.Json.Writer
import QuoteService.Launch
import QuoteService.Lifecycle
import QuoteService.Log.Directive
import QuoteService.Log.Level
import QuoteService.Log.Line
import QuoteService.Log.Record
import QuoteService.Log.Root
import QuoteService.Log.Template
import QuoteService.Log.Value
import QuoteService.Main
import QuoteService.Migration.Command
import QuoteService.Migration.Initial
import QuoteService.Migration.Revision
import QuoteService.Migration.Script
import QuoteService.Migration.Statement
import QuoteService.Migration.Style
import QuoteService.Number.Binary64
import QuoteService.Number.IntegerText
import QuoteService.Number.Loose
import QuoteService.Number.Places
import QuoteService.Number.Shortest
import QuoteService.Proofs.Database.Join
import QuoteService.Proofs.Database.Resolution
import QuoteService.Proofs.Database.Rows
import QuoteService.Proofs.Plan.Evaluation
import QuoteService.Repository.Collection
import QuoteService.Repository.Lookup
import QuoteService.Repository.Plan
import QuoteService.Schema.Catalog
import QuoteService.Schema.Declared
import QuoteService.Settings.Basic
import QuoteService.Settings.Dotenv
import QuoteService.Settings.Sources
import QuoteService.Text.Blank
import QuoteService.Text.Case
import QuoteService.Text.Cased
import QuoteService.Text.Digit
import QuoteService.Text.Hex
import QuoteService.Text.Latin1
import QuoteService.Text.Percent
import QuoteService.Text.Printable
import QuoteService.Text.Quoted
import QuoteService.Text.Ranges
import QuoteService.Text.Split
import QuoteService.Text.Utf8
import QuoteService.Text.Word
import QuoteService.Validation.Check
import QuoteService.Validation.Problem
import QuoteService.Proofs.Plan.Interruption
import QuoteService.Proofs.Http.Address
import QuoteService.Proofs.Http.Fields
import QuoteService.Proofs.Number.Digits
import QuoteService.Proofs.Assembly.Failures
import QuoteService.Proofs.Json.RoundTrip
import QuoteService.Proofs.Json.Writing
import QuoteService.Proofs.Http.Rendering
import QuoteService.Proofs.Http.Envelope
import QuoteService.Proofs.Database.Fault
import QuoteService.Proofs.Assembly.Draw
import QuoteService.Proofs.Text.Ascii
import QuoteService.Proofs.Json.Lexemes
import QuoteService.Proofs.Entity.Layout
import QuoteService.Proofs.Http.Wire
import QuoteService.Proofs.Http.Routing
import QuoteService.Proofs.Http.Opacity
import QuoteService.Proofs.Schema.Rows
import QuoteService.Proofs.Plan.Order
import QuoteService.Proofs.Repository.Order
import QuoteService.Proofs.Database.Conformance
import QuoteService.Proofs.Assembly.Order
import QuoteService.Proofs.Text.Utf8
import QuoteService.Proofs.Text.Form
import QuoteService.Proofs.Http.Form
import QuoteService.Proofs.Http.Reply
import QuoteService.Proofs.Http.Identity
import QuoteService.Proofs.Http.Callback
import QuoteService.Proofs.Assembly.Script
import QuoteService.Proofs.Lifecycle.Release
import QuoteService.Proofs.Settings.Resolution
import QuoteService.Proofs.Migration.Environment
import QuoteService.Proofs.Launch
import QuoteService.Proofs.Http.Records
import QuoteService.Proofs.Lifecycle.Publication
import QuoteService.Proofs.Log.Handlers
import QuoteService.Proofs.Settings.Completeness
import QuoteService.Proofs.Settings.Dump
import QuoteService.Proofs.Database.Random
import QuoteService.Proofs.Database.Catalog
import QuoteService.Proofs.Database.Reuse
import QuoteService.Proofs.Http.Sessions
import QuoteService.Proofs.Text.Case
import QuoteService.Proofs.Http.Payload
import QuoteService.Proofs.Http.Transport
import QuoteService.Proofs.Log.Line
import QuoteService.Proofs.Http.Path
import QuoteService.Proofs.Http.Dispatch
import QuoteService.Proofs.Migration.Initial
