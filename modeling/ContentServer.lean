import ContentServer.Assoc
import ContentServer.Canonical
import ContentServer.Config.Basic
import ContentServer.Config.Options
import ContentServer.Directive.Basic
import ContentServer.Directive.Registry
import ContentServer.Document.Page
import ContentServer.Document.Record
import ContentServer.Document.Seed
import ContentServer.Engine
import ContentServer.Html
import ContentServer.Http.Access
import ContentServer.Http.Document
import ContentServer.Http.MediaType
import ContentServer.Http.Message
import ContentServer.Http.Site
import ContentServer.Http.StatusPage
import ContentServer.Interpreter
import ContentServer.Json.Collection
import ContentServer.Json.Double
import ContentServer.Json.Fault
import ContentServer.Json.Number
import ContentServer.Json.Reader
import ContentServer.Json.Scalar
import ContentServer.Json.Struct
import ContentServer.Json.Text
import ContentServer.Json.Value
import ContentServer.Main
import ContentServer.Page.Assembly
import ContentServer.Page.Basic
import ContentServer.Page.Fragment
import ContentServer.Page.Slots
import ContentServer.Path
import ContentServer.Proofs.Assoc
import ContentServer.Proofs.Directive.Arguments
import ContentServer.Proofs.Directive.Quotation
import ContentServer.Proofs.Directive.Segments
import ContentServer.Proofs.Document.Seed
import ContentServer.Proofs.Engine.Failure
import ContentServer.Proofs.Engine.Plan
import ContentServer.Proofs.Engine.Precedence
import ContentServer.Proofs.Engine.Settling
import ContentServer.Proofs.Engine.Visibility
import ContentServer.Proofs.Hierarchy
import ContentServer.Proofs.Hierarchy.Walk
import ContentServer.Proofs.Html.Blocks
import ContentServer.Proofs.Html.Escape
import ContentServer.Proofs.Html.Tags
import ContentServer.Proofs.Html.Token
import ContentServer.Proofs.Http.Document
import ContentServer.Proofs.Http.Preview
import ContentServer.Proofs.Interpreter.Details
import ContentServer.Proofs.Interpreter.Halting
import ContentServer.Proofs.Json.Reading
import ContentServer.Proofs.Json.Values
import ContentServer.Proofs.Lookup
import ContentServer.Proofs.Lookup.Faults
import ContentServer.Proofs.Page.Addressed
import ContentServer.Proofs.Page.Inline
import ContentServer.Proofs.Page.Isolation
import ContentServer.Proofs.Page.Ledger
import ContentServer.Proofs.Page.Markup
import ContentServer.Proofs.Page.Paragraphs
import ContentServer.Proofs.Page.Replaced
import ContentServer.Proofs.Page.Run
import ContentServer.Proofs.Path.Canonical
import ContentServer.Proofs.Path.Decomposition
import ContentServer.Proofs.Path.Grammar
import ContentServer.Proofs.Path.Probe
import ContentServer.Proofs.Path.Reading
import ContentServer.Proofs.Path.Search
import ContentServer.Proofs.Redirect.OnSite
import ContentServer.Proofs.Redirect.Probes
import ContentServer.Proofs.Redirect.Sources
import ContentServer.Proofs.Store.Agreement
import ContentServer.Proofs.Store.Ancestors
import ContentServer.Proofs.Store.Collision
import ContentServer.Proofs.Store.IdIndex
import ContentServer.Proofs.Store.Import
import ContentServer.Proofs.Store.Mirror
import ContentServer.Proofs.Store.ReadBack
import ContentServer.Proofs.Store.Rules
import ContentServer.Proofs.Table.Cache
import ContentServer.Proofs.Table.Cells
import ContentServer.Proofs.Text.Blank
import ContentServer.Proofs.Text.Percent
import ContentServer.Proofs.Text.Split
import ContentServer.Proofs.Text.Utf8
import ContentServer.Proofs.Text.Word
import ContentServer.Proofs.Time.Relaxed
import ContentServer.Proofs.Time.RoundTrip
import ContentServer.Record
import ContentServer.Redirect
import ContentServer.Resolver
import ContentServer.Store.Basic
import ContentServer.Store.Lookup
import ContentServer.Store.Memory
import ContentServer.Store.Pool
import ContentServer.Store.Relational
import ContentServer.Table.Definition
import ContentServer.Table.Directory
import ContentServer.Text.Basic
import ContentServer.Text.Case
import ContentServer.Text.Octets
import ContentServer.Text.Printable
import ContentServer.Time.Format
import ContentServer.Time.Instant
import ContentServer.Time.Relaxed
import ContentServer.Time.Strict
import ContentServer.Time.Text
import ContentServer.Url
import ContentServer.Url.Host
