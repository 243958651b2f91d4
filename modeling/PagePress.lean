import PagePress.Json.Printer
import PagePress.Json.Reader
import PagePress.Mdast.Codec
import PagePress.View.Codec
import PagePress.Markup.Forest
import PagePress.Render.Document
import PagePress.Markdown.Reader
import PagePress.Pipeline.Page
import PagePress.Pipeline.Validator
import PagePress.CommandLine.Report
import PagePress.Main
import PagePress.Proofs.Pipeline.Machine
import PagePress.Proofs.Dictionary
import PagePress.Proofs.Markup.Tag
import PagePress.Proofs.Markup.Escape
import PagePress.Proofs.Markup.RoundTrip
import PagePress.Proofs.Render.Writable
import PagePress.Proofs.Schema.Accepts
import PagePress.Proofs.Pipeline.Schemas
import PagePress.Proofs.Markdown.Draft
import PagePress.Proofs.Markdown.Tree
import PagePress.Proofs.Markdown.Regular
import PagePress.Proofs.Pipeline.Page
import PagePress.Proofs.Pipeline.ErrorStatus
import PagePress.Proofs.Pipeline.Verdict
import PagePress.Proofs.Pipeline.ErrorBody
import PagePress.Proofs.Pipeline.Directory
import PagePress.Proofs.Pipeline.Snapshot
import PagePress.Proofs.Render.InlineMarkup
import PagePress.Proofs.Markup.Acceptance
import PagePress.Proofs.Render.Totality
import PagePress.Proofs.Render.Site
import PagePress.Proofs.Render.FirstMatch
import PagePress.Proofs.View.Elements
import PagePress.Proofs.Mdast.Lineage
import PagePress.Proofs.Render.Gauge
import PagePress.Proofs.Render.Tags
import PagePress.Proofs.Render.Trace
import PagePress.Proofs.Render.Text
import PagePress.Proofs.Render.UnknownType
import PagePress.Proofs.Render.Override
import PagePress.Proofs.Markup.Complete
import PagePress.Proofs.Render.Embedding
import PagePress.Proofs.Pipeline.Status
import PagePress.Proofs.Config.Settings
import PagePress.Proofs.CommandLine.Render
import PagePress.Proofs.Json.Ordered
import PagePress.Proofs.Json.Record
import PagePress.Proofs.Mdast.Codec
import PagePress.Proofs.Mdast.Pruned
import PagePress.Proofs.View.Codec
import PagePress.Proofs.Pipeline.Codec
import PagePress.Proofs.Markup.Preorder
import PagePress.Proofs.Markup.Tolerance
import PagePress.Proofs.Markup.RawPrefix
import PagePress.Proofs.Pipeline.TopLevel
import PagePress.Proofs.Markdown.Content
import PagePress.Proofs.Markdown.Lines
import PagePress.Proofs.Markdown.Nesting
import PagePress.Proofs.Markup.References
import PagePress.Proofs.Markup.Verbatim
import PagePress.Proofs.Mdast.Walk
import PagePress.Proofs.Render.Definition
import PagePress.Proofs.Pipeline.Sections
import PagePress.Proofs.Pipeline.Metadata
import PagePress.Proofs.Pipeline.Turnout
import PagePress.Proofs.Render.Reference
import PagePress.Proofs.Render.Table
import PagePress.Proofs.Config.Expansion
import PagePress.Proofs.Fetch.Directory
import PagePress.Proofs.Fetch.Location
import PagePress.Proofs.Config.RawRoot
import PagePress.Proofs.Pipeline.Registration
import PagePress.Proofs.Text.Encoding
import PagePress.Proofs.Text.Checked
import PagePress.Proofs.Markdown.Phrasing
import PagePress.Proofs.Markdown.LineTable
import PagePress.Proofs.Markup.Offsets
