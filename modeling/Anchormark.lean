import Anchormark.Attribute.Block
import Anchormark.Attribute.Resolve
import Anchormark.Command.Arguments
import Anchormark.Command.Run
import Anchormark.Host.Basic
import Anchormark.Host.Machine
import Anchormark.Main
import Anchormark.Markdown.Block
import Anchormark.Markdown.Definition
import Anchormark.Markdown.Document
import Anchormark.Markdown.Emphasis
import Anchormark.Markdown.Entity
import Anchormark.Markdown.EntityTable
import Anchormark.Markdown.Event
import Anchormark.Markdown.Events
import Anchormark.Markdown.Html
import Anchormark.Markdown.Inline
import Anchormark.Markdown.Interrupt
import Anchormark.Markdown.Link
import Anchormark.Markdown.Margin
import Anchormark.Markdown.Piece
import Anchormark.Markdown.Scan
import Anchormark.Markdown.Syntax
import Anchormark.Node.Anchoring
import Anchormark.Node.Basic
import Anchormark.Node.Builder
import Anchormark.Node.EmptyTitle
import Anchormark.Node.Outline
import Anchormark.Node.Walk
import Anchormark.Pipeline
import Anchormark.Plugin.Basic
import Anchormark.Plugin.Example
import Anchormark.Plugin.Standard
import Anchormark.Proofs.Anchor.Identifiers
import Anchormark.Proofs.Anchor.Placeholders
import Anchormark.Proofs.Anchor.Reprocessing
import Anchormark.Proofs.Anchor.RoundTrip
import Anchormark.Proofs.Anchor.Tidy
import Anchormark.Proofs.Attribute.Edges
import Anchormark.Proofs.Attribute.Grammar
import Anchormark.Proofs.Attribute.Resolution
import Anchormark.Proofs.Attribute.Resolving
import Anchormark.Proofs.Attribute.Siblings
import Anchormark.Proofs.Node.Feeding
import Anchormark.Proofs.Node.Fresh
import Anchormark.Proofs.Node.PlainText
import Anchormark.Proofs.Node.Rebuilding
import Anchormark.Proofs.Node.Shape
import Anchormark.Proofs.Node.Stream
import Anchormark.Proofs.Node.Walk
import Anchormark.Proofs.Render.Content
import Anchormark.Proofs.Render.EscapedBlocks
import Anchormark.Proofs.Render.Escaping
import Anchormark.Proofs.Render.Front
import Anchormark.Proofs.Render.Total
import Anchormark.Proofs.Text.Blank
import Anchormark.Proofs.Text.Lines
import Anchormark.Proofs.Text.Placement
import Anchormark.Render.Builtin
import Anchormark.Render.Escape
import Anchormark.Render.Handler
import Anchormark.Render.Options
import Anchormark.Render.Table
import Anchormark.Settings.Basic
import Anchormark.Settings.Document
import Anchormark.Settings.File
import Anchormark.Settings.Location
import Anchormark.Span
import Anchormark.Text.Alphanumeric
import Anchormark.Text.Blank
import Anchormark.Text.ByteCursor
import Anchormark.Text.LetterCase
import Anchormark.Text.Lines
import Anchormark.Text.Offset
import Anchormark.Text.Punctuation
import Anchormark.Text.Quoted
import Anchormark.Text.Ranges
import Anchormark.Text.Visible
import Anchormark.Toml.Document
import Anchormark.Toml.Quoted
import Anchormark.Toml.Scalar
import Anchormark.Toml.Value
import Anchormark.Proofs.Node.Ordering
import Anchormark.Proofs.Node.Positions
import Anchormark.Proofs.Render.Dispatch
import Anchormark.Proofs.Render.Visits
import Anchormark.Proofs.Render.Failure
import Anchormark.Proofs.Pipeline.Installation
import Anchormark.Proofs.Anchor.Placing
import Anchormark.Proofs.Attribute.Language
import Anchormark.Proofs.Render.Absence
import Anchormark.Proofs.Command.Invocations
import Anchormark.Proofs.Command.Effects
import Anchormark.Proofs.Attribute.Endings
import Anchormark.Proofs.Render.Unescaping
import Anchormark.Proofs.Render.TableReading
import Anchormark.Proofs.Markdown.References
import Anchormark.Proofs.Attribute.Pieces
import Anchormark.Proofs.Attribute.Spans
import Anchormark.Proofs.Markdown.LineReading
import Anchormark.Proofs.Markdown.Settling
import Anchormark.Proofs.Markdown.Targets
import Anchormark.Proofs.Markdown.Addresses
import Anchormark.Proofs.Render.FencedCode
import Anchormark.Proofs.Render.CodeSpan
import Anchormark.Proofs.Render.TextForm
import Anchormark.Proofs.Render.LineStarts
import Anchormark.Proofs.Render.LinkText
import Anchormark.Proofs.Render.LinkLines
import Anchormark.Proofs.Render.Links
import Anchormark.Proofs.Render.Containers
import Anchormark.Proofs.Node.EmptyTitles
import Anchormark.Proofs.Render.LineMarks
import Anchormark.Proofs.Render.RawHtml
import Anchormark.Proofs.Node.InlineRuns
import Anchormark.Proofs.Node.OpenTags
import Anchormark.Proofs.Node.SideBySide
import Anchormark.Proofs.Node.Covering
import Anchormark.Proofs.Node.Diverging
import Anchormark.Proofs.Node.Transparent
import Anchormark.Proofs.Node.Paths
import Anchormark.Proofs.Node.Walker
import Anchormark.Proofs.Node.Depths
import Anchormark.Proofs.Node.OutlineLines
import Anchormark.Proofs.Toml.Written
import Anchormark.Proofs.Settings.Saving
import Anchormark.Attribute.Scan
import Anchormark.Proofs.Text.Bytes
import Anchormark.Proofs.Attribute.Rounds
import Anchormark.Proofs.Attribute.Scanning
import Anchormark.Proofs.Pipeline.Processing
