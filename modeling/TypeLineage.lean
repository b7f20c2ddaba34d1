import TypeLineage.Command.Arguments
import TypeLineage.Command.Configure
import TypeLineage.Command.Export
import TypeLineage.Command.Inspect
import TypeLineage.Command.Report
import TypeLineage.Command.Request
import TypeLineage.Command.Run
import TypeLineage.Command.Watch
import TypeLineage.Console.Output
import TypeLineage.Declaration.Basic
import TypeLineage.Declaration.Braces
import TypeLineage.Declaration.Header
import TypeLineage.Declaration.Member
import TypeLineage.Declaration.Scan
import TypeLineage.DefineCall
import TypeLineage.Export.Dot
import TypeLineage.Export.Format
import TypeLineage.Export.Json
import TypeLineage.Export.Page
import TypeLineage.Export.Payload
import TypeLineage.FileTree
import TypeLineage.Files
import TypeLineage.Graph.Basic
import TypeLineage.Graph.Depths
import TypeLineage.Graph.Flatten
import TypeLineage.Graph.Focus
import TypeLineage.Hierarchy.Basic
import TypeLineage.Hierarchy.Link
import TypeLineage.Hierarchy.Traversal
import TypeLineage.Keyed
import TypeLineage.Main
import TypeLineage.Notice
import TypeLineage.Number.Binary64
import TypeLineage.Number.Notation
import TypeLineage.Number.Rounding
import TypeLineage.Number.Shortest
import TypeLineage.Outline
import TypeLineage.Path
import TypeLineage.Setting.Basic
import TypeLineage.Setting.Current
import TypeLineage.Setting.Format
import TypeLineage.Setting.Section
import TypeLineage.Setting.Store
import TypeLineage.Setting.Value
import TypeLineage.Terminal.Cluster
import TypeLineage.Terminal.Emoji
import TypeLineage.Terminal.Emoji.Names
import TypeLineage.Terminal.Layout
import TypeLineage.Terminal.Markup
import TypeLineage.Terminal.Print
import TypeLineage.Terminal.Report
import TypeLineage.Terminal.Sequence
import TypeLineage.Terminal.Tree
import TypeLineage.Terminal.Width
import TypeLineage.Terminal.Wrap
import TypeLineage.Text.Blank
import TypeLineage.Text.Digit
import TypeLineage.Text.Find
import TypeLineage.Text.Quoted
import TypeLineage.Text.Ranges
import TypeLineage.Text.Similar
import TypeLineage.Text.Utf8
import TypeLineage.Text.Visible
import TypeLineage.Text.Word
import TypeLineage.Toml.Basic
import TypeLineage.Toml.Entry
import TypeLineage.Toml.Fault
import TypeLineage.Toml.Format
import TypeLineage.Toml.Items
import TypeLineage.Toml.Line
import TypeLineage.Toml.Name
import TypeLineage.Toml.Number
import TypeLineage.Toml.Place
import TypeLineage.Toml.Quoted
import TypeLineage.Toml.Reader
import TypeLineage.Toml.Writer
import TypeLineage.Watch
import TypeLineage.Workspace.Loader
import TypeLineage.Workspace.Sources
import TypeLineage.Proofs.Forest
import TypeLineage.Proofs.Lineage
import TypeLineage.Proofs.Climb
import TypeLineage.Proofs.Linking
import TypeLineage.Proofs.Definition
import TypeLineage.Proofs.Header
import TypeLineage.Proofs.Spelling
import TypeLineage.Proofs.Nesting
import TypeLineage.Proofs.Scan
import TypeLineage.Proofs.Attempts
import TypeLineage.Proofs.Composition
import TypeLineage.Proofs.Spans
import TypeLineage.Proofs.Members
import TypeLineage.Proofs.Rendering
import TypeLineage.Proofs.Keyed
import TypeLineage.Proofs.Alias
import TypeLineage.Proofs.Range
import TypeLineage.Proofs.Values
import TypeLineage.Proofs.Outcome
import TypeLineage.Proofs.Encoding
import TypeLineage.Proofs.Files
import TypeLineage.Proofs.InForce
import TypeLineage.Proofs.Saving
import TypeLineage.Proofs.Store
import TypeLineage.Proofs.Debounce
import TypeLineage.Proofs.Levels
import TypeLineage.Proofs.Candidates
import TypeLineage.Proofs.NormalForm
import TypeLineage.Proofs.Reparse
import TypeLineage.Proofs.Walk
import TypeLineage.Proofs.Outlines
import TypeLineage.Proofs.Loads
import TypeLineage.Proofs.Places
import TypeLineage.Proofs.Listing
import TypeLineage.Proofs.Sources
import TypeLineage.Proofs.Watched
import TypeLineage.Proofs.Lines
import TypeLineage.Proofs.Edges
import TypeLineage.Proofs.Indentation
import TypeLineage.Proofs.Unclosed
import TypeLineage.Proofs.Rows
import TypeLineage.Proofs.Keywords
import TypeLineage.Proofs.Statement
import TypeLineage.Proofs.Layout
import TypeLineage.Proofs.Parameters
import TypeLineage.Proofs.Inheritance
import TypeLineage.Proofs.Ancestry
import TypeLineage.Proofs.Boxes
import TypeLineage.Proofs.Focusing
import TypeLineage.Proofs.Clusters
import TypeLineage.Proofs.Quoting
import TypeLineage.Proofs.Rereading
import TypeLineage.Proofs.Refocusing
import TypeLineage.Proofs.Nearest
import TypeLineage.Proofs.Statistics
import TypeLineage.Proofs.Remarks
import TypeLineage.Proofs.Decoding
import TypeLineage.Proofs.ScriptText
import TypeLineage.Proofs.Embedding
import TypeLineage.Proofs.Slots
import TypeLineage.Proofs.Refusal
import TypeLineage.Proofs.Merging
import TypeLineage.Proofs.Malformed
import TypeLineage.Proofs.Waiting
import TypeLineage.Proofs.Changing
import TypeLineage.Proofs.Calls
import TypeLineage.Proofs.Exporting
import TypeLineage.Proofs.Blocks
import TypeLineage.Proofs.CallSequence
import TypeLineage.Proofs.Pieces
import TypeLineage.Proofs.Cutting
import TypeLineage.Proofs.Fields
