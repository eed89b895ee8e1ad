import CellWidth.Text.Blank
import CellWidth.Text.Cut
import CellWidth.Text.Hex
import CellWidth.Text.Lines
import CellWidth.Text.Utf8
import CellWidth.Text.Utf8.Lemmas
import CellWidth.CodeRange
import CellWidth.Record
import CellWidth.Width
import CellWidth.Fault
import CellWidth.Table
import CellWidth.Table.Lemmas
import CellWidth.Summary
import CellWidth.Run
import CellWidth.Source
import CellWidth.Tables
import CellWidth.Listing
import CellWidth.Files.Path
import CellWidth.Files.FileTree
import CellWidth.Files.FileSystem
import CellWidth.Files.Publish
import CellWidth.Text.Visible
import CellWidth.Text.Quoted
import CellWidth.Command
import CellWidth.Main
import CellWidth.Proofs.Text.Lines
import CellWidth.Proofs.Text.Trim
import CellWidth.Proofs.Text.Lossy
import CellWidth.Proofs.Source.Reading
import CellWidth.Proofs.Table.Uniqueness
import CellWidth.Proofs.Table.Merging
import CellWidth.Proofs.Table.Working
import CellWidth.Proofs.Tables.Building
import CellWidth.Proofs.Tables.Invariance
import CellWidth.Proofs.Listing.Rendering
import CellWidth.Proofs.Listing.Gate
import CellWidth.Proofs.Listing.Reader
import CellWidth.Proofs.Text.Cut
import CellWidth.Proofs.Text.Quoted
import CellWidth.Proofs.Text.Hex
import CellWidth.Proofs.Listing.RoundTrip
import CellWidth.Proofs.Tables.Concatenation
import CellWidth.Proofs.Files.Paths
import CellWidth.Proofs.Files.Walks
import CellWidth.Proofs.Files.Changes
import CellWidth.Proofs.Files.Publishing
import CellWidth.Proofs.Command.Reporting
import CellWidth.Proofs.Command.Running
import CellWidth.Proofs.Source.LineEnds
import CellWidth.Proofs.Tables.LineEnds
import CellWidth.Proofs.Text.LineEnds
import CellWidth.Proofs.Table.Checking
import CellWidth.Proofs.Record.Grammar
import CellWidth.Proofs.Table.Minimality
import CellWidth.Proofs.Record.Refusal
import CellWidth.Proofs.Record.Layout
import CellWidth.Proofs.Record.Notation
import CellWidth.Proofs.Listing.Placement
import CellWidth.Proofs.Table.Counting
import CellWidth.Proofs.CodeRange.Joining
import CellWidth.Proofs.Files.Extensions
import CellWidth.Proofs.Table.Bounds
import CellWidth.Proofs.Tables.Logging
import CellWidth.Proofs.Listing.Numerals
import CellWidth.Proofs.Tables.Bounds
import CellWidth.Proofs.Word
import CellWidth.Proofs.Record.Codepoints
