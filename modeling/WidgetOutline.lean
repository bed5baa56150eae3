import WidgetOutline.Main
import WidgetOutline.Toolkit.Pool
import WidgetOutline.Proofs.Text.Blank
import WidgetOutline.Proofs.Text.Lines
import WidgetOutline.Proofs.Text.Letters
import WidgetOutline.Proofs.Line.Reading
import WidgetOutline.Proofs.Line.Writing
import WidgetOutline.Proofs.Line.Escape
import WidgetOutline.Proofs.Line.Malformed
import WidgetOutline.Proofs.Line.Parts
import WidgetOutline.Proofs.Line.Stray
import WidgetOutline.Proofs.Source.Indentation
import WidgetOutline.Proofs.Source.Margin
import WidgetOutline.Proofs.Source.Dedent
import WidgetOutline.Proofs.Alignment.Column
import WidgetOutline.Proofs.Alignment.Idempotence
import WidgetOutline.Proofs.Alignment.Meaning
import WidgetOutline.Proofs.Registry.Ledger
import WidgetOutline.Proofs.Registry.Path
import WidgetOutline.Proofs.Registry.Table
import WidgetOutline.Proofs.Nesting.Accepted
import WidgetOutline.Proofs.Nesting.Calls
import WidgetOutline.Proofs.Nesting.Probing
import WidgetOutline.Proofs.Nesting.Containment
import WidgetOutline.Proofs.Nesting.Mirror
import WidgetOutline.Proofs.Nesting.Picture
import WidgetOutline.Proofs.Nesting.Record
import WidgetOutline.Proofs.Nesting.Skeleton
import WidgetOutline.Proofs.Nesting.Soundness
import WidgetOutline.Proofs.Nesting.Wholeness
import WidgetOutline.Proofs.Supply.Builtin
import WidgetOutline.Proofs.Supply.Finding
import WidgetOutline.Proofs.Supply.Ranking
import WidgetOutline.Proofs.Build.OffSide
import WidgetOutline.Proofs.Build.Legality
import WidgetOutline.Proofs.Build.Mirror
import WidgetOutline.Proofs.Build.Places
import WidgetOutline.Proofs.Build.Significance
import WidgetOutline.Proofs.Build.Layout
import WidgetOutline.Proofs.Build.Lookup
import WidgetOutline.Proofs.Build.Faults
import WidgetOutline.Proofs.Build.Kinds
import WidgetOutline.Proofs.Build.Agreement
import WidgetOutline.Proofs.Build.Terse
import WidgetOutline.Proofs.Build.Redeclare
import WidgetOutline.Proofs.Build.Traces
import WidgetOutline.Proofs.Archive.Notice
import WidgetOutline.Proofs.Archive.Replacement
import WidgetOutline.Proofs.Command.Versions
import WidgetOutline.Proofs.Command.Checking
