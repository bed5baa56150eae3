import WidgetOutline.Line.Reader
import WidgetOutline.Text.Lines

/-!
# Sources

The text of an outline as lines.  A source may be indented as a whole: the lines are read after
the leading spaces that all significant lines share are removed.  Blank lines and comments do not
decide how many those are, so that a comment further to the left shifts nothing.
-/

namespace WidgetOutline

open Text (lines trim)

def isSignificant (line : List Char) : Bool :=
  match trim line with
  | [] => false
  | c :: _ => c != commentMarker

def commonIndent (source : List (List Char)) : Nat :=
  ((source.filter isSignificant).map leadingSpaces).min?.getD 0

def outdent (common : Nat) (line : List Char) : List Char :=
  line.drop (min (leadingSpaces line) common)

def dedent (source : List Char) : List (List Char) :=
  (lines source).map (outdent (commonIndent (lines source)))

def dedentedLines (source : String) : List String :=
  (dedent source.toList).map String.ofList

end WidgetOutline
