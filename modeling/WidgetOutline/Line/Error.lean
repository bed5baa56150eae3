import WidgetOutline.Text.Quoted

namespace WidgetOutline

def indentStep : Nat := 2

inductive LineError where
  | tab
  | indent (spaces : Nat)
  | wordCount (found : Nat)
  | unclosed
  | unopened
  | escape (sequence : String)
  | dottedName (name : String)
  | misusedStretch
  | emptyFindClass
  deriving DecidableEq

def LineError.message : LineError → String
  | tab => "this line contains a tab character, which is not allowed"
  | indent spaces =>
    s!"this line is indented by {spaces} spaces; indentation must be a multiple of {indentStep}"
  | wordCount found =>
    s!"cannot split this line into exactly two words (found {found}) " ++
      "after comments and parenthesis have been removed"
  | unclosed =>
    "unbalanced parenthesis: an opening '(' has no closing ')' at the end of the line"
  | unopened => "unbalanced parenthesis: a ')' has no opening '('"
  | escape sequence =>
    s!"unrecognised escape sequence {Text.quoted sequence} in the parenthesised text"
  | dottedName name =>
    s!"the name <{name}> contains a '.', which is reserved as the path separator"
  | misusedStretch => "<> is reserved for stretch and stands alone on its line"
  | emptyFindClass => "the find marker '?' must be followed by a class name"

end WidgetOutline
