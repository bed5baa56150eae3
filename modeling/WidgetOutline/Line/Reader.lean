import WidgetOutline.Line.Basic
import WidgetOutline.Line.Escape
import WidgetOutline.Text.Blank

/-!
# Reading a line

An item line is read in two steps: `cutSpan` separates the code of the line from the display text
in parentheses, and the words of the code decide the rest.  Of the faults of a line the first in
the order of `readLine` is reported.
-/

namespace WidgetOutline

open Text (isBlank trim trimStart words)

def closesLine (rest : List Char) : Bool :=
  match trimStart rest with
  | [] => true
  | c :: _ => c == commentMarker

/-- The text up to the first closing parenthesis that is not escaped and closes the line.
`escaped` says that the text follows an odd number of backslashes. -/
def closedSpan (escaped : Bool) : List Char → Option (List Char)
  | [] => none
  | c :: rest =>
    if c = ')' ∧ escaped = false ∧ closesLine rest = true then some []
    else (closedSpan (c == '\\' && !escaped) rest).map (c :: ·)

def isCode (c : Char) : Bool := c != '(' && c != commentMarker

/-- The code of a line and the text in its parentheses, if it has any.  A parenthesis that opens
must close at the end of the line, before a comment at most. -/
def cutSpan (line : List Char) : Except LineError (List Char × Option (List Char)) :=
  let code := line.takeWhile isCode
  match line.dropWhile isCode with
  | '(' :: inner =>
    match closedSpan false inner with
    | some span => .ok (code, some span)
    | none => .error .unclosed
  | _ => if ')' ∈ code then .error .unopened else .ok (code, none)

def firstOffset? (pattern : List Char) (text : List Char) : Option Nat :=
  if pattern.isPrefixOf text then some 0
  else
    match text with
    | [] => none
    | _ :: rest => (firstOffset? pattern rest).map (· + 1)

def leadOf (indent : Nat) (code name word : List Char) : List Char :=
  let afterName := (firstOffset? name code).getD indent + name.length
  let column := afterName + (firstOffset? word (code.drop afterName)).getD 0
  code.take column

def decodeText (text : List Char) : Except LineError String :=
  match Escape.decode text with
  | .ok decoded => .ok (String.ofList decoded)
  | .error malformed => .error (.escape (String.ofList malformed.sequence))

def displayText : Option (List Char) → Except LineError (Option String)
  | none => .ok none
  | some span => do
    let text ← decodeText span
    return if text.isEmpty then none else some text

def readItem (indent : Nat) (code : List Char) (span : Option (List Char)) (name word : String) :
    Except LineError Item := do
  if name = stretchWord ∨ word = stretchWord then throw .misusedStretch
  if '.' ∈ name.toList then throw (.dottedName name)
  let typeWord ← TypeWord.read word
  let text ← displayText span
  let lead := leadOf indent code name.toList word.toList
  return { indent, name, typeWord, text, lead := String.ofList lead }

def leadingSpaces (line : List Char) : Nat := (line.takeWhile (· == ' ')).length

def readCode (line : List Char) : Except LineError Line := do
  let (code, span) ← cutSpan line
  let indent := leadingSpaces line
  if indent % indentStep ≠ 0 then throw (.indent indent)
  match (words code).map String.ofList with
  | [word] =>
    if word ≠ stretchWord then throw (.wordCount 1)
    if span.isSome then throw .misusedStretch
    return .stretch indent
  | [name, word] => return .item (← readItem indent code span name word)
  | others => throw (.wordCount others.length)

def readLine (line : List Char) : Except LineError Line :=
  if '\t' ∈ line then .error .tab
  else
    match trim line with
    | [] => .ok .blank
    | c :: _ => if c = commentMarker then .ok .comment else readCode line

def Line.read (line : String) : Except LineError Line := readLine line.toList

end WidgetOutline
