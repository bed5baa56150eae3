import WidgetOutline.Source

namespace WidgetOutline

open Text (trimEnd joinLines)

structure AlignError where
  line : Nat
  cause : LineError
  deriving DecidableEq

def AlignError.message (error : AlignError) : String :=
  s!"cannot re-format line {error.line}: {error.cause.message}"

def defaultGutter : Nat := 6

def readLines (number : Nat) : List (List Char) → Except AlignError (List Line)
  | [] => .ok []
  | line :: later =>
    match readLine line with
    | .error cause => .error { line := number, cause }
    | .ok read => (readLines (number + 1) later).map (read :: ·)

def Item.extent (item : Item) : Nat := item.indent + item.name.length

def Line.extent? : Line → Option Nat
  | item declared => some declared.extent
  | _ => none

def typeWordColumn (gutter : Nat) (read : List Line) : Nat :=
  (read.filterMap Line.extent?).max?.getD 0 + max gutter 1

def alignItem (column : Nat) (line : List Char) (item : Item) : List Char :=
  List.replicate item.indent ' ' ++ item.name.toList ++
    List.replicate (column - item.extent) ' ' ++ trimEnd (line.drop item.lead.length)

def alignLine (column : Nat) (line : List Char) : Line → List Char
  | .item declared => alignItem column line declared
  | _ => trimEnd line

def alignLines (gutter : Nat) (lines : List (List Char)) :
    Except AlignError (List (List Char)) := do
  let read ← readLines 1 lines
  return List.zipWith (alignLine (typeWordColumn gutter read)) lines read

def align (source : String) (gutter : Nat) : Except AlignError String := do
  let aligned ← alignLines gutter (dedent source.toList)
  let final := if source.toList.getLast? = some '\n' then ['\n'] else []
  return String.ofList (joinLines aligned ++ final)

end WidgetOutline
