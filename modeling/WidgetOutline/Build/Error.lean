import WidgetOutline.Nesting.Attach
import WidgetOutline.Supply.Basic
import WidgetOutline.Line.Error

namespace WidgetOutline

inductive BuildFault where
  | line (error : LineError)
  | skippedLevel (depth current : Nat)
  | stretchWithChildren
  | stretchAtTopLevel
  | supply (error : SupplyError)
  | attach (error : AttachError)
  | registry (error : RegistryError)
  | emptyInput
  deriving DecidableEq

def BuildFault.message : BuildFault → String
  | line error => error.message
  | skippedLevel depth current =>
    s!"This line is indented too far: it would be at depth {depth}, but the deepest " ++
      s!"parent available is at depth {current}. Indent by {indentStep} spaces per level."
  | stretchWithChildren => "A stretch (<>) cannot have children."
  | stretchAtTopLevel => "A stretch (<>) needs a parent layout; it cannot be at the top level."
  | supply error => error.message
  | attach error => error.message
  | registry error => error.message
  | emptyInput => "The input is empty: it has no lines that describe an item."

structure Place where
  line : Nat
  text : String
  deriving DecidableEq

structure BuildError where
  origin : String
  place : Option Place
  fault : BuildFault
  deriving DecidableEq

def BuildError.message (error : BuildError) : String :=
  match error.place with
  | some place =>
    s!"{error.fault.message}\nThis line: {place.text}\n" ++
      s!"(Line number: {place.line}, from {error.origin})"
  | none => s!"{error.fault.message}\n(From {error.origin})"

end WidgetOutline
