import WidgetOutline.Line.TypeWord

namespace WidgetOutline

def commentMarker : Char := '#'

def stretchWord : String := "<>"

def depthOf (indent : Nat) : Nat := 1 + indent / indentStep

structure Item where
  indent : Nat
  name : String
  typeWord : TypeWord
  /-- The display text with its escapes decoded; never empty. -/
  text : Option String
  lead : String
  deriving DecidableEq

namespace Item

def depth (item : Item) : Nat := depthOf item.indent

def typeColumn (item : Item) : Nat := item.lead.utf8ByteSize

end Item

inductive Line where
  | blank
  | comment
  | stretch (indent : Nat)
  | item (declared : Item)
  deriving DecidableEq

def Line.indent? : Line → Option Nat
  | blank => none
  | comment => none
  | stretch indent => some indent
  | item declared => some declared.indent

end WidgetOutline
