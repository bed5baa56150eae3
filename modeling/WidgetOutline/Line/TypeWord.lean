import WidgetOutline.Line.Error

namespace WidgetOutline

inductive Keyword where
  | hbox
  | vbox
  | stack
  | split
  | tab
  | widget
  | label
  | button
  | group
  | scroll
  deriving DecidableEq

namespace Keyword

def all : List Keyword :=
  [hbox, vbox, stack, split, tab, widget, label, button, group, scroll]

def word : Keyword → String
  | hbox => "HBOX"
  | vbox => "VBOX"
  | stack => "STACK"
  | split => "SPLIT"
  | tab => "TAB"
  | widget => "WIDGET"
  | label => "LABEL"
  | button => "BUTTON"
  | group => "GROUP"
  | scroll => "SCROLL"

def className : Keyword → String
  | hbox => "QHBoxLayout"
  | vbox => "QVBoxLayout"
  | stack => "QStackedLayout"
  | split => "QSplitter"
  | tab => "QTabWidget"
  | widget => "QWidget"
  | label => "QLabel"
  | button => "QPushButton"
  | group => "QGroupBox"
  | scroll => "QScrollArea"

def ofWord? (word : String) : Option Keyword :=
  all.find? (·.word == word)

end Keyword

inductive TypeWord where
  | keyword (shorthand : Keyword)
  | toolkitClass (name : String)
  | findExisting (name : String)
  deriving DecidableEq

namespace TypeWord

def read (word : String) : Except LineError TypeWord :=
  match word.toList with
  | ['?'] => .error .emptyFindClass
  | '?' :: name => .ok (.findExisting (String.ofList name))
  | _ =>
    match Keyword.ofWord? word with
    | some shorthand => .ok (.keyword shorthand)
    | none => .ok (.toolkitClass word)

def className : TypeWord → String
  | keyword shorthand => shorthand.className
  | toolkitClass name => name
  | findExisting name => name

def written : TypeWord → String
  | keyword shorthand => shorthand.word
  | toolkitClass name => name
  | findExisting name => "?" ++ name

theorem written_of_read {word : String} {typeWord : TypeWord} (h : read word = .ok typeWord) :
    typeWord.written = word := by
  unfold read at h
  split at h
  · cases h
  · rename_i name _ eq
    cases h
    simp [written, ← String.toList_inj, eq]
  · split at h
    · rename_i shorthand found
      cases h
      simpa [written] using List.find?_some found
    · cases h
      rfl

end TypeWord

end WidgetOutline
