import WidgetOutline.Event

namespace WidgetOutline

structure LogConfig where
  filter : Option String

namespace LogConfig

def unset : LogConfig := ⟨none⟩

def withFilter (_ : LogConfig) (filter : String) : LogConfig := ⟨some filter⟩

def effective (config : LogConfig) (environment : Option String) : String :=
  (config.filter <|> environment).getD "info"

end LogConfig

def Level.ofName? (word : String) : Option Level :=
  [error, warn, info, debug, trace].find? fun level => level.name == word.toUpper

/-- The rank up to which events are shown.  An empty filter shows errors, and a word that names no
level shows nothing. -/
def shownRank (filter : String) : Nat :=
  if filter.isEmpty then Level.error.rank
  else ((Level.ofName? filter).map Level.rank).getD 0

def Event.isShown (filter : String) (event : Event) : Bool :=
  event.level.rank ≤ shownRank filter

def indentLater (indent : String) (text : String) : String :=
  String.ofList (text.toList.flatMap fun c => if c = '\n' then '\n' :: indent.toList else [c])

def Event.logLine (time : String) (event : Event) : String :=
  let level := event.level.name
  let gap := String.ofList (List.replicate (5 - level.length) ' ')
  s!"[{time} {level}{gap} {event.topic}] " ++ indentLater "    " event.message ++ "\n"

def logText (filter time : String) (events : List Event) : String :=
  String.join ((events.filter (Event.isShown filter)).map (Event.logLine time))

end WidgetOutline
