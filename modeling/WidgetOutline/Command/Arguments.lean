import WidgetOutline.Alignment

namespace WidgetOutline

inductive Action where
  | build (file : String)
  | check (files : List String)
  | format (file : String) (write : Bool) (backupDirectory : Option String) (gutter : Nat)
  deriving DecidableEq

inductive Request where
  | help
  | version
  | run (log : Option String) (action : Action)
  deriving DecidableEq

structure UsageError where
  deriving DecidableEq

namespace Arguments

inductive Command where
  | build
  | check
  | format
  deriving DecidableEq

namespace Command

def name : Command → String
  | build => "build"
  | check => "check"
  | format => "format"

def ofName? (name : String) : Option Command :=
  [build, check, format].find? (·.name == name)

end Command

def isOption (argument : String) : Bool :=
  match argument.toList with
  | '-' :: _ :: _ => true
  | _ => false

def isShort (letter : Char) (argument : String) : Bool :=
  ['-', letter].isPrefixOf argument.toList

def inlineValue? (option argument : String) : Option String :=
  let start := option.toList ++ ['=']
  if start.isPrefixOf argument.toList then
    some (String.ofList (argument.toList.drop start.length))
  else none

def gives (option argument : String) : Bool :=
  argument == option || (inlineValue? option argument).isSome

def valueOf (option argument : String) (next : Option String) :
    Except UsageError (String × Bool) :=
  match inlineValue? option argument, next with
  | some value, _ => .ok (value, false)
  | none, some value => if isOption value then .error {} else .ok (value, true)
  | none, none => .error {}

def leftOver (usesNext : Bool) (later : List String) : List String :=
  if usesNext then later.tail else later

theorem length_leftOver_lt (usesNext : Bool) (argument : String) (later : List String) :
    (leftOver usesNext later).length < (argument :: later).length := by
  rw [leftOver, List.length_cons]
  split
  · rw [List.length_tail]
    omega
  · omega

def checkPath (path : String) : Except UsageError String :=
  if path.isEmpty then .error {} else .ok path

/-- A gutter: a decimal number of at least one in 64 bits; a plus sign may stand before it. -/
def readGutter (text : String) : Except UsageError Nat :=
  let digits : List Char :=
    match text.toList with
    | '+' :: digits => digits
    | digits => digits
  let number : Nat := digits.foldl (fun high c => 10 * high + (c.toNat - '0'.toNat)) 0
  if digits ≠ [] ∧ digits.all Char.isDigit ∧ 1 ≤ number ∧ number < UInt64.size then .ok number
  else .error {}

inductive Setting where
  | help
  | file (path : String)
  | log (filter : String)
  | write
  | backupDirectory (path : String)
  | gutter (spaces : Nat)

def readSetting (command : Command) (argument : String) (next : Option String) :
    Except UsageError (Setting × Bool) := do
  if argument = "--help" ∨ isShort 'h' argument then
    return (.help, false)
  if gives "--log" argument then
    let (filter, usesNext) ← valueOf "--log" argument next
    return (.log filter, usesNext)
  if command = .format ∧ argument = "--write" then
    return (.write, false)
  if command = .format ∧ gives "--backup-dir" argument then
    let (directory, usesNext) ← valueOf "--backup-dir" argument next
    return (.backupDirectory (← checkPath directory), usesNext)
  if command = .format ∧ gives "--gutter" argument then
    let (spaces, usesNext) ← valueOf "--gutter" argument next
    return (.gutter (← readGutter spaces), usesNext)
  if isOption argument then throw {}
  return (.file (← checkPath argument), false)

structure Given where
  files : List String
  log : Option String
  write : Bool
  backupDirectory : Option String
  gutter : Option Nat

def Given.nothing : Given where
  files := []
  log := none
  write := false
  backupDirectory := none
  gutter := none

def Given.add (given : Given) (command : Command) : Setting → Except UsageError Given
  | .help => .ok given
  | .file path =>
    if command ≠ .check ∧ given.files ≠ [] then .error {}
    else .ok { given with files := given.files ++ [path] }
  | .log filter =>
    if given.log.isSome then .error {} else .ok { given with log := some filter }
  | .write => if given.write then .error {} else .ok { given with write := true }
  | .backupDirectory path =>
    if given.backupDirectory.isSome then .error {}
    else .ok { given with backupDirectory := some path }
  | .gutter spaces =>
    if given.gutter.isSome then .error {} else .ok { given with gutter := some spaces }

def Given.request (given : Given) (command : Command) (outerLog : Option String) :
    Except UsageError Request :=
  let log := given.log <|> outerLog
  match command, given.files with
  | .build, [file] => .ok (.run log (.build file))
  | .check, file :: files => .ok (.run log (.check (file :: files)))
  | .format, [file] =>
    if given.backupDirectory.isSome ∧ given.write = false then .error {}
    else
      .ok (.run log (.format file given.write given.backupDirectory
        (given.gutter.getD defaultGutter)))
  | _, _ => .error {}

def readCommand (command : Command) (outerLog : Option String) (given : Given) :
    List String → Except UsageError Request
  | [] => given.request command outerLog
  | argument :: later =>
    if argument = "--" then do
      let files ← later.mapM checkPath
      let all ← files.foldlM (fun given file => given.add command (.file file)) given
      all.request command outerLog
    else
      match readSetting command argument later.head? with
      | .error error => .error error
      | .ok (.help, _) => .ok .help
      | .ok (setting, usesNext) =>
        match given.add command setting with
        | .error error => .error error
        | .ok more =>
          readCommand command outerLog more (leftOver usesNext later)
termination_by arguments => arguments.length
decreasing_by exact length_leftOver_lt _ _ _

def helpOn : List String → Except UsageError Request
  | [] => .ok .help
  | [name] => if name = "help" ∨ (Command.ofName? name).isSome then .ok .help else .error {}
  | _ => .error {}

def readAfter (log : Option String) : List String → Except UsageError Request
  | [] => .error {}
  | argument :: later =>
    if argument = "--version" ∨ isShort 'V' argument then .ok .version
    else if argument = "--help" ∨ isShort 'h' argument then .ok .help
    else if gives "--log" argument then
      match valueOf "--log" argument later.head? with
      | .error error => .error error
      | .ok (filter, usesNext) =>
        if log.isSome then .error {}
        else readAfter (some filter) (leftOver usesNext later)
    else if argument = "help" then helpOn later
    else
      match Command.ofName? argument with
      | some command => readCommand command log .nothing later
      | none => .error {}
termination_by arguments => arguments.length
decreasing_by exact length_leftOver_lt _ _ _

def read (arguments : List String) : Except UsageError Request := readAfter none arguments

end Arguments

end WidgetOutline
