import Std.Time.Format
import WidgetOutline.Command.Run

namespace WidgetOutline.CommandLine

open Std.Time (DateTime PlainDateTime)

/-- The fault behind a request that the system refused.  The system gives the code of a fault that
is no kind of its own as it is or negated. -/
def faultOf : IO.Error → FileFault
  | .noFileOrDirectory _ _ _ => .missing
  | .alreadyExists _ _ _ => .exists
  | .inappropriateType _ 21 _ => .isDirectory
  | .inappropriateType _ _ _ => .notDirectory
  | .invalidArgument _ 36 _ => .nameTooLong
  | .invalidArgument _ 4294967260 _ => .nameTooLong
  | error => .other (toString error)

def attempt {α : Type} (request : IO α) : IO (Except FileFault α) := do
  try return .ok (← request)
  catch error => return .error (faultOf error)

def namesIn (path : String) : IO (List String) := do
  match ← attempt ((← IO.currentDir) / path).readDir with
  | .ok entries => return entries.toList.map (·.fileName)
  | .error _ => return []

def carryOut {α : Type} : Procedure α → IO α
  | .done value => return value
  | .read path next => do carryOut (next (← attempt (IO.FS.readBinFile path)))
  | .makeDirectories path next => do carryOut (next (← attempt (IO.FS.createDirAll path)))
  | .entryNames path next => do carryOut (next (← namesIn path))
  | .write path content next => do
    carryOut (next (← attempt (IO.FS.writeBinFile path content)))

def dataDirectory : IO (Option String) := do
  match ← IO.getEnv "XDG_DATA_HOME", ← IO.getEnv "HOME" with
  | some data, home =>
    if FilePath.isAbsolute data then return some data
    else return home.map (FilePath.join · ".local/share")
  | none, home => return home.map (FilePath.join · ".local/share")

def surroundings : IO Surroundings := do
  let now ← DateTime.now
  return {
    logFilter := ← IO.getEnv "RUST_LOG"
    dataDirectory := ← dataDirectory
    stamp := (← PlainDateTime.now).format "uuuuMMdd-HHmmss"
    time := (now.convertZoneRules .UTC).format "uuuu-MM-dd'T'HH:mm:ss'Z'" }

end WidgetOutline.CommandLine

open WidgetOutline in
def main (arguments : List String) : IO UInt32 := do
  let shown ← CommandLine.carryOut (runCommand (← CommandLine.surroundings) arguments)
  IO.print shown.output
  IO.eprint shown.errors
  return shown.exitCode.toUInt32
