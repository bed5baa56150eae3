import WidgetOutline.Build.Error
import WidgetOutline.Alignment
import WidgetOutline.Files.Fault
import WidgetOutline.Command.LogFilter

namespace WidgetOutline

structure CommandFailure where
  message : String
  causes : List String
  deriving DecidableEq

namespace CommandFailure

def ofFault (message : String) (fault : FileFault) : CommandFailure where
  message
  causes := [fault.message]

def unreadable (file : String) (fault : FileFault) : CommandFailure :=
  ofFault s!"Failed to read {file}" fault

def ofBuild (error : BuildError) : CommandFailure where
  message := error.message
  causes := [error.fault.message]

def ofAlign (file : String) (error : AlignError) : CommandFailure where
  message := s!"Cannot re-format {file}"
  causes := [error.message, error.cause.message]

def summary (failure : CommandFailure) : String :=
  ": ".intercalate (failure.message :: failure.causes)

def numberField (n : Nat) : String :=
  String.ofList (List.replicate (5 - (toString n).length) ' ') ++ toString n

def causeLines : List String → List String
  | [cause] => ["    " ++ indentLater "    " cause]
  | causes => causes.zipIdx.map fun (cause, n) =>
    numberField n ++ ": " ++ indentLater "       " cause

def report (failure : CommandFailure) : String :=
  let causes :=
    if failure.causes.isEmpty then ""
    else "\n\nCaused by:\n" ++ "\n".intercalate (causeLines failure.causes)
  s!"Error: {failure.message}" ++ causes ++ "\n"

end CommandFailure

end WidgetOutline
