import WidgetOutline.Archive.Name
import WidgetOutline.Archive.Notice
import WidgetOutline.Build.Basic
import WidgetOutline.Command.Arguments
import WidgetOutline.Command.Report
import WidgetOutline.Files.Procedure

namespace WidgetOutline

structure Surroundings where
  logFilter : Option String
  dataDirectory : Option String
  stamp : String
  time : String

structure Outcome where
  output : String
  log : List Event
  failure : Option CommandFailure
  succeeded : Bool

namespace Outcome

def success (output : String) (log : List Event) : Outcome where
  output
  log
  failure := none
  succeeded := true

def failed (failure : CommandFailure) (log : List Event) : Outcome where
  output := ""
  log
  failure := some failure
  succeeded := false

end Outcome

def buildOutcome (file source : String) : Outcome :=
  let result := build source file
  match result.outcome with
  | .ok hierarchy => .success (hierarchy.dump result.heap) result.log.toList
  | .error error => .failed (.ofBuild error) result.log.toList

def buildFile (file : String) : Procedure Outcome :=
  .readText file fun
    | .error fault => .done (.failed (.unreadable file fault) [])
    | .ok source => .done (buildOutcome file source)

structure Verdict where
  output : String
  log : List Event
  good : Bool

namespace Verdict

def passed (file : String) (count : Nat) (log : List Event) : Verdict where
  output := s!"ok     {file} ({count} items)\n"
  log
  good := true

def refused (file problem : String) (log : List Event) : Verdict where
  output := s!"error  {file}\n{problem}\n\n"
  log
  good := false

def ofSource (file source : String) : Verdict :=
  let result := build source file
  match result.outcome with
  | .ok hierarchy => passed file hierarchy.size result.log.toList
  | .error error => refused file error.message result.log.toList

def ofReading (file : String) : Except FileFault String → Verdict
  | .ok source => ofSource file source
  | .error fault => refused file (CommandFailure.unreadable file fault).summary []

end Verdict

def checkEach : List String → (List Verdict → Procedure Outcome) → Procedure Outcome
  | [], next => next []
  | file :: later, next =>
    .readText file fun reading =>
      checkEach later fun verdicts => next (Verdict.ofReading file reading :: verdicts)

def checkOutcome (verdicts : List Verdict) : Outcome :=
  let failed := verdicts.countP (! ·.good)
  let warning := if failed = 0 then [] else [Event.filesFailed failed verdicts.length]
  { output := String.join (verdicts.map (·.output))
    log := verdicts.flatMap (·.log) ++ warning
    failure := none
    succeeded := failed = 0 }

def checkFiles (files : List String) : Procedure Outcome :=
  checkEach files fun verdicts => .done (checkOutcome verdicts)

def defaultBackupDirectory (dataDirectory : Option String) (file : String) : String :=
  match dataDirectory with
  | some directory => FilePath.join directory "trellis"
  | none => FilePath.join (FilePath.parent file) ".trellis-archive"

def overwrite (file aligned directory archived : String) : Procedure Outcome :=
  .writeText file (Notice.attachTo aligned directory) fun
    | .error fault => .done (.failed (.ofFault s!"Failed to overwrite {file}" fault) [])
    | .ok () =>
      .done (.success s!"re-formatted {file} (previous version: {archived})\n"
        [.reformatted file archived])

def archiveAndOverwrite (stamp file aligned directory : String) : Procedure Outcome :=
  .entryNames directory fun taken =>
    let archived := FilePath.join directory (Archive.freshName stamp taken)
    let problem := s!"Failed to back up {file} to {archived}"
    .read file fun
      | .error fault => .done (.failed (.ofFault problem fault) [])
      | .ok content =>
        .write archived content fun
          | .error fault => .done (.failed (.ofFault problem fault) [])
          | .ok () => overwrite file aligned directory archived

def replaceFile (stamp file aligned directory : String) : Procedure Outcome :=
  .makeDirectories directory fun
    | .error fault => .done (.failed (.ofFault s!"Failed to create {directory}" fault) [])
    | .ok () => archiveAndOverwrite stamp file aligned directory

def formatFile (surroundings : Surroundings) (file : String) (write : Bool)
    (backupDirectory : Option String) (gutter : Nat) : Procedure Outcome :=
  .readText file fun
    | .error fault => .done (.failed (.unreadable file fault) [])
    | .ok source =>
      match align source gutter with
      | .error error => .done (.failed (.ofAlign file error) [])
      | .ok aligned =>
        if write then
          replaceFile surroundings.stamp file aligned
            (backupDirectory.getD (defaultBackupDirectory surroundings.dataDirectory file))
        else .done (.success aligned [])

def Action.perform (surroundings : Surroundings) : Action → Procedure Outcome
  | build file => buildFile file
  | check files => checkFiles files
  | format file write backupDirectory gutter =>
    formatFile surroundings file write backupDirectory gutter

structure Shown where
  exitCode : Nat
  output : String
  errors : String
  deriving DecidableEq

def usage : String :=
  "Usage: trellis [--log FILTER] <COMMAND>\n\n" ++
    "Commands:\n" ++
    "  build FILE\n" ++
    "  check FILE...\n" ++
    "  format [--write [--backup-dir DIR]] [--gutter N] FILE\n"

def versionLine : String := "trellis 0.1.0\n"

def Outcome.shown (outcome : Outcome) (filter time : String) : Shown where
  exitCode := if outcome.succeeded then 0 else 1
  output := outcome.output
  errors := logText filter time (.loggingReady :: outcome.log) ++
    (outcome.failure.map CommandFailure.report).getD ""

def runCommand (surroundings : Surroundings) (arguments : List String) : Procedure Shown :=
  match Arguments.read arguments with
  | .error _ => .done { exitCode := 2, output := "", errors := usage }
  | .ok .help => .done { exitCode := 0, output := usage, errors := "" }
  | .ok .version => .done { exitCode := 0, output := versionLine, errors := "" }
  | .ok (.run log action) =>
    let filter := (LogConfig.mk log).effective surroundings.logFilter
    (action.perform surroundings).map (·.shown filter surroundings.time)

end WidgetOutline
