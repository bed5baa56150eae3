import WidgetOutline.Command.Run
import WidgetOutline.Proofs.Build.Redeclare
import WidgetOutline.Proofs.Command.Arguments
import WidgetOutline.Proofs.Files.Procedure
import Mathlib

namespace WidgetOutline
open Text

namespace Agree

variable {file : String} {verdict : Verdict} {outcome : Outcome}

end Agree

def Action.shown (action : Action) (surroundings : Surroundings) (log : Option String)
    (tree : FileTree) : Shown :=
  ((action.perform surroundings).run tree).1.shown
    ((LogConfig.mk log).effective surroundings.logFilter) surroundings.time

section

variable {surroundings : Surroundings} {log : Option String} {tree : FileTree}

end

end WidgetOutline
