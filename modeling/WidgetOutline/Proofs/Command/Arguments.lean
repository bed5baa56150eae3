import WidgetOutline.Command.Arguments

namespace WidgetOutline

def Request.Named : Request → Prop
  | .run _ (.format _ _ backupDirectory _) =>
    ∀ directory ∈ backupDirectory, directory.isEmpty = false
  | _ => True

namespace Arguments

def Setting.Named : Setting → Prop
  | .backupDirectory path => path.isEmpty = false
  | _ => True

def Given.Named (given : Given) : Prop :=
  ∀ directory ∈ given.backupDirectory, directory.isEmpty = false

variable {command : Command} {setting : Setting} {given more : Given} {request : Request}

theorem checkPath_ok {path checked : String} (ok : checkPath path = .ok checked) :
    checked.isEmpty = false := by
  unfold checkPath at ok
  split at ok
  · cases ok
  · rename_i named
    cases ok
    simpa using named

theorem readSetting_named {argument : String} {next : Option String} {usesNext : Bool}
    (ok : readSetting command argument next = .ok (setting, usesNext)) : setting.Named := by
  cases setting with
  | backupDirectory path =>
    unfold readSetting at ok
    simp only [bind, Except.bind, pure, Except.pure, throw, throwThe, MonadExceptOf.throw] at ok
    split at ok
    · cases ok
    · split at ok
      · split at ok <;> cases ok
      · split at ok
        · cases ok
        · split at ok
          · split at ok
            · cases ok
            · split at ok
              · cases ok
              · rename_i checked
                cases ok
                exact checkPath_ok checked
          · -- A gutter or a file is no directory.
            split at ok
            · split at ok
              · cases ok
              · split at ok <;> cases ok
            · split at ok
              · cases ok
              · split at ok <;> cases ok
  | _ => trivial

theorem Given.add_named (named : given.Named) (namedSetting : setting.Named)
    (ok : given.add command setting = .ok more) : more.Named := by
  unfold add at ok
  split at ok
  case h_5 =>
    split at ok
    · cases ok
    · cases ok
      rintro _ ⟨⟩
      exact namedSetting
  case h_1 =>
    cases ok
    exact named
  all_goals
    split at ok
    · cases ok
    · cases ok
      exact named

theorem Given.request_named {outerLog : Option String} (named : given.Named)
    (ok : given.request command outerLog = .ok request) : request.Named := by
  unfold Given.request at ok
  split at ok
  · cases ok
    trivial
  · cases ok
    trivial
  · split at ok
    · cases ok
    · cases ok
      exact named
  · cases ok

theorem addFiles_named {files : List String} (named : given.Named)
    (ok : files.foldlM (fun given file => given.add command (.file file)) given = .ok more) :
    more.Named := by
  induction files generalizing given with
  | nil =>
    cases ok
    exact named
  | cons file files ih =>
    rw [List.foldlM_cons] at ok
    cases added : given.add command (.file file) with
    | error error =>
      rw [added] at ok
      cases ok
    | ok next =>
      rw [added] at ok
      have noDirectory : (Setting.file file).Named := trivial
      exact ih (Given.add_named named noDirectory added) ok

theorem readCommand_named {outerLog : Option String} {arguments : List String}
    (named : given.Named) (ok : readCommand command outerLog given arguments = .ok request) :
    request.Named := by
  fun_induction readCommand command outerLog given arguments with
  | case1 given => exact Given.request_named named ok
  | case2 given later =>
    cases paths : later.mapM checkPath with
    | error error =>
      rw [paths] at ok
      cases ok
    | ok files =>
      rw [paths] at ok
      cases added : files.foldlM (fun given file => given.add command (.file file)) given with
      | error error =>
        simp only [bind, Except.bind] at ok added
        rw [added] at ok
        cases ok
      | ok all =>
        simp only [bind, Except.bind] at ok added
        rw [added] at ok
        exact Given.request_named (addFiles_named named added) ok
  | case3 => cases ok
  | case4 =>
    cases ok
    trivial
  | case5 => cases ok
  | case6 given argument later _ setting usesNext _ set more added ih =>
    exact ih (Given.add_named named (readSetting_named set) added) ok

theorem helpOn_named {arguments : List String} (ok : helpOn arguments = .ok request) :
    request.Named := by
  unfold helpOn at ok
  split at ok
  · cases ok
    trivial
  · split at ok <;> cases ok
    trivial
  · cases ok

theorem readAfter_named {log : Option String} {arguments : List String}
    (ok : readAfter log arguments = .ok request) : request.Named := by
  fun_induction readAfter log arguments with
  | case2 => cases ok; trivial
  | case3 => cases ok; trivial
  | case6 log argument later _ _ _ filter usesNext _ _ ih => exact ih ok
  | case7 => exact helpOn_named ok
  | case8 log argument later =>
    have nothing : Given.nothing.Named := nofun
    exact readCommand_named nothing ok
  | _ => cases ok

theorem read_named {arguments : List String} (ok : read arguments = .ok request) :
    request.Named :=
  readAfter_named ok

end Arguments

end WidgetOutline
