import WidgetOutline.Command.Run
import WidgetOutline.Proofs.Archive.Name
import WidgetOutline.Proofs.Command.Arguments
import WidgetOutline.Proofs.Files.Procedure
import WidgetOutline.Proofs.Files.Tree
import Mathlib.Data.List.Induction

namespace WidgetOutline

namespace FileTree

def replace (tree : FileTree) (place archive : Location) (former written : ByteArray) : FileTree :=
  (tree.put archive (.file former)).put place (.file written)

variable {tree : FileTree} {place archive location : Location} {former written : ByteArray}

theorem ne_of_free (found : tree.get? place = some (.file former))
    (free : tree.get? archive = none) : place ≠ archive := by
  rintro rfl
  rw [free] at found
  cases found

theorem get?_replace (found : tree.get? place = some (.file former))
    (free : tree.get? archive = none) : (tree.replace place archive former written).get? location =
      if location = place then some (.file written)
      else if location = archive then some (.file former) else tree.get? location := by
  have notRoot : tree.get? place ≠ some .directory := by simp [found]
  have notRoot' : tree.get? archive ≠ some .directory := by simp [free]
  rw [replace, get?_put (ne_nil_of_get? notRoot), get?_put (ne_nil_of_get? notRoot')]

theorem keeps_replace (found : tree.get? place = some (.file former))
    (free : tree.get? archive = none) (written : ByteArray) :
    tree.KeepsDirectories (tree.replace place archive former written) where
  workingDirectory := rfl
  directory location directory := by
    rw [get?_replace found free, if_neg, if_neg, directory]
    · rintro rfl
      rw [free] at directory
      cases directory
    · rintro rfl
      rw [found] at directory
      cases directory

end FileTree

structure Overwriting where
  file : String
  directory : String
  gutter : Nat

structure Replacement where
  place : Location
  former : ByteArray
  source : String
  aligned : String
  folder : Location
  number : Nat

def Replacement.archive (replacement : Replacement) (stamp : String) (number : Nat) : Location :=
  replacement.folder ++ [Archive.name stamp number]

/-- The earlier version stands at a place in the backup directory that was free, the first one in
the order of the numbers, and the file has its aligned text. -/
structure Replacement.Done (replacement : Replacement) (overwriting : Overwriting) (stamp : String)
    (tree after : FileTree) : Prop where
  located : tree.locate overwriting.file = .ok replacement.place
  original : tree.get? replacement.place = some (.file replacement.former)
  source : String.fromUTF8? replacement.former = some replacement.source
  aligned : align replacement.source overwriting.gutter = .ok replacement.aligned
  directory : after.locate overwriting.directory = .ok replacement.folder
  free : tree.get? (replacement.archive stamp replacement.number) = none
  taken : ∀ earlier < replacement.number,
    (after.get? (replacement.archive stamp earlier)).isSome = true
  archived : after.get? (replacement.archive stamp replacement.number) =
    some (.file replacement.former)
  written : after.get? replacement.place =
    some (.file (Notice.attachTo replacement.aligned overwriting.directory).toUTF8)
  others : ∀ location, location ≠ replacement.place →
    location ≠ replacement.archive stamp replacement.number →
    after.get? location = tree.get? location ∨
      tree.get? location = none ∧ after.get? location = some .directory
  present : (∃ folder, tree.locate overwriting.directory = .ok folder ∧
      tree.get? folder = some .directory) →
    ∀ location, location ≠ replacement.place →
      location ≠ replacement.archive stamp replacement.number →
      after.get? location = tree.get? location

def Overwriting.Keeps (overwriting : Overwriting) (stamp : String) (succeeded : Bool)
    (tree after : FileTree) : Prop :=
  succeeded = false ∧ tree.Widens after ∨
    succeeded = true ∧ ∃ replacement : Replacement, replacement.Done overwriting stamp tree after

section

variable {tree : FileTree} {stamp file aligned directory : String} {place folder : Location}
  {former : ByteArray}

theorem overwrite_run (aligned directory archived : String)
    (located : tree.locate file = .ok place) (found : tree.get? place = some (.file former)) :
    ((overwrite file aligned directory archived).run tree).1.succeeded = true ∧
      ((overwrite file aligned directory archived).run tree).2 =
        tree.put place (.file (Notice.attachTo aligned directory).toUTF8) := by
  unfold overwrite Procedure.writeText
  rw [Procedure.run, FileTree.write_file located found]
  exact ⟨rfl, rfl⟩

theorem archiveAndOverwrite_run (aligned : String) (named : directory.isEmpty = false)
    (clocked : FilePath.separator ∉ stamp.toList) (located : tree.locate file = .ok place)
    (found : tree.get? place = some (.file former))
    (walked : tree.walk (tree.base directory) (FilePath.parts directory) = .ok folder)
    (inFolder : tree.locate directory = .ok folder) :
    let run := (archiveAndOverwrite stamp file aligned directory).run tree
    run.1.succeeded = false ∧ run.2 = tree ∨ run.1.succeeded = true ∧
      ∃ n, tree.get? (folder ++ [Archive.name stamp n]) = none ∧
        (∀ earlier < n, (tree.get? (folder ++ [Archive.name stamp earlier])).isSome = true) ∧
        run.2 = tree.replace place (folder ++ [Archive.name stamp n]) former
          (Notice.attachTo aligned directory).toUTF8 := by
  obtain ⟨n, -, fresh, free, taken⟩ := Archive.freshName_eq stamp (tree.entryNames directory)
  obtain ⟨nonempty, here, up⟩ := Archive.name_plain stamp n
  have missing : tree.get? (folder ++ [Archive.name stamp n]) = none := by
    rwa [FileTree.mem_entryNames_iff inFolder, Option.not_isSome_iff_eq_none] at free
  have read : tree.read file = .ok former := FileTree.read_ok_iff.2 ⟨place, located, found⟩
  intro run
  simp only [run, archiveAndOverwrite, Procedure.run, read, fresh]
  cases written : tree.write (FilePath.join directory (Archive.name stamp n)) former with
  | error fault => exact .inl ⟨rfl, rfl⟩
  | ok copied =>
    obtain ⟨archive, located', -, rfl⟩ := FileTree.write_ok written
    obtain rfl := FileTree.locate_join named nonempty
      (Archive.separator_notMem_name clocked n) here up walked located'
    have notDirectory : tree.get? (folder ++ [Archive.name stamp n]) ≠ some .directory := by
      simp [missing]
    have kept := FileTree.KeepsDirectories.put_file former notDirectory
    have different := FileTree.ne_of_free found missing
    have found' : (tree.put (folder ++ [Archive.name stamp n]) (.file former)).get? place =
        some (.file former) := by
      rw [FileTree.get?_put (by simp), if_neg different, found]
    obtain ⟨succeeded, after⟩ := overwrite_run aligned directory
      (FilePath.join directory (Archive.name stamp n)) (FileTree.locate_kept kept located) found'
    exact .inr ⟨succeeded, n, missing, fun earlier below =>
      (FileTree.mem_entryNames_iff inFolder).1 (taken earlier below), after⟩

theorem done_of_replace {reached : FileTree} {source : String} {gutter n : Nat}
    (widens : tree.Widens reached) (located : tree.locate file = .ok place)
    (found : tree.get? place = some (.file former))
    (decoded : String.fromUTF8? former = some source)
    (formatted : align source gutter = .ok aligned)
    (inFolder : reached.locate directory = .ok folder)
    (free : reached.get? (folder ++ [Archive.name stamp n]) = none)
    (taken : ∀ earlier < n, (reached.get? (folder ++ [Archive.name stamp earlier])).isSome = true)
    (present : tree.makePath directory = (.ok (), tree) → reached = tree) :
    Replacement.Done ⟨place, former, source, aligned, folder, n⟩ ⟨file, directory, gutter⟩ stamp
      tree (reached.replace place (folder ++ [Archive.name stamp n]) former
        (Notice.attachTo aligned directory).toUTF8) := by
  have original : reached.get? place = some (.file former) := widens.kept found
  have elsewhere {location : Location} (notPlace : location ≠ place)
      (notArchive : location ≠ folder ++ [Archive.name stamp n]) :
      (reached.replace place (folder ++ [Archive.name stamp n]) former
        (Notice.attachTo aligned directory).toUTF8).get? location = reached.get? location := by
    rw [FileTree.get?_replace original free, if_neg notPlace, if_neg notArchive]
  exact {
    located
    original := found
    source := decoded
    aligned := formatted
    directory := FileTree.locate_kept (FileTree.keeps_replace original free _) inFolder
    free := by
      rcases widens.get? (folder ++ [Archive.name stamp n]) with same | ⟨missing, -⟩
      · exact same ▸ free
      · exact missing
    taken := fun earlier below => by
      have before := taken earlier below
      rw [Replacement.archive, FileTree.get?_replace original free]
      split
      · rfl
      · split
        · rfl
        · exact before
    archived := by
      have different := FileTree.ne_of_free original free
      rw [Replacement.archive, FileTree.get?_replace original free, if_neg different.symm,
        if_pos rfl]
    written := by
      rw [FileTree.get?_replace original free, if_pos rfl]
    others := fun location notPlace notArchive => by
      rw [elsewhere notPlace notArchive]
      exact widens.get? location
    present := fun ⟨folder', there, isDirectory⟩ location notPlace notArchive => by
      rw [elsewhere notPlace notArchive, present (FileTree.makePath_present there isDirectory)] }

theorem replaceFile_run {source : String} {gutter : Nat} (named : directory.isEmpty = false)
    (clocked : FilePath.separator ∉ stamp.toList) (located : tree.locate file = .ok place)
    (found : tree.get? place = some (.file former))
    (decoded : String.fromUTF8? former = some source)
    (formatted : align source gutter = .ok aligned) :
    let run := (replaceFile stamp file aligned directory).run tree
    Overwriting.Keeps ⟨file, directory, gutter⟩ stamp run.1.succeeded tree run.2 := by
  have widens := tree.widens_makePath directory
  intro run
  simp only [run, replaceFile, Procedure.run]
  cases made : tree.makePath directory with
  | mk outcome reached =>
    rw [made] at widens
    cases outcome with
    | error fault => exact .inl ⟨rfl, widens⟩
    | ok _ =>
      obtain ⟨folder, walked, inFolder, -⟩ := FileTree.makePath_ok named made
      have located' := FileTree.locate_kept widens.keepsDirectories located
      have found' := widens.kept found
      rcases archiveAndOverwrite_run aligned named clocked located' found' walked inFolder with
        ⟨failed, same⟩ | ⟨succeeded, n, free, taken, after⟩
      · exact .inl ⟨failed, by rwa [same]⟩
      · refine .inr ⟨succeeded, ⟨place, former, source, aligned, folder, n⟩, ?_⟩
        rw [after]
        exact done_of_replace widens located found decoded formatted inFolder free taken
          fun present => (Prod.mk.inj (made.symm.trans present)).2

theorem formatFile_run {surroundings : Surroundings} {backupDirectory : Option String}
    {gutter : Nat} (named : ∀ directory ∈ backupDirectory, directory.isEmpty = false)
    (clocked : FilePath.separator ∉ surroundings.stamp.toList) :
    let run := (formatFile surroundings file true backupDirectory gutter).run tree
    Overwriting.Keeps ⟨file,
      backupDirectory.getD (defaultBackupDirectory surroundings.dataDirectory file), gutter⟩
      surroundings.stamp run.1.succeeded tree run.2 := by
  have unchanged (outcome : Outcome) (failed : outcome.succeeded = false) :
      Overwriting.Keeps ⟨file,
        backupDirectory.getD (defaultBackupDirectory surroundings.dataDirectory file), gutter⟩
        surroundings.stamp outcome.succeeded tree tree := .inl ⟨failed, .refl tree⟩
  have named' : (backupDirectory.getD
      (defaultBackupDirectory surroundings.dataDirectory file)).isEmpty = false := by
    cases backupDirectory with
    | some directory => exact named directory rfl
    | none =>
      unfold defaultBackupDirectory
      cases surroundings.dataDirectory <;> exact FilePath.join_named _ (by decide)
  intro run
  simp only [run, formatFile]
  rcases Procedure.run_readText file _ tree with
    ⟨fault, read⟩ | ⟨content, source, read, decoded, same⟩
  · rw [read]
    exact unchanged _ rfl
  · rw [same]
    obtain ⟨place, located, found⟩ := FileTree.read_ok_iff.1 read
    dsimp only
    cases formatted : align source gutter with
    | error error => exact unchanged _ rfl
    | ok aligned =>
      exact replaceFile_run named' clocked located found decoded formatted

end

theorem buildFile_run (file : String) (tree : FileTree) : ((buildFile file).run tree).2 = tree := by
  unfold buildFile
  rcases Procedure.run_readText file _ tree with ⟨fault, read⟩ | ⟨content, source, -, -, read⟩
  · rw [read]
    rfl
  · rw [read]
    rfl

theorem checkEach_run {files : List String} {next : List Verdict → Procedure Outcome}
    {tree : FileTree} (reads : ∀ verdicts, ((next verdicts).run tree).2 = tree) :
    ((checkEach files next).run tree).2 = tree := by
  induction files generalizing next with
  | nil => exact reads []
  | cons file later ih =>
    unfold checkEach
    rcases Procedure.run_readText file _ tree with ⟨fault, read⟩ | ⟨content, source, -, -, read⟩
    · rw [read]
      exact ih fun verdicts => reads _
    · rw [read]
      exact ih fun verdicts => reads _

theorem formatFile_run_aligned (surroundings : Surroundings) (file : String)
    (backupDirectory : Option String) (gutter : Nat) (tree : FileTree) :
    ((formatFile surroundings file false backupDirectory gutter).run tree).2 = tree := by
  unfold formatFile
  rcases Procedure.run_readText file _ tree with ⟨fault, read⟩ | ⟨content, source, -, -, read⟩
  · rw [read]
    rfl
  · rw [read]
    dsimp only
    cases align source gutter <;> rfl

structure Invocation where
  surroundings : Surroundings
  arguments : List String
  workingDirectory : Location
  clocked : FilePath.separator ∉ surroundings.stamp.toList

namespace Invocation

variable (run : Invocation) (tree : FileTree)

def overwriting? : Option Overwriting :=
  match Arguments.read run.arguments with
  | .ok (.run _ (.format file true backupDirectory gutter)) =>
    some ⟨file, backupDirectory.getD
      (defaultBackupDirectory run.surroundings.dataDirectory file), gutter⟩
  | _ => none

def start : FileTree := { tree with workingDirectory := run.workingDirectory }

def perform : Shown × FileTree :=
  (runCommand run.surroundings run.arguments).run (run.start tree)

/-- What a run does to the files: it fails or replaces the file that it is to overwrite, or only
reads. -/
def Keeps : Prop :=
  match run.overwriting? with
  | none => (run.perform tree).2 = run.start tree
  | some overwriting =>
    (run.perform tree).1.exitCode ≠ 0 ∧ (run.start tree).Widens (run.perform tree).2 ∨
    (run.perform tree).1.exitCode = 0 ∧ ∃ replacement : Replacement,
      replacement.Done overwriting run.surroundings.stamp (run.start tree) (run.perform tree).2

theorem perform_keeps : run.Keeps tree := by
  unfold Keeps overwriting? perform runCommand
  cases read : Arguments.read run.arguments with
  | error error => rfl
  | ok request =>
    cases request with
    | help => rfl
    | version => rfl
    | run log action =>
      simp only [Procedure.run_map]
      cases action with
      | build file => exact buildFile_run file _
      | check files => exact checkEach_run fun _ => rfl
      | format file write backupDirectory gutter =>
        cases write with
        | false => exact formatFile_run_aligned ..
        | true =>
          rcases formatFile_run (Arguments.read_named read) run.clocked with
            ⟨failed, widens⟩ | ⟨succeeded, replaced⟩
          · exact .inl ⟨by simp [Outcome.shown, Action.perform, failed], widens⟩
          · exact .inr ⟨by simp [Outcome.shown, Action.perform, succeeded], replaced⟩

def Overwrites (location : Location) : Prop :=
  ∃ overwriting, run.overwriting? = some overwriting ∧
    (run.start tree).locate overwriting.file = .ok location

variable {location : Location} {content : ByteArray}

theorem kept_of_done {overwriting : Overwriting} {replacement : Replacement} {stamp : String}
    {after : FileTree} (asked : run.overwriting? = some overwriting)
    (found : tree.get? location = some (.file content))
    (done : replacement.Done overwriting stamp (run.start tree) after) :
    (∃ left, after.get? location = some (.file left) ∧
      (left = content ∨ run.Overwrites tree location)) ∧
    ∃ copy, after.get? copy = some (.file content) := by
  have there : (run.start tree).get? location = some (.file content) := found
  by_cases same : location = replacement.place
  · subst same
    obtain ⟨rfl⟩ := Option.some.inj (done.original.symm.trans there)
    exact ⟨⟨_, done.written, .inr ⟨overwriting, asked, done.located⟩⟩, _, done.archived⟩
  · have notArchive : location ≠ replacement.archive stamp replacement.number := by
      rintro rfl
      rw [done.free] at there
      cases there
    have kept : after.get? location = some (.file content) := by
      rcases done.others location same notArchive with unchanged | ⟨missing, -⟩
      · rw [unchanged, there]
      · rw [missing] at there
        cases there
    exact ⟨⟨content, kept, .inl rfl⟩, location, kept⟩

theorem kept_of_perform (found : tree.get? location = some (.file content)) :
    (∃ left, (run.perform tree).2.get? location = some (.file left) ∧
      (left = content ∨ run.Overwrites tree location)) ∧
    ∃ copy, (run.perform tree).2.get? copy = some (.file content) := by
  have stays {after : FileTree} (kept : after.get? location = some (.file content)) :
      (∃ left, after.get? location = some (.file left) ∧
        (left = content ∨ run.Overwrites tree location)) ∧
      ∃ copy, after.get? copy = some (.file content) :=
    ⟨⟨content, kept, .inl rfl⟩, location, kept⟩
  have keeps := run.perform_keeps tree
  unfold Keeps at keeps
  cases asked : run.overwriting? with
  | none =>
    rw [asked] at keeps
    exact stays (keeps ▸ found)
  | some overwriting =>
    rw [asked] at keeps
    rcases keeps with ⟨-, widens⟩ | ⟨-, replacement, done⟩
    · exact stays (widens.kept found)
    · exact run.kept_of_done tree asked found done

end Invocation

def FileTree.after (tree : FileTree) (runs : List Invocation) : FileTree :=
  runs.foldl (fun tree run => (run.perform tree).2) tree

theorem kept_of_runs {tree : FileTree} {runs : List Invocation} {location : Location}
    {content : ByteArray} (found : tree.get? location = some (.file content)) :
    (∃ left, (tree.after runs).get? location = some (.file left) ∧
      (left = content ∨ ∃ earlier run later, runs = earlier ++ run :: later ∧
        run.Overwrites (tree.after earlier) location)) ∧
    ∃ copy, (tree.after runs).get? copy = some (.file content) := by
  -- The last run keeps the copy that the runs before it left, wherever that is.
  induction runs using List.reverseRecOn with
  | nil => exact ⟨⟨content, found, .inl rfl⟩, location, found⟩
  | append_singleton runs run ih =>
    have last : tree.after (runs ++ [run]) = (run.perform (tree.after runs)).2 := by
      simp [FileTree.after]
    obtain ⟨⟨before, found', named⟩, copy, copied⟩ := ih
    obtain ⟨⟨left, found'', changed⟩, -⟩ := run.kept_of_perform _ found'
    rw [last]
    refine ⟨⟨left, found'', ?_⟩, (run.kept_of_perform _ copied).2⟩
    rcases changed with rfl | overwrites
    · refine named.imp_right ?_
      rintro ⟨earlier, run', later, rfl, overwrites⟩
      exact ⟨earlier, run', later ++ [run], by simp, overwrites⟩
    · exact .inr ⟨runs, run, [], rfl, overwrites⟩

theorem versions_of_runs :
    (∀ (run : Invocation) (tree : FileTree), run.Keeps tree) ∧
    ∀ (tree : FileTree) (runs : List Invocation) (location : Location) (content : ByteArray),
      tree.get? location = some (.file content) →
      (∃ left, (tree.after runs).get? location = some (.file left) ∧
        (left = content ∨ ∃ earlier run later, runs = earlier ++ run :: later ∧
          run.Overwrites (tree.after earlier) location)) ∧
      ∃ copy, (tree.after runs).get? copy = some (.file content) :=
  ⟨Invocation.perform_keeps, fun _ _ _ _ found => kept_of_runs found⟩

def overwritingTwice : Invocation where
  surroundings := ⟨none, none, "20250101-120000", "2025-01-01T12:00:00Z"⟩
  arguments := ["format", "--write", "--backup-dir", "old", "ui.tl"]
  workingDirectory := ["work"]
  clocked := by decide

def workTree : FileTree where
  nodes := [(["work"], .directory), (["work", "ui.tl"], .file "page WIDGET\n".toUTF8)]
  workingDirectory := []

theorem versions_of_runs_twice :
    let twice := workTree.after [overwritingTwice, overwritingTwice]
    (overwritingTwice.perform workTree).1.exitCode = 0 ∧ overwritingTwice.Keeps workTree ∧
      (twice.get? ["work", "old", "archived_input-20250101-120000-1.txt"]).isSome = true ∧
      (∃ left, twice.get? ["work", "ui.tl"] = some (.file left)) ∧
      ∃ copy, twice.get? copy = some (.file "page WIDGET\n".toUTF8) := by
  intro twice
  have found : workTree.get? ["work", "ui.tl"] = some (.file "page WIDGET\n".toUTF8) := by
    decide +kernel
  obtain ⟨⟨left, found', -⟩, copied⟩ := versions_of_runs.2 workTree
    [overwritingTwice, overwritingTwice] ["work", "ui.tl"] _ found
  exact ⟨by decide +kernel, versions_of_runs.1 overwritingTwice workTree, by decide +kernel,
    ⟨left, found'⟩, copied⟩

end WidgetOutline
