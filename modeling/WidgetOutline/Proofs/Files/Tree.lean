import WidgetOutline.Files.Tree
import WidgetOutline.Proofs.Files.Path

namespace WidgetOutline.FileTree

variable {tree middle after : FileTree} {base location other : Location} {names : List String}
  {node : FileNode} {path : String}

theorem lookup_filter_ne {nodes : List (Location × FileNode)} (different : other ≠ location) :
    (nodes.filter (·.1 ≠ location)).lookup other = nodes.lookup other := by
  induction nodes with
  | nil => rfl
  | cons first later ih =>
    obtain ⟨place, node⟩ := first
    by_cases same : place = location
    · subst same
      have apart : (other == place) = false := beq_eq_false_iff_ne.2 different
      rw [List.filter_cons_of_neg (by simp), ih, List.lookup_cons, apart]
    · rw [List.filter_cons_of_pos (by simpa using same), List.lookup_cons, List.lookup_cons, ih]

theorem get?_put (nonempty : location ≠ []) :
    (tree.put location node).get? other =
      if other = location then some node else tree.get? other := by
  unfold get? put
  by_cases same : other = location
  · subst same
    simp [nonempty]
  · have apart : (other == location) = false := beq_eq_false_iff_ne.2 same
    rw [if_neg same, List.lookup_cons, apart, lookup_filter_ne same]

theorem ne_nil_of_get? (found : tree.get? location ≠ some .directory) : location ≠ [] := by
  rintro rfl
  exact found rfl

structure Widens (tree after : FileTree) : Prop where
  workingDirectory : after.workingDirectory = tree.workingDirectory
  get? : ∀ location, after.get? location = tree.get? location ∨
    tree.get? location = none ∧ after.get? location = some .directory

structure KeepsDirectories (tree after : FileTree) : Prop where
  workingDirectory : after.workingDirectory = tree.workingDirectory
  directory : ∀ location, tree.get? location = some .directory →
    after.get? location = some .directory

namespace Widens

theorem refl (tree : FileTree) : tree.Widens tree := ⟨rfl, fun _ => .inl rfl⟩

theorem trans (first : tree.Widens middle) (second : middle.Widens after) : tree.Widens after where
  workingDirectory := second.workingDirectory.trans first.workingDirectory
  get? location := by
    rcases second.get? location with same | ⟨missing, made⟩
    · rw [same]
      exact first.get? location
    · rcases first.get? location with same | ⟨-, made'⟩
      · exact .inr ⟨same ▸ missing, made⟩
      · rw [missing] at made'
        cases made'

theorem kept (widens : tree.Widens after) (found : tree.get? location = some node) :
    after.get? location = some node := by
  rcases widens.get? location with same | ⟨missing, -⟩
  · rw [same, found]
  · rw [missing] at found
    cases found

theorem keepsDirectories (widens : tree.Widens after) : tree.KeepsDirectories after where
  workingDirectory := widens.workingDirectory
  directory _ := widens.kept

theorem put_directory (missing : tree.get? location = none) :
    tree.Widens (tree.put location .directory) where
  workingDirectory := rfl
  get? other := by
    have notDirectory : tree.get? location ≠ some .directory := by simp [missing]
    rw [get?_put (ne_nil_of_get? notDirectory)]
    by_cases same : other = location
    · subst same
      exact .inr ⟨missing, if_pos rfl⟩
    · exact .inl (if_neg same)

end Widens

theorem KeepsDirectories.put_file (content : ByteArray)
    (notDirectory : tree.get? location ≠ some .directory) :
    tree.KeepsDirectories (tree.put location (.file content)) where
  workingDirectory := rfl
  directory other found := by
    rw [get?_put (ne_nil_of_get? notDirectory), if_neg, found]
    rintro rfl
    exact notDirectory found

theorem checkDirectory_ok_iff :
    tree.checkDirectory location = .ok () ↔ tree.get? location = some .directory := by
  unfold checkDirectory
  cases tree.get? location with
  | none => simp
  | some node => cases node <;> simp

theorem walk_cons_ok_iff {name : String} :
    tree.walk base (name :: names) = .ok location ↔ tree.get? base = some .directory ∧
      ((name = "." ∧ tree.walk base names = .ok location) ∨
        (name = ".." ∧ tree.walk base.dropLast names = .ok location) ∨
        (name ≠ "." ∧ name ≠ ".." ∧ name.utf8ByteSize ≤ FilePath.nameLimit ∧
          tree.walk (base ++ [name]) names = .ok location)) := by
  rw [walk]
  cases checked : tree.checkDirectory base with
  | error fault =>
    have other : tree.get? base ≠ some .directory := by
      rw [← checkDirectory_ok_iff.ne, checked]
      simp
    simp [other]
  | ok _ =>
    rw [checkDirectory_ok_iff.1 checked]
    by_cases here : name = "."
    · simp [here]
    · by_cases up : name = ".."
      · simp [up]
      · by_cases long : FilePath.nameLimit < name.utf8ByteSize
        · simp [here, up, long, Nat.not_le.2 long]
        · simp [here, up, long, Nat.le_of_not_lt long]

theorem walk_append_ok_iff {more : List String} :
    tree.walk base (names ++ more) = .ok location ↔
      ∃ place, tree.walk base names = .ok place ∧ tree.walk place more = .ok location := by
  induction names generalizing base with
  | nil => simp [walk]
  | cons name names ih =>
    rw [List.cons_append, walk, walk]
    cases tree.checkDirectory base with
    | error fault => simp
    | ok _ =>
      dsimp only
      split
      · exact ih
      · split
        · exact ih
        · split
          · simp
          · exact ih

theorem walk_kept (kept : tree.KeepsDirectories after) (ok : tree.walk base names = .ok location) :
    after.walk base names = .ok location := by
  induction names generalizing base with
  | nil => exact ok
  | cons name names ih =>
    rw [walk_cons_ok_iff] at ok ⊢
    obtain ⟨directory, rest⟩ := ok
    exact ⟨kept.directory base directory, rest.imp (.imp_right ih)
      (.imp (.imp_right ih) fun ⟨here, up, short, rest⟩ => ⟨here, up, short, ih rest⟩)⟩

theorem locate_ok_iff : tree.locate path = .ok location ↔ path.isEmpty = false ∧
    path.utf8ByteSize ≤ FilePath.pathLimit ∧
    tree.walk (tree.base path) (lookupParts path) = .ok location := by
  unfold locate
  by_cases empty : path.isEmpty
  · simp [empty]
  · by_cases long : FilePath.pathLimit < path.utf8ByteSize
    · simp [empty, long, Nat.not_le.2 long]
    · simp [empty, long, Nat.le_of_not_lt long]

theorem locate_directory_iff :
    (tree.locate path = .ok location ∧ tree.get? location = some .directory) ↔
      path.isEmpty = false ∧ path.utf8ByteSize ≤ FilePath.pathLimit ∧
        tree.walk (tree.base path) (FilePath.parts path) = .ok location ∧
        tree.get? location = some .directory := by
  have ending : (tree.walk (tree.base path) (lookupParts path) = .ok location ∧
      tree.get? location = some .directory) ↔
      tree.walk (tree.base path) (FilePath.parts path) = .ok location ∧
        tree.get? location = some .directory := by
    rw [lookupParts, walk_append_ok_iff]
    split
    · constructor
      · rintro ⟨⟨place, walked, rest⟩, directory⟩
        obtain ⟨-, ⟨-, same⟩ | ⟨up, -⟩ | ⟨here, -⟩⟩ := walk_cons_ok_iff.1 rest
        · rw [walked, Except.ok.inj same]
          exact ⟨rfl, directory⟩
        · exact absurd up (by decide)
        · exact absurd rfl here
      · rintro ⟨walked, directory⟩
        exact ⟨⟨location, walked, walk_cons_ok_iff.2 ⟨directory, .inl ⟨rfl, rfl⟩⟩⟩, directory⟩
    · simp [walk]
  rw [locate_ok_iff, and_assoc, and_assoc, ending]

theorem base_kept (kept : tree.KeepsDirectories after) (path : String) :
    after.base path = tree.base path := by
  rw [base, base, kept.workingDirectory]

theorem locate_kept (kept : tree.KeepsDirectories after) (ok : tree.locate path = .ok location) :
    after.locate path = .ok location := by
  rw [locate_ok_iff] at ok ⊢
  rw [base_kept kept]
  exact ⟨ok.1, ok.2.1, walk_kept kept ok.2.2⟩

theorem makeDirectory_ok (ok : tree.makeDirectory base names = .ok after) :
    ∃ location, tree.get? location = none ∧ after = tree.put location .directory ∧
      after.walk base names = .ok location := by
  unfold makeDirectory at ok
  cases walked : tree.walk base names.dropLast with
  | error fault => simp [walked, bind, Except.bind] at ok
  | ok above =>
    cases checked : tree.checkDirectory above with
    | error fault => simp [walked, checked, bind, Except.bind] at ok
    | ok _ =>
      cases last : names.getLast? with
      | none => simp [walked, checked, last, bind, Except.bind, throw, throwThe,
          MonadExceptOf.throw] at ok
      | some name =>
        simp only [walked, checked, last, bind, Except.bind] at ok
        split at ok
        · cases ok
        · rename_i plain
          split at ok
          · cases ok
          · rename_i short
            cases ok
            simp only [not_or, Option.not_isSome_iff_eq_none] at plain
            obtain ⟨here, up, missing⟩ := plain
            have kept := (Widens.put_directory missing).keepsDirectories
            refine ⟨above ++ [name], missing, rfl, ?_⟩
            rw [← List.dropLast_append_getLast? name last, walk_append_ok_iff]
            exact ⟨above, walk_kept kept walked, walk_cons_ok_iff.2
              ⟨kept.directory above (checkDirectory_ok_iff.1 checked),
                .inr (.inr ⟨here, up, Nat.le_of_not_lt short, rfl⟩)⟩⟩

theorem widens_makeDirectory (ok : tree.makeDirectory base names = .ok after) :
    tree.Widens after := by
  obtain ⟨location, missing, rfl, -⟩ := makeDirectory_ok ok
  exact .put_directory missing

theorem leadsToDirectory_iff : tree.leadsToDirectory base names = true ↔
    ∃ location, tree.walk base names = .ok location ∧ tree.get? location = some .directory := by
  unfold leadsToDirectory
  cases tree.walk base names <;> simp

theorem leadsToDirectory_of_makeDirectory (ok : tree.makeDirectory base names = .ok after) :
    after.leadsToDirectory base names = true := by
  obtain ⟨location, missing, rfl, walked⟩ := makeDirectory_ok ok
  have notDirectory : tree.get? location ≠ some .directory := by simp [missing]
  refine leadsToDirectory_iff.2 ⟨location, walked, ?_⟩
  rw [get?_put (ne_nil_of_get? notDirectory), if_pos rfl]

theorem makeDirectories_grows (tree : FileTree) (base : Location) (names : List String) :
    tree.Widens (tree.makeDirectories base names).2 ∧
      ((tree.makeDirectories base names).1 = .ok () → names ≠ [] →
        (tree.makeDirectories base names).2.leadsToDirectory base names = true) := by
  fun_induction makeDirectories tree base names with
  | case1 => exact ⟨.refl _, fun _ nonempty => absurd rfl nonempty⟩
  | case2 names _ made ok =>
    exact ⟨widens_makeDirectory ok, fun _ _ => leadsToDirectory_of_makeDirectory ok⟩
  | case3 names _ _ fault reached above ih =>
    rw [above] at ih
    exact ⟨ih.1, nofun⟩
  | case4 names _ _ reached above made ok ih =>
    rw [above] at ih
    exact ⟨ih.1.trans (widens_makeDirectory ok), fun _ _ => leadsToDirectory_of_makeDirectory ok⟩
  | case5 names _ _ reached above fault _ ih =>
    rw [above] at ih
    refine ⟨ih.1, fun ok _ => ?_⟩
    split at ok
    · assumption
    · cases ok
  | case6 names _ fault _ _ =>
    refine ⟨.refl _, fun ok _ => ?_⟩
    split at ok
    · assumption
    · cases ok

theorem widens_makePath (tree : FileTree) (path : String) :
    tree.Widens (tree.makePath path).2 := by
  unfold makePath
  split
  · exact .refl tree
  · exact (makeDirectories_grows ..).1

theorem makePath_ok (named : path.isEmpty = false) (ok : tree.makePath path = (.ok (), after)) :
    ∃ folder, after.walk (after.base path) (FilePath.parts path) = .ok folder ∧
      after.locate path = .ok folder ∧ after.get? folder = some .directory := by
  have widens := widens_makePath tree path
  rw [ok] at widens
  have base : after.base path = tree.base path := base_kept widens.keepsDirectories path
  unfold makePath at ok
  split at ok
  · cases ok
  · rename_i short
    have leads : after.leadsToDirectory (tree.base path) (FilePath.parts path) = true := by
      have grows := makeDirectories_grows tree (tree.base path) (FilePath.parts path)
      rw [ok] at grows
      -- A path without names is that of the root, which is a directory all along.
      by_cases nowhere : FilePath.parts path = []
      · have root : tree.base path = [] := if_pos (FilePath.isAbsolute_of_parts named nowhere)
        rw [nowhere, root]
        rfl
      · exact grows.2 rfl nowhere
    obtain ⟨folder, walked, directory⟩ := leadsToDirectory_iff.1 leads
    rw [← base] at walked
    exact ⟨folder, walked,
      locate_directory_iff.2 ⟨named, Nat.le_of_not_lt short, walked, directory⟩⟩

theorem makeDirectory_present (nonempty : names ≠ [])
    (leads : tree.leadsToDirectory base names = true) :
    tree.makeDirectory base names = .error .exists := by
  obtain ⟨location, walked, directory⟩ := leadsToDirectory_iff.1 leads
  have last := List.getLast?_eq_some_getLast nonempty
  rw [← List.dropLast_append_getLast nonempty, walk_append_ok_iff] at walked
  obtain ⟨above, walked, rest⟩ := walked
  obtain ⟨checked, plain⟩ := walk_cons_ok_iff.1 rest
  have found : names.getLast nonempty = "." ∨ names.getLast nonempty = ".." ∨
      (tree.get? (above ++ [names.getLast nonempty])).isSome = true := by
    rcases plain with ⟨here, -⟩ | ⟨up, -⟩ | ⟨-, -, -, rest⟩
    · exact .inl here
    · exact .inr (.inl up)
    · rw [Except.ok.inj rest, directory]
      exact .inr (.inr rfl)
  simp only [makeDirectory, walked, checkDirectory_ok_iff.2 checked, last, bind, Except.bind]
  rw [if_pos found]
  rfl

theorem makeDirectories_present (leads : tree.leadsToDirectory base names = true) :
    tree.makeDirectories base names = (.ok (), tree) := by
  by_cases nowhere : names = []
  · rw [makeDirectories, dif_pos nowhere]
  · have present := makeDirectory_present nowhere leads
    rw [makeDirectories, dif_neg nowhere]
    simp [present, leads]

theorem makePath_present {folder : Location} (located : tree.locate path = .ok folder)
    (directory : tree.get? folder = some .directory) : tree.makePath path = (.ok (), tree) := by
  obtain ⟨-, short, leads⟩ := locate_directory_iff.1 ⟨located, directory⟩
  rw [makePath, if_neg (Nat.not_lt.2 short),
    makeDirectories_present (leadsToDirectory_iff.2 ⟨folder, leads⟩)]

theorem locate_join {directory name : String} {folder : Location}
    (named : directory.isEmpty = false) (nonempty : name.isEmpty = false)
    (whole : FilePath.separator ∉ name.toList) (here : name ≠ ".") (up : name ≠ "..")
    (walked : tree.walk (tree.base directory) (FilePath.parts directory) = .ok folder)
    (ok : tree.locate (FilePath.join directory name) = .ok location) :
    location = folder ++ [name] := by
  obtain ⟨-, -, ok⟩ := locate_ok_iff.1 ok
  obtain ⟨front, joined, -, absolute⟩ := FilePath.join_eq named whole
  have last : (FilePath.join directory name).toList.getLast? ≠ some FilePath.separator := by
    rw [joined, ← List.singleton_append, ← List.append_assoc,
      List.getLast?_append_of_ne_nil _ (FilePath.toList_ne_nil nonempty)]
    exact fun ends => whole (List.mem_of_getLast? ends)
  have start : tree.base (FilePath.join directory name) = tree.base directory := by
    rw [base, base, absolute]
  rw [lookupParts, if_neg (by simpa using last), List.append_nil, start,
    FilePath.parts_join named nonempty whole, walk_append_ok_iff] at ok
  obtain ⟨place, walked', ok⟩ := ok
  obtain rfl := Except.ok.inj (walked.symm.trans walked')
  obtain ⟨-, ⟨same, -⟩ | ⟨same, -⟩ | ⟨-, -, -, rest⟩⟩ := walk_cons_ok_iff.1 ok
  · exact absurd same here
  · exact absurd same up
  · exact (Except.ok.inj rest).symm

theorem read_ok_iff {content : ByteArray} : tree.read path = .ok content ↔
    ∃ location, tree.locate path = .ok location ∧ tree.get? location = some (.file content) := by
  unfold read
  cases located : tree.locate path with
  | error fault => simp [bind, Except.bind]
  | ok location =>
    cases found : tree.get? location with
    | none => simp [bind, Except.bind, found, throw, throwThe, MonadExceptOf.throw]
    | some node =>
      cases node <;> simp [bind, Except.bind, found, throw, throwThe, MonadExceptOf.throw, pure,
        Except.pure]

theorem write_ok {content : ByteArray} (ok : tree.write path content = .ok after) :
    ∃ location, tree.locate path = .ok location ∧ tree.get? location ≠ some .directory ∧
      after = tree.put location (.file content) := by
  unfold write at ok
  cases located : tree.locate path with
  | error fault => simp [located, bind, Except.bind] at ok
  | ok location =>
    refine ⟨location, rfl, ?_⟩
    cases found : tree.get? location with
    | none =>
      simp only [located, bind, Except.bind, found] at ok
      split at ok
      · cases ok
      · cases ok
        exact ⟨by simp, rfl⟩
    | some node =>
      cases node with
      | directory =>
        simp [located, bind, Except.bind, found, throw, throwThe, MonadExceptOf.throw] at ok
      | file former =>
        simp only [located, bind, Except.bind, found, pure, Except.pure] at ok
        cases ok
        exact ⟨by simp, rfl⟩

theorem write_file {former content : ByteArray} (located : tree.locate path = .ok location)
    (found : tree.get? location = some (.file former)) :
    tree.write path content = .ok (tree.put location (.file content)) := by
  simp [write, located, found, bind, Except.bind, pure, Except.pure]

theorem mem_entryNames_iff {name : String} (located : tree.locate path = .ok location) :
    name ∈ tree.entryNames path ↔ (tree.get? (location ++ [name])).isSome = true := by
  have filed : (tree.get? (location ++ [name])).isSome = true ↔
      ∃ node, (location ++ [name], node) ∈ tree.nodes := by
    rw [get?, if_neg (by simp), Option.isSome_iff_ne_none, Ne, List.lookup_eq_none_iff]
    simp
  rw [filed, entryNames, located]
  simp only [List.mem_filterMap, Prod.exists]
  constructor
  · rintro ⟨place, node, member, below⟩
    split at below
    · rename_i folder
      rw [← folder, List.dropLast_append_getLast? name below]
      exact ⟨node, member⟩
    · cases below
  · rintro ⟨node, member⟩
    exact ⟨_, node, member, by simp⟩

end WidgetOutline.FileTree
