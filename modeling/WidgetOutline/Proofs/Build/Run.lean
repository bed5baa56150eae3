import WidgetOutline.Build.Basic
import WidgetOutline.Proofs.Alignment.Aligned

/-!
# Runs of a build

What the steps of a build do when they succeed (`Pass.item_ok`, `Pass.stretch_ok`, and for any line
`Pass.Built`) and when they do not (`Pass.Failed`), and the passes that a run of successful lines
leads to (`Pass.Reached`, `Builder.reached_of_build`).
-/

namespace WidgetOutline
open Text

/-! ## Steps -/

theorem Registry.insert_ok_iff {registry after : Registry} {object : ObjectId} {name path : String}
    {provenance : Provenance} :
    registry.insert object name path provenance = .ok after ↔
      registry.checkAvailable object name path provenance = .ok () ∧
        after = registry.push name { path, object, provenance } := by
  unfold insert
  cases registry.checkAvailable object name path provenance with
  | error error => simp
  | ok _ => simp [eq_comm]

namespace Pass

theorem checkDepth_ok_iff {pass : Pass} {depth : Nat} :
    pass.checkDepth depth = .ok () ↔
      (∀ stretch ∈ pass.stretchDepth, depth ≤ stretch) ∧
        depth ≤ pass.registry.currentDepth + 1 := by
  unfold checkDepth
  cases pass.stretchDepth with
  | none => simp
  | some stretch =>
    by_cases below : stretch < depth
    · simp [below]
    · simp [below, Nat.le_of_not_lt below]

structure Registers (pass after : Pass) (name : String) (entry : Entry) : Prop where
  available : pass.registry.checkAvailable entry.object name entry.path entry.provenance = .ok ()
  registry : after.registry = pass.registry.push name entry
  heap : after.scene.heap = pass.scene.heap
  tabs : after.scene.tabs = pass.scene.tabs
  log : after.scene.log = pass.scene.log.push
    (.registered entry.path (pass.scene.heap.classOf entry.object) entry.provenance)
  stretchDepth : after.stretchDepth = pass.stretchDepth

theorem Registers.entries {pass after : Pass} {name : String} {entry : Entry}
    (registers : pass.Registers after name entry) :
    after.registry.entries = pass.registry.entries ++ [entry] :=
  congrArg Registry.entries registers.registry

theorem register_ok {pass after : Pass} {object : ObjectId} {name path : String}
    {provenance : Provenance}
    (ok : pass.register object name path provenance = (.ok (), after)) :
    pass.Registers after name { path, object, provenance } := by
  unfold register at ok
  split at ok
  · cases ok
  · rename_i registry inserted
    cases ok
    obtain ⟨available, rfl⟩ := Registry.insert_ok_iff.1 inserted
    exact ⟨available, rfl, rfl, rfl, rfl, rfl⟩

theorem attachTo_ok {pass after : Pass} {child : Child} {name : String} {parent : ObjectId}
    (ok : pass.attachTo child name parent = (.ok (), after)) :
    ∃ strategy scene, attach child name parent pass.scene = (.ok strategy, scene) ∧
      after = { pass with scene } := by
  unfold attachTo at ok
  split at ok
  · rename_i strategy scene attached
    cases ok
    exact ⟨strategy, scene, attached, rfl⟩
  · cases ok

theorem parentOf_ok_iff {pass : Pass} {depth : Nat} {parent : Entry} :
    pass.parentOf depth = .ok parent ↔ pass.registry.latestAtDepth? (depth - 1) = some parent := by
  unfold parentOf
  cases pass.registry.latestAtDepth? (depth - 1) <;> simp

theorem place_ok {pass after : Pass} {depth : Nat} {object : ObjectId} {name : String}
    {provenance : Provenance} (ok : pass.place depth object name provenance = (.ok (), after)) :
    (depth = 1 ∧ pass.Registers after name { path := name, object, provenance }) ∨
      (depth ≠ 1 ∧ ∃ parent strategy scene,
        pass.registry.latestAtDepth? (depth - 1) = some parent ∧
        attach (.object object) name parent.object pass.scene = (.ok strategy, scene) ∧
        { pass with scene }.Registers after name
          { path := Path.child parent.path name, object, provenance }) := by
  unfold place at ok
  split at ok
  · rename_i top
    exact .inl ⟨top, register_ok ok⟩
  · rename_i nested
    split at ok
    · cases ok
    · rename_i parent found
      unfold placeBelow at ok
      dsimp only at ok
      split at ok
      · cases ok
      · split at ok
        · cases ok
        · rename_i attached
          obtain ⟨strategy, scene, taken, rfl⟩ := attachTo_ok attached
          exact .inr ⟨nested, parent, strategy, scene, parentOf_ok_iff.1 found, taken,
            register_ok ok⟩

theorem stretch_ok {pass after : Pass} {depth : Nat} (ok : pass.stretch depth = (.ok (), after)) :
    pass.checkDepth depth = .ok () ∧ depth ≠ 1 ∧ ∃ parent strategy scene,
      pass.registry.latestAtDepth? (depth - 1) = some parent ∧
      attach .stretch stretchWord parent.object pass.scene = (.ok strategy, scene) ∧
      after = { pass with scene, stretchDepth := some depth } := by
  unfold stretch at ok
  split at ok
  · cases ok
  · rename_i checked
    split at ok
    · cases ok
    · rename_i nested
      split at ok
      · cases ok
      · rename_i parent found
        split at ok
        · cases ok
        · rename_i attached
          obtain ⟨strategy, scene, taken, rfl⟩ := attachTo_ok attached
          cases ok
          exact ⟨checked, nested, parent, strategy, scene, parentOf_ok_iff.1 found, taken, rfl⟩

theorem item_ok {pass after : Pass} {builder : Builder} {declared : Item} {provenance : Provenance}
    (ok : pass.item builder declared provenance = (.ok (), after)) :
    pass.checkDepth declared.depth = .ok () ∧ ∃ object heap,
      supply builder.toolkit builder.finder declared.name declared.typeWord declared.text
        pass.scene.heap = (.ok object, heap) ∧
      { pass with stretchDepth := none, scene := { pass.scene with heap } }.place declared.depth
        object declared.name provenance = (.ok (), after) := by
  unfold item at ok
  split at ok
  · cases ok
  · rename_i checked
    dsimp only at ok
    split at ok
    · cases ok
    · rename_i object heap supplied
      exact ⟨checked, object, heap, supplied, ok⟩

/-! ## Lines -/

def supplied (pass : Pass) (heap : Heap) : Pass :=
  { pass with stretchDepth := none, scene := { pass.scene with heap } }

inductive Built (builder : Builder) (provenance : Provenance) (pass : Pass) : Line → Pass → Prop
  | silent {line : Line} (silent : line.indent? = none) : Built builder provenance pass line pass
  | stretch {indent : Nat} {parent : Entry} {strategy : Strategy} {scene : Scene}
      (checked : pass.checkDepth (depthOf indent) = .ok ()) (nested : depthOf indent ≠ 1)
      (found : pass.registry.latestAtDepth? (depthOf indent - 1) = some parent)
      (attached : attach .stretch stretchWord parent.object pass.scene = (.ok strategy, scene)) :
      Built builder provenance pass (.stretch indent)
        { pass with scene, stretchDepth := some (depthOf indent) }
  | top {declared : Item} {object : ObjectId} {heap : Heap} {after : Pass}
      (checked : pass.checkDepth declared.depth = .ok ())
      (supply : supply builder.toolkit builder.finder declared.name declared.typeWord declared.text
        pass.scene.heap = (.ok object, heap))
      (level : declared.depth = 1)
      (registers : (pass.supplied heap).Registers after declared.name
        { path := declared.name, object, provenance }) :
      Built builder provenance pass (.item declared) after
  | below {declared : Item} {object : ObjectId} {heap : Heap} {parent : Entry}
      {strategy : Strategy} {scene : Scene} {after : Pass}
      (checked : pass.checkDepth declared.depth = .ok ())
      (supply : supply builder.toolkit builder.finder declared.name declared.typeWord declared.text
        pass.scene.heap = (.ok object, heap))
      (nested : declared.depth ≠ 1)
      (found : pass.registry.latestAtDepth? (declared.depth - 1) = some parent)
      (attached : attach (.object object) declared.name parent.object
        { pass.scene with heap } = (.ok strategy, scene))
      (registers : { pass.supplied heap with scene }.Registers after declared.name
        { path := Path.child parent.path declared.name, object, provenance }) :
      Built builder provenance pass (.item declared) after

theorem built_of_line {builder : Builder} {provenance : Provenance} {pass after : Pass}
    {text : List Char} {line : Line} (read : readLine text = .ok line)
    (ok : pass.line builder provenance text = (.ok (), after)) :
    Built builder provenance pass line after := by
  unfold Pass.line at ok
  rw [read] at ok
  cases line with
  | blank =>
    cases ok
    exact .silent rfl
  | comment =>
    cases ok
    exact .silent rfl
  | stretch indent =>
    obtain ⟨checked, nested, parent, strategy, scene, found, attached, rfl⟩ := stretch_ok ok
    exact .stretch checked nested found attached
  | item declared =>
    obtain ⟨checked, object, heap, supply, placed⟩ := item_ok ok
    rcases place_ok placed with ⟨level, registers⟩ |
      ⟨nested, parent, strategy, scene, found, attached, registers⟩
    · exact .top checked supply level registers
    · exact .below checked supply nested found attached registers

theorem Built.registry {builder : Builder} {provenance : Provenance} {pass after : Pass}
    {line : Line} (built : Built builder provenance pass line after) :
    after.registry = pass.registry ∨ ∃ declared entry, line = .item declared ∧
      (entry.path = declared.name ∨ ∃ above, entry.path = Path.child above declared.name) ∧
      pass.registry.checkAvailable entry.object declared.name entry.path entry.provenance =
        .ok () ∧
      after.registry = pass.registry.push declared.name entry := by
  cases built with
  | silent _ => exact .inl rfl
  | stretch _ _ _ _ => exact .inl rfl
  | @top declared _ _ _ _ _ _ registers =>
    exact .inr ⟨declared, _, rfl, .inl rfl, registers.available, registers.registry⟩
  | @below declared _ _ parent _ _ _ _ _ _ _ _ registers =>
    exact .inr ⟨declared, _, rfl, .inr ⟨parent.path, rfl⟩, registers.available,
      registers.registry⟩

/-! ## Lines at fault -/

theorem register_error {pass after : Pass} {object : ObjectId} {name path : String}
    {provenance : Provenance} {fault : BuildFault}
    (failed : pass.register object name path provenance = (.error fault, after)) :
    ∃ error, pass.registry.checkAvailable object name path provenance = .error error ∧
      fault = .registry error ∧ after = pass := by
  unfold register Registry.insert at failed
  cases checked : pass.registry.checkAvailable object name path provenance with
  | ok _ =>
    rw [checked] at failed
    cases failed
  | error error =>
    rw [checked] at failed
    cases failed
    exact ⟨error, rfl, rfl, rfl⟩

theorem attachTo_error {pass after : Pass} {child : Child} {name : String} {parent : ObjectId}
    {fault : BuildFault} (failed : pass.attachTo child name parent = (.error fault, after)) :
    ∃ error scene, attach child name parent pass.scene = (.error error, scene) ∧
      fault = .attach error ∧ after = { pass with scene } := by
  unfold attachTo at failed
  split at failed
  · cases failed
  · rename_i error scene refused
    cases failed
    exact ⟨error, scene, refused, rfl, rfl⟩

theorem parentOf_error {pass : Pass} {depth : Nat} {fault : BuildFault}
    (failed : pass.parentOf depth = .error fault) :
    pass.registry.latestAtDepth? (depth - 1) = none ∧
      fault = .registry (.noParent (depth - 1)) := by
  unfold parentOf at failed
  cases found : pass.registry.latestAtDepth? (depth - 1) with
  | none =>
    rw [found] at failed
    cases failed
    exact ⟨rfl, rfl⟩
  | some parent =>
    rw [found] at failed
    cases failed

/-- Attaching leaves the registry alone, so what could be registered before can be after. -/
theorem register_attached {pass middle : Pass} {object : ObjectId} {child : Child}
    {name label path : String} {parent : ObjectId} {provenance : Provenance}
    (available : pass.registry.checkAvailable object name path provenance = .ok ())
    (attached : pass.attachTo child label parent = (.ok (), middle)) :
    ∃ after, middle.register object name path provenance = (.ok (), after) := by
  obtain ⟨strategy, scene, -, rfl⟩ := attachTo_ok attached
  have inserted := Registry.insert_ok_iff.2 ⟨available, rfl⟩
  unfold register
  dsimp only
  rw [inserted]
  exact ⟨_, rfl⟩

inductive Failed (builder : Builder) (provenance : Provenance) (pass : Pass) :
    Line → BuildFault → Pass → Prop
  | deep {line : Line} {indent : Nat} {fault : BuildFault} (indented : line.indent? = some indent)
      (refused : pass.checkDepth (depthOf indent) = .error fault) :
      Failed builder provenance pass line fault pass
  | flat {indent : Nat} (checked : pass.checkDepth (depthOf indent) = .ok ())
      (level : depthOf indent = 1) :
      Failed builder provenance pass (.stretch indent) .stretchAtTopLevel pass
  | orphan {line : Line} {indent : Nat} {after : Pass} (indented : line.indent? = some indent)
      (checked : pass.checkDepth (depthOf indent) = .ok ()) (nested : depthOf indent ≠ 1)
      (missing : pass.registry.latestAtDepth? (depthOf indent - 1) = none)
      (kept : after = pass ∨ ∃ heap, after = pass.supplied heap) :
      Failed builder provenance pass line (.registry (.noParent (depthOf indent - 1))) after
  | stretch {indent : Nat} {parent : Entry} {error : AttachError} {scene : Scene}
      (checked : pass.checkDepth (depthOf indent) = .ok ()) (nested : depthOf indent ≠ 1)
      (found : pass.registry.latestAtDepth? (depthOf indent - 1) = some parent)
      (refused : attach .stretch stretchWord parent.object pass.scene = (.error error, scene)) :
      Failed builder provenance pass (.stretch indent) (.attach error) { pass with scene }
  | supply {declared : Item} {error : SupplyError} {heap : Heap}
      (checked : pass.checkDepth declared.depth = .ok ())
      (refused : supply builder.toolkit builder.finder declared.name declared.typeWord
        declared.text pass.scene.heap = (.error error, heap)) :
      Failed builder provenance pass (.item declared) (.supply error) (pass.supplied heap)
  | taken {declared : Item} {object : ObjectId} {heap : Heap} {path : String}
      {error : RegistryError} (checked : pass.checkDepth declared.depth = .ok ())
      (supply : supply builder.toolkit builder.finder declared.name declared.typeWord declared.text
        pass.scene.heap = (.ok object, heap))
      (refused : pass.registry.checkAvailable object declared.name path provenance =
        .error error) :
      Failed builder provenance pass (.item declared) (.registry error) (pass.supplied heap)
  | below {declared : Item} {object : ObjectId} {heap : Heap} {parent : Entry}
      {error : AttachError} {scene : Scene} (checked : pass.checkDepth declared.depth = .ok ())
      (supply : supply builder.toolkit builder.finder declared.name declared.typeWord declared.text
        pass.scene.heap = (.ok object, heap))
      (nested : declared.depth ≠ 1)
      (found : pass.registry.latestAtDepth? (declared.depth - 1) = some parent)
      (available : pass.registry.checkAvailable object declared.name
        (Path.child parent.path declared.name) provenance = .ok ())
      (refused : attach (.object object) declared.name parent.object
        { pass.scene with heap } = (.error error, scene)) :
      Failed builder provenance pass (.item declared) (.attach error)
        { pass.supplied heap with scene }

section

variable {builder : Builder} {provenance : Provenance} {pass after : Pass} {fault : BuildFault}

theorem failed_of_stretch {indent : Nat}
    (failed : pass.stretch (depthOf indent) = (.error fault, after)) :
    Failed builder provenance pass (.stretch indent) fault after := by
  unfold Pass.stretch at failed
  split at failed
  · rename_i refused
    cases failed
    exact .deep rfl refused
  · rename_i checked
    split at failed
    · rename_i level
      cases failed
      exact .flat checked level
    · rename_i nested
      split at failed
      · rename_i orphaned
        cases failed
        obtain ⟨missing, rfl⟩ := parentOf_error orphaned
        exact .orphan rfl checked nested missing (.inl rfl)
      · rename_i parent found
        split at failed
        · rename_i unattached
          cases failed
          obtain ⟨error, scene, refused, rfl, rfl⟩ := attachTo_error unattached
          exact .stretch checked nested (parentOf_ok_iff.1 found) refused
        · cases failed

theorem failed_of_place {declared : Item} {object : ObjectId} {heap : Heap}
    (checked : pass.checkDepth declared.depth = .ok ())
    (supply : supply builder.toolkit builder.finder declared.name declared.typeWord declared.text
      pass.scene.heap = (.ok object, heap))
    (failed : (pass.supplied heap).place declared.depth object declared.name provenance =
      (.error fault, after)) :
    Failed builder provenance pass (.item declared) fault after := by
  unfold place at failed
  split at failed
  · obtain ⟨error, refused, rfl, rfl⟩ := register_error failed
    exact .taken checked supply refused
  · rename_i nested
    split at failed
    · rename_i orphaned
      cases failed
      obtain ⟨missing, rfl⟩ := parentOf_error orphaned
      exact .orphan rfl checked nested missing (.inr ⟨heap, rfl⟩)
    · rename_i parent found
      unfold placeBelow at failed
      dsimp only at failed
      split at failed
      · rename_i refused
        cases failed
        exact .taken checked supply refused
      · rename_i available
        split at failed
        · rename_i unattached
          cases failed
          obtain ⟨error, scene, refused, rfl, rfl⟩ := attachTo_error unattached
          exact .below checked supply nested (parentOf_ok_iff.1 found) available refused
        · rename_i attached
          obtain ⟨done, registered⟩ := register_attached available attached
          rw [registered] at failed
          cases failed

theorem failed_of_item {declared : Item}
    (failed : pass.item builder declared provenance = (.error fault, after)) :
    Failed builder provenance pass (.item declared) fault after := by
  unfold item at failed
  split at failed
  · rename_i refused
    cases failed
    exact .deep rfl refused
  · rename_i checked
    dsimp only at failed
    split at failed
    · rename_i refused
      cases failed
      exact .supply checked refused
    · rename_i supplied
      exact failed_of_place checked supplied failed

theorem failed_of_line {text : List Char} {line : Line} (read : readLine text = .ok line)
    (failed : pass.line builder provenance text = (.error fault, after)) :
    Failed builder provenance pass line fault after := by
  unfold Pass.line at failed
  rw [read] at failed
  cases line with
  | blank => cases failed
  | comment => cases failed
  | stretch indent => exact failed_of_stretch failed
  | item declared => exact failed_of_item failed

end

/-! ## Reached passes -/

inductive Reached (builder : Builder) (origin : String) (heap : Heap) : List Line → Pass → Prop
  | start : Reached builder origin heap [] (.start heap)
  | line {done : List Line} {pass after : Pass} {text : List Char} {line : Line}
      (earlier : Reached builder origin heap done pass) (read : readLine text = .ok line)
      (built : pass.line builder { line := done.length + 1, origin } text = (.ok (), after)) :
      Reached builder origin heap (done ++ [line]) after

theorem reached_of_lines {builder : Builder} {origin : String} {heap : Heap} {common : Nat}
    {texts : List (List Char)} {done : List Line} {pass after : Pass}
    (earlier : Reached builder origin heap done pass)
    (ok : lines builder origin common (done.length + 1) texts pass = (.ok (), after)) :
    ∃ read, Reads (texts.map (outdent common)) read ∧
      Reached builder origin heap (done ++ read) after := by
  induction texts generalizing done pass with
  | nil =>
    cases ok
    exact ⟨[], .nil, by simpa using earlier⟩
  | cons text texts ih =>
    unfold lines at ok
    split at ok
    · rename_i middle built
      cases read : readLine (outdent common text) with
      | error error => simp [Pass.line, read] at built
      | ok line =>
        have next := Reached.line earlier read built
        obtain ⟨later, reads, reached⟩ := ih next (by simpa using ok)
        exact ⟨line :: later, .cons read reads, by simpa using reached⟩
    · cases ok

end Pass

theorem Builder.reached_of_build {builder : Builder} {source origin : String} {heap : Heap}
    {hierarchy : Hierarchy} (ok : (builder.build source origin heap).outcome = .ok hierarchy) :
    ∃ read pass, Reads (dedent source.toList) read ∧ Pass.Reached builder origin heap read pass ∧
      hierarchy.entries = pass.registry.entries ∧
      (builder.build source origin heap).heap = pass.scene.heap := by
  unfold build at ok ⊢
  dsimp only at ok ⊢
  split at ok
  · cases ok
  · rename_i pass built
    obtain ⟨read, reads, reached⟩ := Pass.reached_of_lines .start built
    split at ok
    · cases ok
    · rename_i found same
      cases ok
      refine ⟨read, pass, reads, by simpa using reached, ?_, rfl⟩
      unfold Hierarchy.ofRegistry? at same
      split at same
      · cases same
        rfl
      · cases same

theorem Builder.Result.exists_hierarchy {result : Builder.Result} {paths : List String}
    (run : result.outcome.toOption.map Hierarchy.paths = some paths) :
    ∃ hierarchy, result.outcome = .ok hierarchy ∧ hierarchy.paths = paths := by
  cases built : result.outcome with
  | error error =>
    rw [built] at run
    cases run
  | ok hierarchy =>
    rw [built] at run
    exact ⟨hierarchy, rfl, Option.some.inj run⟩

end WidgetOutline
