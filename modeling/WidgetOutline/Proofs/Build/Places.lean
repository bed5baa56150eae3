import WidgetOutline.Proofs.Alignment.Meaning

namespace WidgetOutline
open Text

section

variable (shift : Nat → Nat)

def Provenance.moved (provenance : Provenance) : Provenance :=
  { provenance with line := shift provenance.line }

def Entry.moved (entry : Entry) : Entry :=
  { entry with provenance := entry.provenance.moved shift }

def RegistryError.moved : RegistryError → RegistryError
  | duplicate name path first again =>
    duplicate name path (first.moved shift) (again.moved shift)
  | error => error

def BuildFault.moved : BuildFault → BuildFault
  | registry error => registry (error.moved shift)
  | fault => fault

def BuildError.moved (error : BuildError) : BuildError :=
  { error with
    place := error.place.map fun place => { place with line := shift place.line }
    fault := error.fault.moved shift }

def Event.moved : Event → Event
  | registered path className provenance => registered path className (provenance.moved shift)
  | event => event

def Scene.moved (scene : Scene) : Scene :=
  { scene with log := scene.log.map (Event.moved shift) }

def Registry.moved (registry : Registry) : Registry where
  entries := registry.entries.map (Entry.moved shift)
  index := registry.index
  located name place found := by
    rw [List.length_map]
    exact registry.located name place found

def Hierarchy.moved (hierarchy : Hierarchy) : Hierarchy where
  registry := hierarchy.registry.moved shift
  nonempty := mt List.map_eq_nil_iff.1 hierarchy.nonempty

namespace Pass

def moved (pass : Pass) : Pass where
  scene := pass.scene.moved shift
  registry := pass.registry.moved shift
  stretchDepth := pass.stretchDepth

def movedStep (step : Except BuildFault Unit × Pass) : Except BuildFault Unit × Pass :=
  (step.1.mapError (BuildFault.moved shift), step.2.moved shift)

def movedRun (run : Except BuildError Unit × Pass) : Except BuildError Unit × Pass :=
  (run.1.mapError (BuildError.moved shift), run.2.moved shift)

end Pass

def Builder.Result.moved (result : Builder.Result) : Builder.Result where
  outcome := (result.outcome.mapError (BuildError.moved shift)).map (Hierarchy.moved shift)
  heap := result.heap
  log := result.log.map (Event.moved shift)

end

variable {shift : Nat → Nat}

namespace Registry

theorem find?_moved (registry : Registry) (name : String) :
    (registry.moved shift).find? name = (registry.find? name).map (Entry.moved shift) := by
  rw [find?_eq, find?_eq, Option.map_bind]
  exact congrArg _ (funext fun place => List.getElem?_map)

theorem pathOf?_moved (registry : Registry) (object : ObjectId) :
    (registry.moved shift).pathOf? object = registry.pathOf? object := by
  unfold pathOf? moved
  rw [List.find?_map, Option.map_map]
  rfl

theorem latestAtDepth?_moved (registry : Registry) (depth : Nat) :
    (registry.moved shift).latestAtDepth? depth =
      (registry.latestAtDepth? depth).map (Entry.moved shift) := by
  unfold latestAtDepth? moved
  rw [← List.map_reverse, List.find?_map]
  rfl

theorem currentDepth_moved (registry : Registry) :
    (registry.moved shift).currentDepth = registry.currentDepth := by
  unfold currentDepth moved
  rw [List.getLast?_map, Option.map_map]
  rfl

theorem checkAvailable_moved (registry : Registry) (object : ObjectId) (name path : String)
    (provenance : Provenance) :
    (registry.moved shift).checkAvailable object name path (provenance.moved shift) =
      (registry.checkAvailable object name path provenance).mapError
        (RegistryError.moved shift) := by
  unfold checkAvailable
  rw [find?_moved, pathOf?_moved]
  cases registry.find? name with
  | some taken => rfl
  | none => cases registry.pathOf? object <;> rfl

theorem push_moved (registry : Registry) (name : String) (entry : Entry) :
    (registry.push name entry).moved shift =
      (registry.moved shift).push name (entry.moved shift) := by
  simp [moved, push]

theorem insert_moved (registry : Registry) (object : ObjectId) (name path : String)
    (provenance : Provenance) :
    (registry.moved shift).insert object name path (provenance.moved shift) =
      ((registry.insert object name path provenance).mapError (RegistryError.moved shift)).map
        (moved shift) := by
  unfold insert
  rw [checkAvailable_moved]
  cases registry.checkAvailable object name path provenance with
  | error error => rfl
  | ok _ =>
    simp only [Except.mapError, Except.map, push_moved]
    rfl

theorem dump_moved (registry : Registry) (heap : Heap) :
    (registry.moved shift).dump heap = registry.dump heap := by
  simp [dump, moved, Entry.moved, List.map_map, Function.comp_def]

end Registry

theorem Scene.record_moved (scene : Scene) (event : Event) :
    (scene.record event).moved shift = (scene.moved shift).record (event.moved shift) := by
  simp [Scene.moved, record]

theorem attachBy_moved (child : Child) (name : String) (parent : ObjectId)
    (strategies : List Strategy) (tried : List (Strategy × Refusal)) (scene : Scene) :
    attachBy child name parent strategies tried (scene.moved shift) =
      (attachBy child name parent strategies tried scene).map id (Scene.moved shift) := by
  induction strategies generalizing tried scene with
  | nil => rfl
  | cons strategy later ih =>
    unfold attachBy
    rw [show (scene.moved shift).heap = scene.heap from rfl,
      show (scene.moved shift).tabs = scene.tabs from rfl]
    cases strategy.perform parent scene.tabs.next scene.heap child with
    | mk outcome after =>
      cases outcome with
      | ok _ =>
        simp only [Prod.map, id, Scene.record_moved]
        rfl
      | error refusal =>
        dsimp only
        rw [← ih, Scene.record_moved]
        rfl

theorem attach_moved (child : Child) (name : String) (parent : ObjectId) (scene : Scene) :
    attach child name parent (scene.moved shift) =
      (attach child name parent scene).map id (Scene.moved shift) := by
  unfold attach
  split
  · rfl
  · apply attachBy_moved

namespace Pass

variable (pass : Pass)

theorem checkDepth_moved (depth : Nat) :
    (pass.moved shift).checkDepth depth =
      (pass.checkDepth depth).mapError (BuildFault.moved shift) := by
  unfold checkDepth
  rw [show (pass.moved shift).registry.currentDepth = pass.registry.currentDepth from
    Registry.currentDepth_moved _, show (pass.moved shift).stretchDepth = pass.stretchDepth from rfl]
  split
  · rfl
  · split <;> rfl

theorem parentOf_moved (depth : Nat) :
    (pass.moved shift).parentOf depth =
      ((pass.parentOf depth).mapError (BuildFault.moved shift)).map (Entry.moved shift) := by
  unfold parentOf
  rw [show (pass.moved shift).registry.latestAtDepth? (depth - 1) = _ from
    Registry.latestAtDepth?_moved ..]
  cases pass.registry.latestAtDepth? (depth - 1) <;> rfl

theorem attachTo_moved (child : Child) (name : String) (parent : ObjectId) :
    (pass.moved shift).attachTo child name parent =
      movedStep shift (pass.attachTo child name parent) := by
  unfold attachTo
  rw [show attach child name parent (pass.moved shift).scene = _ from attach_moved ..]
  cases attach child name parent pass.scene with
  | mk outcome scene => cases outcome <;> rfl

theorem register_moved (object : ObjectId) (name path : String) (provenance : Provenance) :
    (pass.moved shift).register object name path (provenance.moved shift) =
      movedStep shift (pass.register object name path provenance) := by
  unfold register
  rw [show (pass.moved shift).registry.insert object name path (provenance.moved shift) = _ from
    Registry.insert_moved ..]
  cases pass.registry.insert object name path provenance with
  | error error => rfl
  | ok registry =>
    refine Prod.ext rfl ?_
    simp only [movedStep, moved, Scene.record_moved]
    rfl

theorem placeBelow_moved (parent : Entry) (object : ObjectId) (name : String)
    (provenance : Provenance) :
    (pass.moved shift).placeBelow (parent.moved shift) object name (provenance.moved shift) =
      movedStep shift (pass.placeBelow parent object name provenance) := by
  unfold placeBelow
  dsimp only
  rw [show (pass.moved shift).registry.checkAvailable object name
    (Path.child (parent.moved shift).path name) (provenance.moved shift) = _ from
    Registry.checkAvailable_moved .., attachTo_moved]
  rw [show (parent.moved shift).path = parent.path from rfl,
    show (parent.moved shift).object = parent.object from rfl]
  cases pass.registry.checkAvailable object name (Path.child parent.path name) provenance with
  | error error => rfl
  | ok _ =>
    cases pass.attachTo (.object object) name parent.object with
    | mk outcome after =>
      cases outcome with
      | error fault => rfl
      | ok _ => apply register_moved

theorem place_moved (depth : Nat) (object : ObjectId) (name : String) (provenance : Provenance) :
    (pass.moved shift).place depth object name (provenance.moved shift) =
      movedStep shift (pass.place depth object name provenance) := by
  unfold place
  split
  · apply register_moved
  · rw [parentOf_moved]
    cases pass.parentOf depth with
    | error fault => rfl
    | ok parent => apply placeBelow_moved

theorem stretch_moved (depth : Nat) :
    (pass.moved shift).stretch depth = movedStep shift (pass.stretch depth) := by
  unfold stretch
  rw [checkDepth_moved, parentOf_moved]
  cases pass.checkDepth depth with
  | error fault => rfl
  | ok _ =>
    simp only [Except.mapError]
    split
    · rfl
    · cases pass.parentOf depth with
      | error fault => rfl
      | ok parent =>
        simp only [Except.map, attachTo_moved]
        rw [show (parent.moved shift).object = parent.object from rfl]
        cases pass.attachTo .stretch stretchWord parent.object with
        | mk outcome after => cases outcome <;> rfl

theorem item_moved (builder : Builder) (declared : Item) (provenance : Provenance) :
    (pass.moved shift).item builder declared (provenance.moved shift) =
      movedStep shift (pass.item builder declared provenance) := by
  unfold item
  rw [checkDepth_moved]
  cases pass.checkDepth declared.depth with
  | error fault => rfl
  | ok _ =>
    simp only [Except.mapError]
    rw [show (pass.moved shift).scene.heap = pass.scene.heap from rfl]
    cases supply builder.toolkit builder.finder declared.name declared.typeWord declared.text
        pass.scene.heap with
    | mk outcome heap =>
      cases outcome with
      | error error => rfl
      | ok object =>
        exact place_moved ({ pass with stretchDepth := none }.withHeap heap) declared.depth object
          declared.name provenance

def heed (builder : Builder) (provenance : Provenance) : Line → Except BuildFault Unit × Pass
  | .blank => (.ok (), pass)
  | .comment => (.ok (), pass)
  | .stretch indent => pass.stretch (depthOf indent)
  | .item declared => pass.item builder declared provenance

variable {pass} {builder : Builder}

theorem line_eq_heed {provenance : Provenance} {text : List Char} {line : Line}
    (read : readLine text = .ok line) :
    pass.line builder provenance text = pass.heed builder provenance line := by
  unfold Pass.line
  rw [read]
  cases line <;> rfl

theorem heed_silent {line : Line} (silent : line.indent? = none) (provenance : Provenance) :
    pass.heed builder provenance line = (.ok (), pass) := by
  cases line with
  | blank => rfl
  | comment => rfl
  | stretch indent => cases silent
  | item declared => cases silent

theorem heed_bare (provenance : Provenance) (line : Line) :
    pass.heed builder provenance line.bare = pass.heed builder provenance line := by
  cases line <;> rfl

theorem heed_moved (provenance : Provenance) (line : Line) :
    (pass.moved shift).heed builder (provenance.moved shift) line =
      movedStep shift (pass.heed builder provenance line) := by
  cases line with
  | blank => rfl
  | comment => rfl
  | stretch indent => apply stretch_moved
  | item declared => apply item_moved

def follow (builder : Builder) (origin : String) :
    List (Line × Nat) → Pass → Except BuildError Unit × Pass
  | [], pass => (.ok (), pass)
  | (line, number) :: later, pass =>
    match pass.heed builder { line := number, origin } line with
    | (.ok (), after) => follow builder origin later after
    | (.error fault, after) =>
      (.error { origin, place := some { line := number, text := "" }, fault }, after)

theorem follow_moved (origin : String) (lines : List (Line × Nat)) (pass : Pass) :
    follow builder origin (lines.map (Prod.map id shift)) (pass.moved shift) =
      movedRun shift (follow builder origin lines pass) := by
  induction lines generalizing pass with
  | nil => rfl
  | cons first later ih =>
    obtain ⟨line, number⟩ := first
    have moved : (pass.moved shift).heed builder { line := shift number, origin } line = _ :=
      heed_moved { line := number, origin } line
    rw [List.map_cons, Prod.map, id, follow, follow, moved]
    cases pass.heed builder { line := number, origin } line with
    | mk outcome after =>
      cases outcome with
      | ok _ => exact ih after
      | error fault => rfl

end Pass

theorem Pass.unquoted_unquoted (run : Except BuildError Unit × Pass) :
    Pass.unquoted (Pass.unquoted run) = Pass.unquoted run := by
  obtain ⟨outcome, pass⟩ := run
  cases outcome with
  | ok _ => rfl
  | error error =>
    obtain ⟨origin, place, fault⟩ := error
    cases place <;> rfl

/-- The lines that take part in the hierarchy, wherever their type-words stand, numbered from
`number` on. -/
def significantAt (number : Nat) : List Line → List (Line × Nat)
  | [] => []
  | line :: later =>
    if line.indent?.isSome then (line.bare, number) :: significantAt (number + 1) later
    else significantAt (number + 1) later

theorem Pass.lines_eq_follow {builder : Builder} {origin : String} {common : Nat}
    {texts : List (List Char)} {read : List Line} (reads : Reads (texts.map (outdent common)) read)
    (number : Nat) (pass : Pass) :
    Pass.unquoted (lines builder origin common number texts pass) =
      follow builder origin (significantAt number read) pass := by
  induction texts generalizing read number pass with
  | nil =>
    obtain rfl := List.forall₂_nil_left_iff.1 reads
    rfl
  | cons text texts ih =>
    obtain ⟨line, read, first, later, rfl⟩ := List.forall₂_cons_left_iff.1 reads
    rw [lines, line_eq_heed first, significantAt]
    cases indent : line.indent? with
    | none =>
      rw [heed_silent indent]
      exact ih later (number + 1) pass
    | some n =>
      rw [if_pos (Option.isSome_some), follow, heed_bare]
      cases pass.heed builder { line := number, origin } line with
      | mk outcome after =>
        cases outcome with
        | ok _ => exact ih later (number + 1) after
        | error fault => rfl

theorem Hierarchy.ofRegistry?_moved (registry : Registry) :
    ofRegistry? (registry.moved shift) = ( ofRegistry? registry).map (moved shift) := by
  have empty : (registry.moved shift).entries = [] ↔ registry.entries = [] := List.map_eq_nil_iff
  unfold ofRegistry?
  by_cases none : registry.entries = []
  · rw [dif_neg (not_not.2 none), dif_neg (not_not.2 (empty.2 none))]
    rfl
  · rw [dif_pos none, dif_pos (mt empty.1 none)]
    rfl

namespace Builder

theorem finish_moved (origin : String) (run : Except BuildError Unit × Pass) :
    finish origin (Pass.movedRun shift run) = (finish origin run).moved shift := by
  obtain ⟨outcome, pass⟩ := run
  cases outcome with
  | error error => rfl
  | ok _ =>
    have whole : Hierarchy.ofRegistry? (pass.moved shift).registry = _ :=
      Hierarchy.ofRegistry?_moved pass.registry
    simp only [finish, Pass.movedRun, Except.mapError, whole]
    cases Hierarchy.ofRegistry? pass.registry with
    | none => rfl
    | some hierarchy =>
      have size : (hierarchy.moved shift).size = hierarchy.size := List.length_map ..
      have log : ((pass.moved shift).scene.record (.built hierarchy.size origin)) = _ :=
        (Scene.record_moved pass.scene (.built hierarchy.size origin)).symm
      simp only [Option.map_some, size, log]
      rfl

theorem Result.moved_unquoted (result : Result) :
    (result.moved shift).unquoted = result.unquoted.moved shift := by
  obtain ⟨outcome, heap, log⟩ := result
  cases outcome with
  | ok hierarchy => rfl
  | error error =>
    obtain ⟨origin, place, fault⟩ := error
    cases place <;> rfl

theorem build_eq_follow {builder : Builder} {source origin : String} {heap : Heap}
    {read : List Line} (reads : Reads (dedent source.toList) read) :
    (builder.build source origin heap).unquoted =
      (finish origin (Pass.follow builder origin (significantAt 1 read) (.start heap))).unquoted := by
  have same : Pass.unquoted (Pass.lines builder origin _ 1 _ (.start heap)) = _ :=
    Pass.lines_eq_follow reads 1 (.start heap)
  rw [build_eq]
  apply finish_unquoted
  rw [← same, Pass.unquoted_unquoted]

theorem start_moved (heap : Heap) : (Pass.start heap).moved shift = .start heap := by
  simp [Pass.moved, Pass.start, Scene.moved, Scene.start, Registry.moved, Registry.empty]

theorem build_moved_eq {builder : Builder} {source origin : String} {heap : Heap}
    {read : List Line} (reads : Reads (dedent source.toList) read) (shift : Nat → Nat) :
    ((builder.build source origin heap).moved shift).unquoted =
      (finish origin (Pass.follow builder origin
        ((significantAt 1 read).map (Prod.map id shift)) (.start heap))).unquoted := by
  rw [Result.moved_unquoted, build_eq_follow reads, ← Result.moved_unquoted, ← finish_moved,
    ← Pass.follow_moved, start_moved]

theorem build_moved {builder : Builder} {source source' origin : String} {heap : Heap}
    {read read' : List Line} {shift shift' : Nat → Nat}
    (reads : Reads (dedent source.toList) read) (reads' : Reads (dedent source'.toList) read')
    (same : (significantAt 1 read).map (Prod.map id shift) =
      (significantAt 1 read').map (Prod.map id shift')) :
    ((builder.build source origin heap).moved shift).unquoted =
      ((builder.build source' origin heap).moved shift').unquoted := by
  rw [build_moved_eq reads, build_moved_eq reads', same]

end Builder

end WidgetOutline
