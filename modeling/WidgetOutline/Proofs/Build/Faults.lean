import WidgetOutline.Toolkit.Pool
import WidgetOutline.Proofs.Build.Legality
import WidgetOutline.Proofs.Nesting.Record

namespace WidgetOutline
open Text

/-! ## Registering what was attached -/

/-- Right after an item is attached comes its registration, under a path that ends with its
name. -/
def RegistersAttached (log : List Event) : Prop :=
  ∀ place child strategy parentClass, log[place]? = some (.attached child strategy parentClass) →
    child ≠ stretchWord → ∃ path className provenance,
      log[place + 1]? = some (.registered path className provenance) ∧
      Path.lastSegment path = child

namespace RegistersAttached

theorem of_none {log : List Event}
    (none : ∀ child strategy parentClass, .attached child strategy parentClass ∈ log →
      child = stretchWord) : RegistersAttached log := by
  intro place child strategy parentClass located item
  exact absurd (none child strategy parentClass (List.mem_of_getElem? located)) item

theorem append {before after : List Event} (first : RegistersAttached before)
    (second : RegistersAttached after) : RegistersAttached (before ++ after) := by
  intro place child strategy parentClass located item
  by_cases inside : place < before.length
  · rw [List.getElem?_append_left inside] at located
    obtain ⟨path, className, provenance, next, same⟩ :=
      first place child strategy parentClass located item
    have bound := (List.getElem?_eq_some_iff.1 next).1
    exact ⟨path, className, provenance, by rwa [List.getElem?_append_left bound], same⟩
  · have outside := Nat.le_of_not_lt inside
    rw [List.getElem?_append_right outside] at located
    obtain ⟨path, className, provenance, next, same⟩ :=
      second _ child strategy parentClass located item
    rw [← Nat.sub_add_comm outside] at next
    exact ⟨path, className, provenance, by rwa [List.getElem?_append_right (by omega)], same⟩

theorem pair {child parentClass path className : String} {strategy : Strategy}
    {provenance : Provenance} (same : Path.lastSegment path = child) :
    RegistersAttached [.attached child strategy parentClass,
      .registered path className provenance] := by
  intro place child' strategy' parentClass' located _
  match place with
  | 0 =>
    cases located
    exact ⟨path, className, provenance, rfl, same⟩
  | 1 => cases located
  | _ + 2 => cases located

theorem refusals {log : List Event} (refused : ∀ event ∈ log, event.isRefusal = true) :
    RegistersAttached log :=
  of_none fun _ _ _ member => by cases refused _ member

end RegistersAttached

theorem Attempts.registersAttached {name : String} {outcome : Except AttachError Strategy}
    {log : List Event} (attempts : Attempts name outcome log)
    (alone : ∀ strategy, outcome = .ok strategy → name = stretchWord) : RegistersAttached log := by
  obtain ⟨refusals, refused, parts⟩ := attempts
  cases outcome with
  | error error => exact parts ▸ .refusals refused
  | ok strategy =>
    obtain ⟨parentClass, rfl⟩ := parts
    refine .append (.refusals refused) (.of_none ?_)
    intro child strategy' parentClass' member
    cases List.mem_singleton.1 member
    exact alone strategy rfl

theorem Attempts.registersAttached_concat {name path className : String} {strategy : Strategy}
    {log : List Event} {provenance : Provenance} (attempts : Attempts name (.ok strategy) log)
    (same : Path.lastSegment path = name) :
    RegistersAttached (log ++ [.registered path className provenance]) := by
  obtain ⟨refusals, refused, parentClass, rfl⟩ := attempts
  rw [List.append_assoc]
  exact .append (.refusals refused) (.pair same)

namespace Pass

variable {builder : Builder} {provenance : Provenance} {pass after : Pass} {line : Line}
  {text : List Char}

def LogsOn (pass after : Pass) : Prop :=
  ∃ events, after.scene.log.toList = pass.scene.log.toList ++ events ∧ RegistersAttached events

theorem LogsOn.same (same : after.scene.log = pass.scene.log) : pass.LogsOn after :=
  ⟨[], by simp [same], .refusals (by simp)⟩

theorem LogsOn.trans {last : Pass} (first : pass.LogsOn after) (second : after.LogsOn last) :
    pass.LogsOn last := by
  obtain ⟨events, log, registers⟩ := first
  obtain ⟨events', log', registers'⟩ := second
  exact ⟨events ++ events', by rw [log', log, List.append_assoc], registers.append registers'⟩

theorem Built.logsOn (read : readLine text = .ok line)
    (built : Built builder provenance pass line after) : pass.LogsOn after := by
  cases built with
  | silent _ => exact .same rfl
  | stretch _ _ _ attached =>
    obtain ⟨events, log, attempts⟩ := attach_log attached
    exact ⟨events, log, attempts.registersAttached fun _ _ => rfl⟩
  | top _ _ _ registers =>
    refine ⟨_, by rw [registers.log, Array.toList_push, supplied], .of_none ?_⟩
    intro child strategy parentClass member
    cases List.mem_singleton.1 member
  | @below _ _ _ parent _ _ _ _ _ _ _ attached registers =>
    obtain ⟨-, undotted, -⟩ := name_of_readLine read
    obtain ⟨events, log, attempts⟩ := attach_log attached
    have whole := congrArg Array.toList registers.log
    rw [Array.toList_push, log, List.append_assoc] at whole
    exact ⟨_, whole, attempts.registersAttached_concat (Path.lastSegment_child _ undotted)⟩

theorem Failed.logsOn {fault : BuildFault} (failed : Failed builder provenance pass line fault after) :
    pass.LogsOn after := by
  cases failed with
  | deep _ _ => exact .same rfl
  | flat _ _ => exact .same rfl
  | orphan _ _ _ _ kept =>
    rcases kept with rfl | ⟨heap, rfl⟩
    · exact .same rfl
    · exact .same rfl
  | stretch _ _ _ refused =>
    obtain ⟨events, log, attempts⟩ := attach_log refused
    exact ⟨events, log, attempts.registersAttached nofun⟩
  | supply _ _ => exact .same rfl
  | taken _ _ _ => exact .same rfl
  | below _ _ _ _ _ refused =>
    obtain ⟨events, log, attempts⟩ := attach_log refused
    exact ⟨events, log, attempts.registersAttached nofun⟩

theorem line_logsOn {outcome : Except BuildFault Unit}
    (run : pass.line builder provenance text = (outcome, after)) : pass.LogsOn after := by
  cases read : readLine text with
  | error error =>
    unfold Pass.line at run
    rw [read] at run
    cases run
    exact .same rfl
  | ok line =>
    cases outcome with
    | ok _ => exact (built_of_line read run).logsOn read
    | error fault => exact (failed_of_line read run).logsOn

theorem lines_logsOn {origin : String} {common number : Nat} {texts : List (List Char)}
    {outcome : Except BuildError Unit}
    (run : lines builder origin common number texts pass = (outcome, after)) :
    pass.LogsOn after := by
  induction texts generalizing number pass with
  | nil =>
    cases run
    exact .same rfl
  | cons text later ih =>
    unfold lines at run
    split at run
    · rename_i built
      exact (line_logsOn built).trans (ih run)
    · rename_i failed
      cases run
      exact line_logsOn failed

end Pass

theorem registersAttached_of_build (builder : Builder) (source origin : String) (heap : Heap) :
    RegistersAttached (builder.build source origin heap).log.toList := by
  rw [Builder.build_eq]
  cases run : Pass.lines builder origin (commonIndent (lines source.toList)) 1
      (lines source.toList) (.start heap) with
  | mk outcome pass =>
    obtain ⟨events, log, registers⟩ := Pass.lines_logsOn run
    have all : RegistersAttached pass.scene.log.toList := by
      rw [log]
      exact .append (.refusals (by simp [Pass.start, Scene.start])) registers
    cases outcome with
    | error error => exact all
    | ok _ =>
      unfold Builder.finish
      dsimp only
      split
      · exact all
      · rw [Scene.record, Array.toList_push]
        refine all.append (.of_none ?_)
        intro child strategy parentClass member
        cases List.mem_singleton.1 member

/-! ## New objects -/

/-- What the toolkit constructs is a new object every time, and what is found is there. -/
structure Builder.ConstructsNew (builder : Builder) : Prop where
  unknown : ∀ className heap id after, builder.toolkit.construct className heap = (.ok id, after) →
    heap.get? id = none ∧ (after.get? id).isSome = true
  found : ∀ find, builder.finder = .searching find → ∀ heap className reference, className ≠ "" →
    ∀ id ∈ find heap className reference, (heap.get? id).isSome = true

theorem Heap.get?_add_fresh (heap : Heap) (object : Object) :
    heap.get? (heap.add object).1 = none := by
  simp [get?, add]

theorem Toolkit.ofTable_unknown {table : List ClassEntry} {className : String} {heap after : Heap}
    {id : ObjectId} (made : (ofTable table).construct className heap = (.ok id, after)) :
    heap.get? id = none ∧ (after.get? id).isSome = true := by
  unfold ofTable at made
  dsimp only at made
  split at made
  · rename_i object _
    cases made
    exact ⟨heap.get?_add_fresh object, by simp [Heap.get?_add]⟩
  · cases made

theorem Pool.isSome_of_find {pool : Pool} {heap : Heap} {className reference : String}
    {id : ObjectId} (named : className ≠ "") (member : id ∈ pool.find heap className reference) :
    (heap.get? id).isSome = true := by
  obtain ⟨⟨name, id⟩, filed, rfl⟩ := List.mem_map.1 member
  have same : name = reference ∧ heap.classOf id = className := by
    simpa using (List.mem_filter.1 filed).2
  cases found : heap.get? id with
  | none =>
    rw [Heap.classOf, found] at same
    exact absurd same.2.symm named
  | some object => rfl

theorem Builder.constructsNew_ofTable (table : List ClassEntry) (pool : Pool) :
    Builder.ConstructsNew { toolkit := .ofTable table, finder := pool.finder } where
  unknown _ _ _ _ := Toolkit.ofTable_unknown
  found find searching heap className reference named id member := by
    cases searching
    exact Pool.isSome_of_find named member

section

variable {builder : Builder} {name : String} {typeWord : TypeWord} {text : Option String}
  {heap after : Heap} {id : ObjectId}

theorem instantiate_ok {toolkit : Toolkit} {className : String}
    (ok : instantiate toolkit className heap = (.ok id, after)) :
    toolkit.construct className heap = (.ok id, after) := by
  unfold instantiate at ok
  split at ok
  · cases ok
  · cases ok
  · rename_i made
    split at ok
    · cases ok
    · cases ok
      exact made

theorem findExisting_ok {finder : Finder} {className : String}
    (ok : findExisting finder className name heap = .ok id) :
    ∃ find, finder = .searching find ∧ find heap className name = [id] := by
  unfold findExisting at ok
  split at ok
  · cases ok
  · rename_i find
    split at ok
    · cases ok
    · rename_i one
      cases ok
      exact ⟨find, rfl, one⟩
    · cases ok

theorem objectFor_ok (new : builder.ConstructsNew) (named : typeWord ≠ .findExisting "")
    (ok : objectFor builder.toolkit builder.finder name typeWord heap = (.ok id, after)) :
    heap.objects.size ≤ after.objects.size ∧ id.index < after.objects.size ∧
      (id.index < heap.objects.size → ∃ className, typeWord = .findExisting className) := by
  have made {className : String}
      (ok : instantiate builder.toolkit className heap = (.ok id, after)) :
      heap.objects.size ≤ id.index ∧ id.index < after.objects.size := by
    obtain ⟨unknown, there⟩ := new.unknown _ _ _ _ (instantiate_ok ok)
    refine ⟨Nat.le_of_not_lt fun inside => ?_, Heap.isSome_get?_iff.1 there⟩
    rw [← Heap.isSome_get?_iff, unknown] at inside
    cases inside
  cases typeWord with
  | keyword shorthand =>
    obtain ⟨outside, inside⟩ := made ok
    exact ⟨by omega, inside, fun before => by omega⟩
  | toolkitClass className =>
    obtain ⟨outside, inside⟩ := made ok
    exact ⟨by omega, inside, fun before => by omega⟩
  | findExisting className =>
    obtain ⟨found, rfl⟩ := Prod.mk.inj ok
    obtain ⟨find, searching, one⟩ := findExisting_ok found
    have known : className ≠ "" := fun empty => named (congrArg _ empty)
    have there := new.found find searching heap className name known id (by simp [one])
    exact ⟨Nat.le_refl _, Heap.isSome_get?_iff.1 there, fun _ => ⟨className, rfl⟩⟩

theorem supply_ok (new : builder.ConstructsNew) (named : typeWord ≠ .findExisting "")
    (ok : supply builder.toolkit builder.finder name typeWord text heap = (.ok id, after)) :
    heap.objects.size ≤ after.objects.size ∧ id.index < after.objects.size ∧
      (id.index < heap.objects.size → ∃ className, typeWord = .findExisting className) := by
  unfold supply at ok
  split at ok
  · cases ok
  · rename_i made
    cases ok
    exact objectFor_ok new named made
  · rename_i object middle text made
    have size := middle.size_applyText object text
    split at ok
    · rename_i applied
      rw [applied] at size
      cases ok
      rw [size]
      exact objectFor_ok new named made
    · cases ok

end

theorem findExisting_named {text : List Char} {declared : Item}
    (read : readLine text = .ok (.item declared)) : declared.typeWord ≠ .findExisting "" := by
  obtain ⟨-, code, span, first, second, -, -, -, made⟩ := readLine_item_iff.1 read
  obtain ⟨-, -, -, typeWord, text, marked, -, rfl⟩ := readItem_ok_iff.1 made
  have written := TypeWord.written_of_read marked
  rintro rfl
  rw [← written] at marked
  cases marked

theorem Pass.Reached.present {builder : Builder} {origin : String} {heap : Heap}
    {done : List Line} {pass : Pass} (new : builder.ConstructsNew)
    (reached : Reached builder origin heap done pass) :
    ∀ entry ∈ pass.registry.entries, entry.object.index < pass.scene.heap.objects.size := by
  induction reached with
  | start => simp [Pass.start, Registry.empty]
  | @line done pass after text line earlier read built ih =>
    cases built_of_line read built with
    | silent _ => exact ih
    | stretch _ _ _ attached => exact fun entry member => size_attach attached ▸ ih entry member
    | top _ supply _ registers =>
      obtain ⟨grows, inside, -⟩ := supply_ok new (findExisting_named read) supply
      intro entry member
      rw [registers.entries] at member
      rw [registers.heap]
      rcases List.mem_append.1 member with before | last
      · exact Nat.lt_of_lt_of_le (ih entry before) grows
      · cases List.mem_singleton.1 last
        exact inside
    | below _ supply _ _ attached registers =>
      obtain ⟨grows, inside, -⟩ := supply_ok new (findExisting_named read) supply
      intro entry member
      rw [registers.entries] at member
      rw [registers.heap, show _ = _ from size_attach attached]
      rcases List.mem_append.1 member with before | last
      · exact Nat.lt_of_lt_of_le (ih entry before) grows
      · cases List.mem_singleton.1 last
        exact inside

/-! ## Expected faults -/

def depthAfter (lines : List Line) : Nat :=
  ((itemsOf (outlineOf lines)).getLast?.map (·.1.depth)).getD 1

def BuildFault.Expected (earlier : List Line) (line : Line) : BuildFault → Prop
  | .skippedLevel depth current => line.indent?.map depthOf = some depth ∧
      current = depthAfter earlier ∧ current + 2 ≤ depth
  | .attach (.noStrategy _ _ _ _) => True
  | .attach _ => False
  | .registry (.duplicate _ _ _ _) => True
  | .registry (.alreadyRegistered _) =>
    ∃ declared className, line = .item declared ∧ declared.typeWord = .findExisting className
  | .registry (.noParent depth) => depth = 1 ∧ itemsOf (outlineOf earlier) = []
  | .registry _ => False
  | .line _ => False
  | .emptyInput => False
  | _ => True

theorem Outlined.currentDepth {origin : String} {done : List Line} {registry : Registry}
    (outlined : Outlined origin done registry.entries) :
    registry.currentDepth = depthAfter done := by
  have depths : registry.entries.map Entry.depth =
      (itemsOf (outlineOf done)).map (·.1.depth) := by
    rw [← List.forall₂_eq_eq_eq, List.forall₂_map_left_iff, List.forall₂_map_right_iff]
    exact outlined.declares.flip.imp fun _ _ declares => declares.depth
  rw [Registry.currentDepth, depthAfter, ← List.getLast?_map, ← List.getLast?_map, depths]

theorem Outlined.no_items {origin : String} {done : List Line}
    (outlined : Outlined origin done []) : itemsOf (outlineOf done) = [] :=
  List.forall₂_nil_right_iff.1 outlined.declares

theorem Pass.checkDepth_error {pass : Pass} {depth : Nat} {fault : BuildFault}
    (refused : pass.checkDepth depth = .error fault) :
    fault = .stretchWithChildren ∨ fault = .skippedLevel depth pass.registry.currentDepth ∧
      pass.registry.currentDepth + 2 ≤ depth := by
  unfold checkDepth at refused
  split at refused
  · cases refused
    exact .inl rfl
  · split at refused
    · rename_i skipped
      cases refused
      exact .inr ⟨rfl, skipped⟩
    · cases refused

theorem Registry.expected_of_refused {registry : Registry} {object : ObjectId}
    {name path : String} {provenance : Provenance} {error : RegistryError} {earlier : List Line}
    {line : Line}
    (found : ∀ entry ∈ registry.entries, entry.object = object → ∃ declared className,
      line = .item declared ∧ declared.typeWord = .findExisting className)
    (refused : registry.checkAvailable object name path provenance = .error error) :
    (BuildFault.registry error).Expected earlier line := by
  unfold checkAvailable at refused
  split at refused
  · cases refused
    trivial
  · split at refused
    · rename_i existing located
      cases refused
      obtain ⟨entry, first, -⟩ := Option.map_eq_some_iff.1 located
      apply found entry (List.mem_of_find?_eq_some first)
      simpa using List.find?_some first
    · cases refused

theorem Registry.not_available_of_mem {registry : Registry} {entry : Entry} {name path : String}
    {provenance : Provenance} (member : entry ∈ registry.entries)
    (available : registry.checkAvailable entry.object name path provenance = .ok ()) : False := by
  cases located : registry.pathOf? entry.object with
  | none =>
    have missing := List.find?_eq_none.1 (Option.map_eq_none_iff.1 located) entry member
    simp at missing
  | some path' =>
    unfold checkAvailable at available
    rw [located] at available
    split at available <;> cases available

theorem AttachError.expected_of_refused {child : Child} {name : String} {parent : ObjectId}
    {scene after : Scene} {error : AttachError} {earlier : List Line} {line : Line}
    (different : child ≠ .object parent)
    (refused : attach child name parent scene = (.error error, after)) :
    (BuildFault.attach error).Expected earlier line := by
  obtain ⟨childClass, parentClass, tried, rfl⟩ := attach_error different refused
  trivial

theorem Pass.Failed.expected {builder : Builder} {origin : String} {heap : Heap}
    {done : List Line} {pass after : Pass} {text : List Char} {line : Line}
    {provenance : Provenance} {fault : BuildFault} (new : builder.ConstructsNew)
    (reached : Reached builder origin heap done pass) (read : readLine text = .ok line)
    (failed : Failed builder provenance pass line fault after) : fault.Expected done line := by
  have current := reached.outlined.currentDepth
  cases failed with
  | deep indented refused =>
    rcases checkDepth_error refused with rfl | ⟨rfl, skipped⟩
    · trivial
    · exact ⟨by rw [indented, Option.map_some], current, skipped⟩
  | flat _ _ => trivial
  | @orphan _ indent _ _ checked nested missing _ =>
    -- With an entry there would be one at every depth up to the one above this line.
    have near := (checkDepth_ok_iff.1 checked).2
    have positive := one_le_depthOf indent
    have none : pass.registry.entries = [] := by
      by_contra some
      obtain ⟨entry, found⟩ :=
        reached.tracks.ladder some (depthOf indent - 1) (by omega) (by omega)
      rw [missing] at found
      cases found
    have items : itemsOf (outlineOf done) = [] := by
      have outlined := reached.outlined
      rw [none] at outlined
      exact outlined.no_items
    have flush : pass.registry.currentDepth = 1 := by
      rw [Registry.currentDepth, none]
      rfl
    exact ⟨by omega, items⟩
  | @stretch _ parent _ _ _ _ _ refused =>
    have different : Child.stretch ≠ .object parent.object := by simp
    exact AttachError.expected_of_refused different refused
  | supply _ _ => trivial
  | taken _ supply refused =>
    refine Registry.expected_of_refused (fun entry member same => ?_) refused
    obtain ⟨-, -, known⟩ := supply_ok new (findExisting_named read) supply
    obtain ⟨className, marked⟩ := known (same ▸ reached.present new entry member)
    exact ⟨_, className, rfl, marked⟩
  | below _ _ _ found available refused =>
    refine AttachError.expected_of_refused (fun same => ?_) refused
    cases same
    exact Registry.not_available_of_mem (Registry.latestAtDepth?_some found).1 available

/-! ## Whole builds -/

def BuildError.Expected (source : List Char) (error : BuildError) : Prop :=
  match error.place with
  | none => error.fault = .emptyInput
  | some place => (∃ cause, error.fault = .line cause) ∨
    ∃ line, (line, place.line) ∈ numberedLines source ∧
      error.fault.Expected (earlierLines source place.line) line

theorem Builder.stopped_line {builder : Builder} {source origin : String} {heap : Heap}
    {error : BuildError} (failed : (builder.build source origin heap).outcome = .error error) :
    (error.place = none ∧ error.fault = .emptyInput) ∨
    ∃ place before text later done pass, error.place = some place ∧
      Text.lines source.toList = before ++ text :: later ∧ place.line = before.length + 1 ∧
      Reads (before.map (outdent (commonIndent (Text.lines source.toList)))) done ∧
      Pass.Reached builder origin heap done pass ∧
      (pass.line builder { line := place.line, origin }
        (outdent (commonIndent (Text.lines source.toList)) text)).1 = .error error.fault := by
  cases run : Pass.lines builder origin (commonIndent (Text.lines source.toList)) 1
      (Text.lines source.toList) (.start heap) with
  | mk outcome last =>
    rw [build_eq, run] at failed
    cases outcome with
    | ok _ =>
      left
      unfold finish at failed
      dsimp only at failed
      split at failed
      · cases failed
        exact ⟨rfl, rfl⟩
      · cases failed
    | error error =>
      right
      cases failed
      obtain ⟨place, located, first, inside⟩ := Pass.lines_error run
      have stop : (builder.build source origin heap).stop? = some (place.line, error.fault) := by
        rw [build_eq, run, finish_stop?]
        dsimp only
        rw [located, Option.map_some]
      -- The number of the line tells how many lines are built before it.
      obtain ⟨before, text, later, split, length⟩ :=
        exists_at (show place.line - 1 < (Text.lines source.toList).length by omega)
      have number : place.line = before.length + 1 := by omega
      have passed : ∀ stop ∈ (builder.build source origin heap).stop?,
          before.length + 1 ≤ stop.1 := by
        rw [stop]
        rintro _ ⟨⟩
        exact number.ge
      obtain ⟨done, pass, reads, reached, rest⟩ := reached_line split passed
      rw [rest, number] at stop
      exact ⟨place, before, text, later, done, pass, located, split, number, reads, reached,
        number ▸ Pass.stop?_lines_iff.1 stop⟩

theorem faults_of_build {builder : Builder} (new : builder.ConstructsNew)
    (source origin : String) (heap : Heap) :
    RegistersAttached (builder.build source origin heap).log.toList ∧
      ∀ error, (builder.build source origin heap).outcome = .error error →
        error.Expected source.toList := by
  refine ⟨registersAttached_of_build builder source origin heap, fun error failed => ?_⟩
  unfold BuildError.Expected
  rcases Builder.stopped_line failed with ⟨nowhere, empty⟩ |
    ⟨place, before, text, later, done, pass, located, split, number, reads, reached, stopped⟩
  · rw [nowhere]
    exact empty
  · rw [located]
    cases read : readLine (outdent (commonIndent (lines source.toList)) text) with
    | error cause =>
      left
      unfold Pass.line at stopped
      rw [read] at stopped
      exact ⟨cause, (Except.error.inj stopped).symm⟩
    | ok line =>
      right
      refine ⟨line, number ▸ mem_numberedLines split read, ?_⟩
      rw [number, earlierLines_eq split reads]
      exact (Pass.failed_of_line read (Prod.ext stopped rfl)).expected new reached read

def sharedLabel : Builder where
  toolkit := .builtin
  finder := ((Pool.empty.insert "first" ⟨0⟩).insert "second" ⟨0⟩).finder

def sharedHeap : Heap := (Heap.empty.add (freshWidget (.caption "QLabel" none))).2

def sharedSource : String := "box VBOX\n  first ?QLabel\n  second ?QLabel\n"

theorem faults_of_build_shared :
    (sharedLabel.build sharedSource "ui" sharedHeap).stop? =
        some (3, .registry (.alreadyRegistered "box.first")) ∧
      RegistersAttached (sharedLabel.build sharedSource "ui" sharedHeap).log.toList ∧
      ∀ error, (sharedLabel.build sharedSource "ui" sharedHeap).outcome = .error error →
        error.Expected sharedSource.toList :=
  have new : sharedLabel.ConstructsNew := Builder.constructsNew_ofTable builtinClasses _
  ⟨by decide +kernel, faults_of_build new sharedSource "ui" sharedHeap⟩

end WidgetOutline
