import WidgetOutline.Proofs.Build.Faults

namespace WidgetOutline
open Text

def Toolkit.KeepsKinds (toolkit : Toolkit) : Prop :=
  ∀ (className : String) (heap : Heap), heap.KeepsKinds (toolkit.construct className heap).2

theorem Toolkit.keepsKinds_ofTable (table : List ClassEntry) : (ofTable table).KeepsKinds := by
  intro className heap
  unfold ofTable
  dsimp only
  cases initialOf table className with
  | error error => exact fun _ _ => rfl
  | ok object => exact heap.keepsKinds_add object

theorem Heap.kindOf_applyText (heap : Heap) (target id : ObjectId) (text : String) :
    (heap.applyText target text).2.kindOf id = heap.kindOf id :=
  applyText_kept (fun after => after.kindOf id = heap.kindOf id)
    (fun call after same => (after.kindOf_perform target id call).trans same) rfl text

section

variable {builder : Builder} {heap after : Heap} {id : ObjectId} {name : String}
  {typeWord : TypeWord}

theorem instantiate_kind {toolkit : Toolkit} {className : String}
    (ok : instantiate toolkit className heap = (.ok id, after)) : after.kindOf id ≠ .other := by
  unfold instantiate at ok
  split at ok
  · cases ok
  · cases ok
  · split at ok
    · cases ok
    · rename_i kind
      cases ok
      exact kind

theorem instantiate_other {toolkit : Toolkit} {className : String}
    (made : toolkit.construct className heap = (.ok id, after)) (other : after.kindOf id = .other) :
    instantiate toolkit className heap = (.error (.wrongKind className), after) := by
  unfold instantiate
  rw [made]
  exact if_pos other

theorem objectFor_eq (constructs : ∀ className, typeWord ≠ .findExisting className) :
    objectFor builder.toolkit builder.finder name typeWord heap =
      instantiate builder.toolkit typeWord.className heap := by
  cases typeWord with
  | keyword shorthand => rfl
  | toolkitClass className => rfl
  | findExisting className => exact absurd rfl (constructs className)

theorem objectFor_kinds (keeps : builder.toolkit.KeepsKinds)
    (ok : objectFor builder.toolkit builder.finder name typeWord heap = (.ok id, after)) :
    heap.KeepsKinds after ∧ (after.kindOf id = .other → ∃ className find,
      typeWord = .findExisting className ∧ builder.finder = .searching find ∧
      find heap className name = [id] ∧ heap.kindOf id = .other) := by
  by_cases constructs : ∀ className, typeWord ≠ .findExisting className
  · rw [objectFor_eq constructs] at ok
    have kept := keeps typeWord.className heap
    rw [instantiate_ok ok] at kept
    exact ⟨kept, fun other => absurd other (instantiate_kind ok)⟩
  · obtain ⟨className, rfl⟩ : ∃ className, typeWord = .findExisting className := by
      simpa using constructs
    obtain ⟨found, rfl⟩ := Prod.mk.inj ok
    obtain ⟨find, searching, one⟩ := findExisting_ok found
    exact ⟨fun _ _ => rfl, fun other => ⟨className, find, rfl, searching, one, other⟩⟩

theorem supply_kinds {text : Option String} (keeps : builder.toolkit.KeepsKinds)
    (ok : supply builder.toolkit builder.finder name typeWord text heap = (.ok id, after)) :
    heap.KeepsKinds after ∧ (after.kindOf id = .other → ∃ className find,
      typeWord = .findExisting className ∧ builder.finder = .searching find ∧
      find heap className name = [id] ∧ heap.kindOf id = .other) := by
  unfold supply at ok
  split at ok
  · cases ok
  · rename_i made
    cases ok
    exact objectFor_kinds keeps made
  · rename_i object middle text made
    obtain ⟨kept, found⟩ := objectFor_kinds keeps made
    have same := fun other => middle.kindOf_applyText object other text
    split at ok
    · rename_i applied
      rw [applied] at same
      cases ok
      exact ⟨kept.trans (Heap.keepsKinds_of_eq same), fun other => found (same id ▸ other)⟩
    · cases ok

theorem supply_other {text : Option String} (constructs : ∀ found, typeWord ≠ .findExisting found)
    (made : builder.toolkit.construct typeWord.className heap = (.ok id, after))
    (other : after.kindOf id = .other) :
    supply builder.toolkit builder.finder name typeWord text heap =
      (.error (.wrongKind typeWord.className), after) := by
  unfold supply
  rw [objectFor_eq constructs, instantiate_other made other]

end

/-- The finder returned the object of an item alone, out of the heap that the lines before it lead
to, though it was of another kind. -/
def FoundOther (builder : Builder) (origin : String) (heap : Heap) (item : Item × Nat)
    (entry : Entry) : Prop :=
  ∃ className find done pass, item.1.typeWord = .findExisting className ∧
    builder.finder = .searching find ∧ Pass.Reached builder origin heap done pass ∧
    item.2 = done.length + 1 ∧ find pass.scene.heap className item.1.name = [entry.object] ∧
    pass.scene.heap.kindOf entry.object = .other

def OthersFound (builder : Builder) (origin : String) (heap : Heap) (outline : List (Line × Nat))
    (entries : List Entry) (after : Heap) : Prop :=
  List.Forall₂ (fun item entry => after.kindOf entry.object = .other →
    FoundOther builder origin heap item entry) (itemsOf outline) entries

variable {builder : Builder} {origin : String} {heap : Heap}

theorem OthersFound.keep {outline : List (Line × Nat)} {entries : List Entry}
    {middle after : Heap} (found : OthersFound builder origin heap outline entries middle)
    (kept : middle.KeepsKinds after) : OthersFound builder origin heap outline entries after := by
  refine found.imp fun item entry was other => was ?_
  by_contra known
  exact known ((kept entry.object known).symm.trans other)

theorem OthersFound.add {done : List Line} {entries : List Entry} {declared : Item}
    {entry : Entry} {after : Heap}
    (found : OthersFound builder origin heap (outlineOf done) entries after)
    (last : after.kindOf entry.object = .other →
      FoundOther builder origin heap (declared, done.length + 1) entry) :
    OthersFound builder origin heap (outlineOf (done ++ [.item declared])) (entries ++ [entry])
      after := by
  unfold OthersFound
  rw [itemsOf_concat]
  exact List.rel_append found (.cons last .nil)

theorem OthersFound.skip {done : List Line} {entries : List Entry} {line : Line} {after : Heap}
    (found : OthersFound builder origin heap (outlineOf done) entries after)
    (nothing : itemOf? (line, done.length + 1) = none) :
    OthersFound builder origin heap (outlineOf (done ++ [line])) entries after := by
  unfold OthersFound
  rw [itemsOf_concat, nothing, Option.toList_none, List.append_nil]
  exact found

theorem Pass.Reached.othersFound {done : List Line} {pass : Pass}
    (keeps : builder.toolkit.KeepsKinds) (reached : Reached builder origin heap done pass) :
    OthersFound builder origin heap (outlineOf done) pass.registry.entries pass.scene.heap := by
  induction reached with
  | start => exact .nil
  | @line done pass after text line earlier read built ih =>
    cases built_of_line read built with
    | silent silent => exact ih.skip (itemOf?_of_indent? silent _)
    | stretch _ _ _ attached =>
      exact (ih.keep (Heap.keepsKinds_of_eq (kindOf_attach attached))).skip rfl
    | @top declared object supplied _ _ supply _ registers =>
      obtain ⟨kept, found⟩ := supply_kinds keeps supply
      rw [registers.entries, registers.heap]
      refine (ih.keep kept).add fun other => ?_
      obtain ⟨className, find, marked, searching, one, was⟩ := found other
      exact ⟨className, find, done, pass, marked, searching, earlier, rfl, one, was⟩
    | @below declared object supplied _ _ scene _ _ supply _ _ attached registers =>
      obtain ⟨kept, found⟩ := supply_kinds keeps supply
      have same := kindOf_attach attached
      rw [registers.entries, registers.heap]
      refine ((ih.keep kept).keep (Heap.keepsKinds_of_eq same)).add fun other => ?_
      obtain ⟨className, find, marked, searching, one, was⟩ := found (same object ▸ other)
      exact ⟨className, find, done, pass, marked, searching, earlier, rfl, one, was⟩

theorem Pass.line_other {pass : Pass} {provenance : Provenance} {text : List Char}
    {declared : Item} {id : ObjectId} {after : Heap}
    (read : readLine text = .ok (.item declared))
    (constructs : ∀ className, declared.typeWord ≠ .findExisting className)
    (made : builder.toolkit.construct declared.typeWord.className pass.scene.heap = (.ok id, after))
    (other : after.kindOf id = .other) :
    ∃ fault, (pass.line builder provenance text).1 = .error fault ∧
      (fault = .supply (.wrongKind declared.typeWord.className) ∨
        pass.checkDepth declared.depth = .error fault) := by
  unfold line
  rw [read]
  dsimp only
  unfold item
  cases checked : pass.checkDepth declared.depth with
  | error fault => exact ⟨fault, rfl, .inr rfl⟩
  | ok _ =>
    dsimp only
    rw [supply_other constructs made other]
    exact ⟨_, rfl, .inl rfl⟩

theorem others_of_build (keeps : builder.toolkit.KeepsKinds) (source : String) :
    (∀ hierarchy, (builder.build source origin heap).outcome = .ok hierarchy →
      OthersFound builder origin heap (numberedLines source.toList) hierarchy.entries
        (builder.build source origin heap).heap) ∧
    ∀ declared number, (Line.item declared, number) ∈ numberedLines source.toList →
      (∀ className, declared.typeWord ≠ .findExisting className) →
      (∀ stop ∈ (builder.build source origin heap).stop?, number ≤ stop.1) →
      ∃ pass, Pass.Reached builder origin heap (earlierLines source.toList number) pass ∧
        ∀ id after, builder.toolkit.construct declared.typeWord.className pass.scene.heap =
            (.ok id, after) → after.kindOf id = .other →
          ∃ fault, (builder.build source origin heap).stop? = some (number, fault) ∧
            (fault = .supply (.wrongKind declared.typeWord.className) ∨
              pass.checkDepth declared.depth = .error fault) := by
  refine ⟨fun hierarchy ok => ?_, fun declared number member constructs passed => ?_⟩
  · obtain ⟨read, pass, reads, reached, entries, same⟩ := Builder.reached_of_build ok
    rw [numberedLines_eq reads, entries, same]
    exact reached.othersFound keeps
  · obtain ⟨before, text, later, split, rfl, read⟩ := exists_text member
    obtain ⟨done, pass, reads, reached, run⟩ := Builder.reached_line split passed
    rw [earlierLines_eq split reads, run]
    refine ⟨pass, reached, fun id after made other => ?_⟩
    obtain ⟨fault, stopped, cause⟩ := Pass.line_other read constructs made other
    exact ⟨fault, Pass.stop?_lines_iff.2 stopped, cause⟩

def clockPool : Pool := Pool.empty.insert "clock" ⟨0⟩

def clockBuilder : Builder := ⟨.builtin, clockPool.finder⟩

def clockHeap : Heap := ⟨#[.inert "QTimer"]⟩

def clockSource : String := "clock ?QTimer\n"

theorem others_of_build_clock :
    ∃ hierarchy, (clockBuilder.build clockSource "ui" clockHeap).outcome = .ok hierarchy ∧
      hierarchy.paths = ["clock"] ∧
      OthersFound clockBuilder "ui" clockHeap (numberedLines clockSource.toList)
        hierarchy.entries (clockBuilder.build clockSource "ui" clockHeap).heap := by
  have run : (clockBuilder.build clockSource "ui" clockHeap).outcome.toOption.map
      Hierarchy.paths = some ["clock"] := by decide +kernel
  obtain ⟨hierarchy, ok, paths⟩ := Builder.Result.exists_hierarchy run
  have keeps : clockBuilder.toolkit.KeepsKinds := Toolkit.keepsKinds_ofTable builtinClasses
  exact ⟨hierarchy, ok, paths, (others_of_build keeps clockSource).1 hierarchy ok⟩

theorem not_no_others_of_build :
    ¬ ∀ (builder : Builder) (source origin : String) (heap : Heap) (hierarchy : Hierarchy),
      builder.toolkit.KeepsKinds → (builder.build source origin heap).outcome = .ok hierarchy →
      ∀ entry ∈ hierarchy.entries,
        (builder.build source origin heap).heap.kindOf entry.object ≠ .other := by
  intro claim
  have run : (clockBuilder.build clockSource "ui" clockHeap).outcome.toOption.map
      (fun hierarchy => hierarchy.entries.map fun entry =>
        (clockBuilder.build clockSource "ui" clockHeap).heap.kindOf entry.object) =
      some [.other] := by decide +kernel
  cases built : (clockBuilder.build clockSource "ui" clockHeap).outcome with
  | error error =>
    rw [built] at run
    cases run
  | ok hierarchy =>
    rw [built] at run
    have kinds := Option.some.inj run
    have member : Kind.other ∈ [Kind.other] := List.mem_singleton.2 rfl
    rw [← kinds] at member
    obtain ⟨entry, isEntry, other⟩ := List.mem_map.1 member
    exact claim clockBuilder clockSource "ui" clockHeap hierarchy
      (Toolkit.keepsKinds_ofTable builtinClasses) built entry isEntry other

end WidgetOutline
