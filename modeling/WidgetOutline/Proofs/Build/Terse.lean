import WidgetOutline.Proofs.Build.OffSide
import WidgetOutline.Proofs.Build.Places
import WidgetOutline.Proofs.Supply.Builtin

namespace WidgetOutline

def Entry.key (entry : Entry) : String × ObjectId := (entry.path, entry.object)

namespace Registry

theorem checkAvailable_ok_iff {registry : Registry} {object : ObjectId} {name path : String}
    {provenance : Provenance} :
    registry.checkAvailable object name path provenance = .ok () ↔
      registry.find? name = none ∧ registry.pathOf? object = none := by
  unfold checkAvailable
  cases registry.find? name with
  | some taken => simp
  | none => cases registry.pathOf? object <;> simp

structure Alike (registry other : Registry) : Prop where
  index : registry.index = other.index
  keys : registry.entries.map Entry.key = other.entries.map Entry.key

namespace Alike

variable {registry other : Registry} (alike : registry.Alike other)

include alike

theorem latestAtDepth? (depth : Nat) :
    (registry.latestAtDepth? depth).map Entry.key =
      (other.latestAtDepth? depth).map Entry.key := by
  have through (registry : Registry) : (registry.latestAtDepth? depth).map Entry.key =
      (registry.entries.map Entry.key).reverse.find? (Path.depth ·.1 == depth) := by
    rw [← List.map_reverse, List.find?_map]
    rfl
  rw [through, alike.keys, through]

theorem currentDepth : registry.currentDepth = other.currentDepth := by
  have through (registry : Registry) : registry.currentDepth =
      ((registry.entries.map Entry.key).getLast?.map (Path.depth ·.1)).getD 1 := by
    rw [List.getLast?_map, Option.map_map]
    rfl
  rw [through, alike.keys, through]

theorem find? (name : String) :
    (registry.find? name).map Entry.key = (other.find? name).map Entry.key := by
  have through (registry : Registry) : (registry.find? name).map Entry.key =
      (registry.index.lookup name).bind ((registry.entries.map Entry.key)[·]?) := by
    rw [find?_eq, Option.map_bind]
    exact congrArg _ (funext fun place => (List.getElem?_map ..).symm)
  rw [through, alike.keys, alike.index, through]

theorem pathOf? (object : ObjectId) : registry.pathOf? object = other.pathOf? object := by
  have through (registry : Registry) : registry.pathOf? object =
      ((registry.entries.map Entry.key).find? (·.2 == object)).map (·.1) := by
    rw [List.find?_map, Option.map_map]
    rfl
  rw [through, alike.keys, through]

theorem checkAvailable {object : ObjectId} {name path : String} {provenance : Provenance}
    (available : registry.checkAvailable object name path provenance = .ok ())
    (again : Provenance) : other.checkAvailable object name path again = .ok () := by
  rw [checkAvailable_ok_iff] at available ⊢
  obtain ⟨free, new⟩ := available
  have names := alike.find? name
  rw [free, Option.map_none, eq_comm, Option.map_eq_none_iff] at names
  exact ⟨names, alike.pathOf? object ▸ new⟩

theorem push (name : String) {entry entry' : Entry} (same : entry.key = entry'.key) :
    (registry.push name entry).Alike (other.push name entry') where
  index := by
    have sizes := congrArg List.length alike.keys
    simp only [List.length_map] at sizes
    simp [Registry.push, alike.index, sizes]
  keys := by simp [entries_push, alike.keys, same]

end Alike

end Registry

def Item.terse (item : Item) : Item where
  indent := item.indent
  name := item.name
  typeWord := .toolkitClass item.typeWord.className
  text := none
  lead := ""

theorem Scene.Alike.trans {first second third : Scene} (alike : first.Alike second)
    (alike' : second.Alike third) : first.Alike third :=
  ⟨alike.heap.trans alike'.heap, alike.tabs.trans alike'.tabs⟩

/-- The other pass has come to the same, without texts and stretches and from other lines. -/
structure Pass.Alike (pass other : Pass) : Prop where
  scene : pass.scene.Alike other.scene
  registry : pass.registry.Alike other.registry
  unstretched : other.stretchDepth = none

namespace Pass.Alike

variable {pass other : Pass} (alike : pass.Alike other)

include alike

theorem checkDepth {depth : Nat} (checked : pass.checkDepth depth = .ok ()) :
    other.checkDepth depth = .ok () := by
  rw [checkDepth_ok_iff] at checked ⊢
  rw [alike.unstretched, ← alike.registry.currentDepth]
  exact ⟨nofun, checked.2⟩

theorem parentOf {depth : Nat} {parent : Entry}
    (found : pass.registry.latestAtDepth? (depth - 1) = some parent) :
    ∃ parent', other.parentOf depth = .ok parent' ∧ parent'.key = parent.key := by
  have parents := alike.registry.latestAtDepth? (depth - 1)
  rw [found, Option.map_some, eq_comm, Option.map_eq_some_iff] at parents
  obtain ⟨parent', found', same⟩ := parents
  exact ⟨parent', parentOf_ok_iff.2 found', same⟩

theorem supply {name : String} {typeWord : TypeWord} {text : Option String} {object : ObjectId}
    {heap : Heap}
    (supplied : supply .builtin .unsupported name typeWord text pass.scene.heap =
      (.ok object, heap)) :
    ∃ heap', WidgetOutline.supply .builtin .unsupported name (.toolkitClass typeWord.className) none
        other.scene.heap = (.ok object, heap') ∧
      (pass.supplied heap).Alike (other.supplied heap') := by
  obtain ⟨initial, found, kind, rfl, quiet⟩ := supply_builtin_alike supplied
  obtain ⟨same, added⟩ := alike.scene.heap.add (Eq.refl initial.skeleton)
  refine ⟨(other.scene.heap.add initial).2, ?_, ?_⟩
  · rw [same]
    exact supply_toolkitClass found kind name other.scene.heap
  · exact ⟨⟨quiet.trans added, alike.scene.tabs⟩, alike.registry, rfl⟩

theorem attachTo {child : Child} {name : String} {parent : ObjectId} {strategy : Strategy}
    {scene : Scene} (attached : attach child name parent pass.scene = (.ok strategy, scene)) :
    ∃ after, other.attachTo child name parent = (.ok (), after) ∧
      { pass with scene }.Alike after := by
  obtain ⟨same, scenes⟩ := attach_alike alike.scene child name parent
  rw [attached] at same scenes
  cases again : attach child name parent other.scene with
  | mk outcome scene' =>
    rw [again] at same scenes
    obtain rfl := same
    refine ⟨{ other with scene := scene' }, ?_, scenes, alike.registry, alike.unstretched⟩
    unfold Pass.attachTo
    rw [again]

theorem register {after : Pass} {object : ObjectId} {name path : String} {provenance : Provenance}
    (registers : pass.Registers after name { path, object, provenance }) (again : Provenance) :
    ∃ after', other.register object name path again = (.ok (), after') ∧ after.Alike after' := by
  have available := alike.registry.checkAvailable registers.available again
  have inserted := Registry.insert_ok_iff.2 ⟨available, rfl⟩
  unfold Pass.register
  rw [inserted]
  refine ⟨_, rfl, ?_, ?_, alike.unstretched⟩
  · exact ⟨registers.heap ▸ alike.scene.heap, registers.tabs ▸ alike.scene.tabs⟩
  · rw [registers.registry]
    apply alike.registry.push
    rfl

theorem place {after : Pass} {object : ObjectId} {name : String} {provenance : Provenance}
    {depth : Nat} (placed : pass.place depth object name provenance = (.ok (), after))
    (again : Provenance) :
    ∃ after', other.place depth object name again = (.ok (), after') ∧ after.Alike after' := by
  unfold Pass.place
  rcases place_ok placed with ⟨level, registers⟩ |
    ⟨nested, parent, strategy, scene, found, attached, registers⟩
  · rw [if_pos level]
    exact alike.register registers again
  · obtain ⟨parent', found', same⟩ := alike.parentOf found
    obtain ⟨path, holder⟩ := Prod.ext_iff.1 same
    dsimp only [Entry.key] at path holder
    obtain ⟨middle, attached', alike'⟩ := alike.attachTo attached
    -- The name is checked before the parent is touched, in a registry that attaching leaves alone.
    have available := alike.registry.checkAvailable registers.available again
    rw [if_neg nested, found']
    dsimp only
    unfold placeBelow
    rw [path, holder]
    dsimp only
    rw [available, attached']
    exact alike'.register registers again

theorem item {after : Pass} {declared : Item} {provenance : Provenance}
    (built : pass.item .builtin declared provenance = (.ok (), after)) (again : Provenance) :
    ∃ after', other.item .builtin declared.terse again = (.ok (), after') ∧
      after.Alike after' := by
  obtain ⟨checked, object, heap, supplied, placed⟩ := item_ok built
  have checked' : other.checkDepth declared.terse.depth = .ok () := alike.checkDepth checked
  obtain ⟨heap', supplied', alike'⟩ := alike.supply supplied
  unfold Pass.item
  rw [checked']
  dsimp only [Item.terse, Builder.builtin]
  rw [supplied']
  exact alike'.place placed again

theorem stretch {after : Pass} {depth : Nat} (built : pass.stretch depth = (.ok (), after)) :
    after.Alike other := by
  obtain ⟨-, -, parent, strategy, scene, -, attached, rfl⟩ := stretch_ok built
  have quiet := attach_stretch_quiet stretchWord parent.object pass.scene
  rw [attached] at quiet
  exact ⟨quiet.trans alike.scene, alike.registry, alike.unstretched⟩

end Pass.Alike

namespace Pass

end Pass

end WidgetOutline
