import WidgetOutline.Proofs.Build.Mirror
import WidgetOutline.Proofs.Build.Significance
import WidgetOutline.Proofs.Build.Terse
import WidgetOutline.Proofs.Line.Writing
import WidgetOutline.Proofs.Registry.Table

/-!
# Declaring a hierarchy again

The rows of a dump are read as an outline: an item line for every row, with its class written out.
Such a line says what a dump keeps of the item that it comes from (`Item.Declarable.read`), so that
the outline is built with the same dump (`dump_redeclared`).
-/

namespace WidgetOutline
open Text

def declaration (row : String × String) : String :=
  spaces (2 * ((Path.segments row.1).length - 1)) ++ Path.lastSegment row.1 ++ " " ++ row.2 ++ "()"

theorem builtinClasses_words : ∀ entry ∈ builtinClasses, entry.name.toList ≠ [] ∧
    (entry.name.toList.all fun c => !isBlank c && isCode c) = true ∧ entry.name ≠ stretchWord ∧
    TypeWord.read entry.name = .ok (.toolkitClass entry.name) := by
  decide +kernel

theorem isCodeWord_of_class : ∀ entry ∈ builtinClasses, IsCodeWord entry.name := by
  intro entry member
  obtain ⟨nonempty, letters, notStretch, -⟩ := builtinClasses_words entry member
  simp only [List.all_eq_true, Bool.and_eq_true, Bool.not_eq_true'] at letters
  exact ⟨⟨nonempty, fun c inName => (letters c inName).1⟩, fun c inName => (letters c inName).2,
    notStretch⟩

structure Item.Declarable (item : Item) : Prop where
  name : IsCodeWord item.name
  undotted : '.' ∉ item.name.toList
  even : item.indent % 2 = 0
  className : IsCodeWord item.typeWord.className
  literal : TypeWord.read item.typeWord.className = .ok (.toolkitClass item.typeWord.className)

theorem Item.declarable_of_read {text : List Char} {item : Item} {initial : Object}
    (read : readLine text = .ok (.item item))
    (found : initialOf builtinClasses item.typeWord.className = .ok initial) :
    item.Declarable := by
  obtain ⟨-, undotted, -⟩ := name_of_readLine read
  obtain ⟨-, even⟩ := (readLine_indent read).2 _ rfl
  unfold initialOf at found
  split at found
  · rename_i entry member
    have same : entry.name = item.typeWord.className := by simpa using List.find?_some member
    have inTable := List.mem_of_find?_eq_some member
    obtain ⟨-, -, -, literal⟩ := builtinClasses_words entry inTable
    have className := isCodeWord_of_class entry inTable
    rw [same] at className literal
    exact ⟨isCodeWord_of_readLine read, undotted, even, className, literal⟩
  · cases found

theorem Item.Declarable.read {item : Item} (declarable : item.Declarable) {path : String}
    (name : Path.lastSegment path = item.name) (depth : Path.depth path = item.depth) :
    ∃ line, readLine (declaration (path, item.typeWord.className)).toList = .ok line ∧
      line.bare = .item item.terse := by
  have even := declarable.even
  have indent : 2 * ((Path.segments path).length - 1) = item.indent := by
    unfold Path.depth Item.depth depthOf indentStep at depth
    omega
  have read := read_written_empty even declarable.name declarable.undotted declarable.className
    declarable.literal
  unfold declaration
  dsimp only
  rw [indent, name]
  exact ⟨_, read, rfl⟩

theorem Item.Declarable.tidy {item : Item} (declarable : item.Declarable) {path : String}
    (name : Path.lastSegment path = item.name) :
    Tidy (declaration (path, item.typeWord.className)).toList := by
  apply tidy_of_spaced
  intro c member
  simp only [declaration, name, spaces, String.toList_append, String.toList_ofList,
    List.mem_append, List.mem_replicate] at member
  rcases member with (((margin | inName) | gap) | inClass) | parentheses
  · exact .inr margin.2
  · exact .inl (declarable.name.solid.2 c inName)
  · exact .inr (by simpa using gap)
  · exact .inl (declarable.className.solid.2 c inClass)
  · rcases (by simpa using parentheses : c = '(' ∨ c = ')') with rfl | rfl
    · exact .inl (by decide)
    · exact .inl (by decide)

theorem Path.isWord_child {parent name : String} (solid : IsWord parent.toList)
    (solid' : IsWord name.toList) : IsWord (child parent name).toList := by
  have split : (child parent name).toList = parent.toList ++ '.' :: name.toList := by
    simp [child, separator]
  rw [split]
  refine ⟨by simp, fun c member => ?_⟩
  rcases List.mem_append.1 member with inParent | after
  · exact solid.2 c inParent
  · rcases List.mem_cons.1 after with rfl | inName
    · decide
    · exact solid'.2 c inName

/-- The items can be declared again, and the paths of the entries are words, the first of which is
that of a tree. -/
structure Displayed (done : List Line) (entries : List Entry) : Prop where
  items : ∀ item ∈ itemsOf (outlineOf done), item.1.Declarable
  paths : ∀ entry ∈ entries, IsWord entry.path.toList
  first : ∀ entry ∈ entries.head?, entry.depth = 1

namespace Displayed

variable {done : List Line} {entries : List Entry} {declared : Item} {entry : Entry}

theorem skip {line : Line} (displayed : Displayed done entries)
    (nothing : itemOf? (line, done.length + 1) = none) : Displayed (done ++ [line]) entries := by
  refine ⟨?_, displayed.paths, displayed.first⟩
  simpa [itemsOf_concat, nothing] using displayed.items

theorem item (displayed : Displayed done entries) (declarable : declared.Declarable)
    (solid : IsWord entry.path.toList) (first : entries = [] → entry.depth = 1) :
    Displayed (done ++ [.item declared]) (entries ++ [entry]) where
  items := by
    rw [itemsOf_concat]
    intro item member
    rcases List.mem_append.1 member with earlier | last
    · exact displayed.items item earlier
    · obtain rfl : item = (declared, done.length + 1) := by simpa [itemOf?] using last
      exact declarable
  paths := by
    intro other member
    rcases List.mem_append.1 member with earlier | last
    · exact displayed.paths other earlier
    · rwa [List.mem_singleton.1 last]
  first := by
    cases entries with
    | nil => simpa using first rfl
    | cons head later => simpa using displayed.first

end Displayed

theorem Pass.Reached.displayed {origin : String} {heap : Heap} {done : List Line} {pass : Pass}
    (reached : Reached .builtin origin heap done pass) : Displayed done pass.registry.entries := by
  induction reached with
  | start => exact ⟨by simp [itemsOf], nofun, nofun⟩
  | @line done pass after text line earlier read built ih =>
    cases built_of_line read built with
    | silent silent => exact ih.skip (itemOf?_of_indent? silent _)
    | stretch => exact ih.skip rfl
    | top checked supplied level registers =>
      obtain ⟨initial, found, -⟩ := supply_builtin_alike supplied
      obtain ⟨solid, undotted, -⟩ := name_of_readLine read
      rw [registers.entries]
      exact ih.item (Item.declarable_of_read read found) solid
        fun _ => Path.depth_name undotted
    | below checked supplied nested found attached registers =>
      obtain ⟨initial, found', -⟩ := supply_builtin_alike supplied
      obtain ⟨solid, -, -⟩ := name_of_readLine read
      obtain ⟨member, -⟩ := Registry.latestAtDepth?_some found
      rw [registers.entries]
      have path := Path.isWord_child (ih.paths _ member) solid
      refine ih.item (Item.declarable_of_read read found') path fun empty => ?_
      rw [empty] at member
      cases member

theorem Outlined.exists_item {origin : String} {done : List Line} {entries : List Entry}
    {entry : Entry} (outlined : Outlined origin done entries) (member : entry ∈ entries) :
    ∃ item, (item, entry) ∈ (itemsOf (outlineOf done)).zip entries := by
  obtain ⟨k, bound, rfl⟩ := List.getElem_of_mem member
  have bound' : k < (itemsOf (outlineOf done)).length := outlined.declares.length_eq ▸ bound
  exact ⟨_, outlined.paired.get bound' bound⟩

namespace Pass.Reached

variable {origin : String} {done : List Line} {pass : Pass}
  (reached : Reached .builtin origin .empty done pass)

include reached

theorem shows {item : Item × Nat} {entry : Entry}
    (pair : (item, entry) ∈ (itemsOf (outlineOf done)).zip pass.registry.entries) :
    item.1.Declarable ∧ Path.lastSegment entry.path = item.1.name ∧
      Path.depth entry.path = item.1.depth ∧
      pass.scene.heap.classOf entry.object = item.1.typeWord.className := by
  have declares := reached.outlined.of_pair pair
  have mirrors := (reached.pictured.mirrorsSource reached.outlined).mirrors
  obtain ⟨object, found, mirrors⟩ := (List.forall₂_iff_zip.1 mirrors).2 pair
  refine ⟨reached.displayed.items item (List.of_mem_zip pair).1, declares.name, declares.depth, ?_⟩
  rw [Heap.classOf, found, Option.map_some, Option.getD_some, mirrors.className]

theorem plain : pass.registry.Plain pass.scene.heap where
  paths := reached.displayed.paths
  classes := by
    intro entry member
    obtain ⟨item, pair⟩ := reached.outlined.exists_item member
    obtain ⟨declarable, -, -, className⟩ := reached.shows pair
    rw [className]
    exact declarable.className.solid

end Pass.Reached

end WidgetOutline
