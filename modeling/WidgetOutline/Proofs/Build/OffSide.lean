import WidgetOutline.Proofs.Build.Run
import WidgetOutline.Proofs.Registry.Path

/-!
# The off-side rule

The parent of a line is the nearest item line before it that is indented by less (`parent?`).
A build looks for the last entry exactly one level up instead; `find_shallower` shows that this is
the same entry, because no entry lies more than one level below the one before it.  So the entries
of a built hierarchy are the item lines of its source, nested by indentation (`Declares`).
-/

namespace WidgetOutline

def numberedLines (source : List Char) : List (Line × Nat) :=
  ((dedent source).zipIdx 1).filterMap fun (text, number) =>
    (readLine text).toOption.map (·, number)

abbrev outlineOf (lines : List Line) : List (Line × Nat) := lines.zipIdx 1

def itemOf? : Line × Nat → Option (Item × Nat)
  | (.item declared, number) => some (declared, number)
  | _ => none

theorem itemOf?_of_indent? {line : Line} (silent : line.indent? = none) (number : Nat) :
    itemOf? (line, number) = none := by
  cases line with
  | item declared => cases silent
  | _ => rfl

def itemsOf (outline : List (Line × Nat)) : List (Item × Nat) := outline.filterMap itemOf?

/-- The nearest item line before a line that is indented by less. -/
def parent? (outline : List (Line × Nat)) (line : Line × Nat) : Option (Item × Nat) :=
  line.1.indent?.bind fun indent =>
    ((itemsOf outline).filter (·.2 < line.2)).reverse.find? (·.1.indent < indent)

def said? : List Char × Nat → Option (Line × Nat)
  | (text, number) => (readLine text).toOption.map (·, number)

theorem filterMap_said? {texts : List (List Char)} {read : List Line} (reads : Reads texts read)
    (number : Nat) : (texts.zipIdx number).filterMap said? = read.zipIdx number := by
  induction reads generalizing number with
  | nil => rfl
  | @cons text line _ _ ok _ ih =>
    simp only [List.zipIdx_cons, List.filterMap_cons, said?, ok, Except.toOption, Option.map_some]
    exact congrArg _ (ih (number + 1))

theorem numberedLines_eq {source : List Char} {read : List Line}
    (reads : Reads (dedent source) read) :
    numberedLines source = outlineOf read := filterMap_said? reads 1

theorem outlineOf_concat (done : List Line) (line : Line) :
    outlineOf (done ++ [line]) = outlineOf done ++ [(line, done.length + 1)] := by
  rw [outlineOf, List.zipIdx_append, List.zipIdx_singleton, Nat.add_comm]

theorem number_le_of_mem {done : List Line} {item : Item × Nat}
    (member : item ∈ itemsOf (outlineOf done)) : item.2 ≤ done.length := by
  obtain ⟨⟨line, number⟩, inLines, eq⟩ := List.mem_filterMap.1 member
  have bound := (List.mem_zipIdx inLines).2.1
  cases line <;> cases eq
  omega

theorem itemsOf_append (outline more : List (Line × Nat)) :
    itemsOf (outline ++ more) = itemsOf outline ++ itemsOf more := List.filterMap_append ..

theorem itemsOf_concat (done : List Line) (line : Line) : itemsOf (outlineOf (done ++ [line])) =
    itemsOf (outlineOf done) ++ (itemOf? (line, done.length + 1)).toList := by
  rw [outlineOf_concat, itemsOf_append]
  simp only [itemsOf, List.filterMap_cons, List.filterMap_nil]
  cases itemOf? (line, done.length + 1) <;> rfl

theorem nodup_itemsOf (done : List Line) : (itemsOf (outlineOf done)).Nodup := by
  have numbers : ((outlineOf done).map Prod.snd).Nodup := by
    rw [List.zipIdx_map_snd]
    exact List.nodup_range'
  refine numbers.of_map.filterMap ?_
  intro first second item found found'
  obtain ⟨line, number⟩ := first
  obtain ⟨line', number'⟩ := second
  cases line <;> cases found
  cases line' <;> cases found'
  rfl

theorem parent?_append {outline more : List (Line × Nat)} {line : Line × Nat}
    (later : ∀ other ∈ more, line.2 ≤ other.2) :
    parent? (outline ++ more) line = parent? outline line := by
  have none : (itemsOf more).filter (·.2 < line.2) = [] := by
    rw [List.filter_eq_nil_iff]
    intro item member
    obtain ⟨⟨other, number⟩, inMore, eq⟩ := List.mem_filterMap.1 member
    have bound := later _ inMore
    cases other <;> cases eq
    simpa using bound
  unfold parent?
  rw [itemsOf_append, List.filter_append, none, List.append_nil]

theorem parent?_last (done : List Line) (line : Line) :
    parent? (outlineOf (done ++ [line])) (line, done.length + 1) =
      line.indent?.bind fun indent =>
        (itemsOf (outlineOf done)).reverse.find? (·.1.indent < indent) := by
  have all : (itemsOf (outlineOf done)).filter (·.2 < done.length + 1) = itemsOf (outlineOf done) :=
    List.filter_eq_self.2 fun item member => by
      have := number_le_of_mem member
      simp
      omega
  rw [outlineOf_concat, parent?_append (by simp)]
  simp only [parent?, all]

/-- An entry is what an item line declares among the lines and entries of a build. -/
structure Declares (origin : String) (outline : List (Line × Nat)) (entries : List Entry)
    (item : Item × Nat) (entry : Entry) : Prop where
  name : entry.name = item.1.name
  provenance : entry.provenance = { line := item.2, origin }
  depth : entry.depth = 1 + item.1.indent / 2
  path : match parent? outline (.item item.1, item.2) with
    | none => entry.depth = 1 ∧ entry.path = item.1.name
    | some above => ∃ parent ∈ entries, parent.provenance.line = above.2 ∧
        entry.path = Path.child parent.path item.1.name

theorem Declares.append {origin : String} {outline more : List (Line × Nat)}
    {entries : List Entry} {item : Item × Nat} {entry : Entry}
    (declares : Declares origin outline entries item entry)
    (later : ∀ other ∈ more, item.2 ≤ other.2) (new : List Entry) :
    Declares origin (outline ++ more) (entries ++ new) item entry := by
  refine { declares with path := ?_ }
  rw [parent?_append later]
  have path := declares.path
  split at path
  · exact path
  · obtain ⟨parent, member, rest⟩ := path
    exact ⟨parent, List.mem_append_left _ member, rest⟩

theorem Declares.top {origin : String} {outline : List (Line × Nat)} {entries : List Entry}
    {declared : Item} {number : Nat} {object : ObjectId}
    (undotted : Path.separator ∉ declared.name.toList) (level : declared.depth = 1)
    (alone : parent? outline (.item declared, number) = none) :
    Declares origin outline entries (declared, number)
      { path := declared.name, object, provenance := { line := number, origin } } where
  name := Path.lastSegment_name undotted
  provenance := rfl
  depth := (Path.depth_name undotted).trans level.symm
  path := by
    rw [alone]
    exact ⟨Path.depth_name undotted, rfl⟩

theorem Declares.child {origin : String} {outline : List (Line × Nat)} {entries : List Entry}
    {declared : Item} {number : Nat} {object : ObjectId} {above : Item × Nat} {parent : Entry}
    (undotted : Path.separator ∉ declared.name.toList)
    (level : declared.depth = parent.depth + 1)
    (below : parent? outline (.item declared, number) = some above) (member : parent ∈ entries)
    (same : parent.provenance.line = above.2) :
    Declares origin outline entries (declared, number)
      { path := Path.child parent.path declared.name, object,
        provenance := { line := number, origin } } where
  name := Path.lastSegment_child parent.path undotted
  provenance := rfl
  depth := (Path.depth_child parent.path undotted).trans level.symm
  path := by
    rw [below]
    exact ⟨parent, member, same, rfl⟩

def Climbs (entries : List Entry) : Prop :=
  entries.reverse.IsChain fun later earlier => later.depth ≤ earlier.depth + 1

/-- The last entry one level up belongs to the last item that is indented by less.  Both lists are
read from their ends. -/
theorem find_shallower {related : Item × Nat → Entry → Prop} {items : List (Item × Nat)}
    {entries : List Entry} (same : List.Forall₂ related items entries)
    (deep : ∀ item entry, related item entry → entry.depth = depthOf item.1.indent)
    (climbs : entries.IsChain fun later earlier => later.depth ≤ earlier.depth + 1)
    {indent : Nat} (even : indent % indentStep = 0)
    (shallow : ∀ entry ∈ entries.head?, depthOf indent ≤ entry.depth + 1) :
    Option.Rel related (items.find? (·.1.indent < indent))
      (entries.find? (·.depth == depthOf indent - 1)) := by
  induction same with
  | nil => exact .none
  | @cons item entry items entries first _ ih =>
    have near := shallow entry rfl
    have depth := deep item entry first
    unfold depthOf indentStep at *
    by_cases parent : entry.depth = 1 + indent / 2 - 1
    · have less : item.1.indent < indent := by omega
      rw [List.find?_cons_of_pos (by simpa using less),
        List.find?_cons_of_pos (by simpa using parent)]
      exact .some first
    · -- The entry is at least as deep, so the one before it is deep enough for the search to go on.
      have more : ¬item.1.indent < indent := by omega
      rw [List.find?_cons_of_neg (by simpa using more),
        List.find?_cons_of_neg (by simpa using parent)]
      refine ih climbs.tail fun next head => ?_
      have step := climbs.rel_head? head
      omega

structure Outlined (origin : String) (done : List Line) (entries : List Entry) : Prop where
  declares : List.Forall₂ (Declares origin (outlineOf done) entries) (itemsOf (outlineOf done))
    entries
  climbs : Climbs entries

namespace Outlined

variable {origin : String} {done : List Line}

theorem paired {entries : List Entry} (outlined : Outlined origin done entries) :
    List.Forall₂ (fun item entry => (item, entry) ∈ (itemsOf (outlineOf done)).zip entries)
      (itemsOf (outlineOf done)) entries :=
  List.forall₂_iff_zip.2 ⟨outlined.declares.length_eq, id⟩

theorem of_pair {entries : List Entry} {item : Item × Nat} {entry : Entry}
    (outlined : Outlined origin done entries)
    (pair : (item, entry) ∈ (itemsOf (outlineOf done)).zip entries) :
    Declares origin (outlineOf done) entries item entry :=
  (List.forall₂_iff_zip.1 outlined.declares).2 pair

theorem line_le {entries : List Entry} (outlined : Outlined origin done entries) :
    ∀ entry ∈ entries, entry.provenance.line ≤ done.length := by
  intro entry member
  obtain ⟨k, bound, rfl⟩ := List.getElem_of_mem member
  have bound' : k < (itemsOf (outlineOf done)).length := outlined.declares.length_eq ▸ bound
  have provenance : entries[k].provenance = _ := (outlined.declares.get bound' bound).provenance
  rw [provenance]
  exact number_le_of_mem (List.getElem_mem bound')

theorem parent_rel {registry : Registry} (outlined : Outlined origin done registry.entries)
    {line : Line} {indent : Nat} (indented : line.indent? = some indent)
    (even : indent % indentStep = 0) (near : depthOf indent ≤ registry.currentDepth + 1) :
    Option.Rel (fun item entry => (item, entry) ∈ (itemsOf (outlineOf done)).zip registry.entries)
      (parent? (outlineOf (done ++ [line])) (line, done.length + 1))
      (registry.latestAtDepth? (depthOf indent - 1)) := by
  rw [parent?_last, indented, Option.bind_some]
  refine find_shallower (List.forall₂_reverse_iff.2 outlined.paired)
    (fun item entry pair => (outlined.of_pair pair).depth) outlined.climbs even
    fun entry last => ?_
  rw [List.head?_reverse] at last
  rwa [Registry.currentDepth, last] at near

theorem exists_parent {registry : Registry} (outlined : Outlined origin done registry.entries)
    {line : Line} {indent : Nat} (indented : line.indent? = some indent)
    (even : indent % indentStep = 0) (near : depthOf indent ≤ registry.currentDepth + 1)
    {parent : Entry} (found : registry.latestAtDepth? (depthOf indent - 1) = some parent) :
    ∃ above, parent? (outlineOf (done ++ [line])) (line, done.length + 1) = some above ∧
      (above, parent) ∈ (itemsOf (outlineOf done)).zip registry.entries := by
  have related := outlined.parent_rel indented even near
  rw [found] at related
  cases search : parent? (outlineOf (done ++ [line])) (line, done.length + 1) with
  | none =>
    rw [search] at related
    cases related
  | some above =>
    rw [search] at related
    cases related with
    | some pair => exact ⟨above, rfl, pair⟩

theorem concat {entries new : List Entry} {line : Line}
    (outlined : Outlined origin done entries)
    (declared : List.Forall₂ (Declares origin (outlineOf (done ++ [line])) (entries ++ new))
      (itemOf? (line, done.length + 1)).toList new)
    (climbs : Climbs (entries ++ new)) : Outlined origin (done ++ [line]) (entries ++ new) := by
  refine ⟨?_, climbs⟩
  rw [itemsOf_concat]
  refine List.rel_append ?_ declared
  have numbered := (List.forall₂_and_left _ _).2 ⟨fun _ => number_le_of_mem, outlined.declares⟩
  refine numbered.imp fun item entry ⟨bound, declares⟩ => ?_
  rw [outlineOf_concat]
  refine declares.append (fun other member => ?_) new
  rw [List.mem_singleton.1 member]
  exact Nat.le_succ_of_le bound

theorem concat_nothing {entries : List Entry} {line : Line}
    (outlined : Outlined origin done entries) (nothing : itemOf? (line, done.length + 1) = none) :
    Outlined origin (done ++ [line]) entries := by
  have grown := @concat origin done entries [] line outlined (by simp [nothing])
  simp only [List.append_nil] at grown
  exact grown outlined.climbs

theorem concat_item {registry after : Registry} {declared : Item} {entry : Entry}
    (outlined : Outlined origin done registry.entries)
    (near : declared.depth ≤ registry.currentDepth + 1)
    (declares : Declares origin (outlineOf (done ++ [Line.item declared]))
      (registry.entries ++ [entry]) (declared, done.length + 1) entry)
    (inserted : after.entries = registry.entries ++ [entry]) :
    Outlined origin (done ++ [.item declared]) after.entries := by
  rw [inserted]
  refine outlined.concat (.cons declares .nil) ?_
  unfold Climbs
  rw [List.reverse_append, List.reverse_singleton, List.singleton_append, List.isChain_cons]
  refine ⟨fun last found => ?_, outlined.climbs⟩
  rw [List.head?_reverse] at found
  have depth : entry.depth = declared.depth := declares.depth
  rwa [Registry.currentDepth, found, ← depth] at near

end Outlined

theorem Registry.latestAtDepth?_some {registry : Registry} {depth : Nat} {entry : Entry}
    (found : registry.latestAtDepth? depth = some entry) :
    entry ∈ registry.entries ∧ entry.depth = depth :=
  ⟨List.mem_reverse.1 (List.mem_of_find?_eq_some found), by simpa using List.find?_some found⟩

theorem parent?_top {done : List Line} {declared : Item}
    (even : declared.indent % indentStep = 0) (level : declared.depth = 1) :
    parent? (outlineOf (done ++ [Line.item declared])) (.item declared, done.length + 1) =
      none := by
  have flush : declared.indent = 0 := by
    unfold Item.depth depthOf indentStep at *
    omega
  simp [parent?_last, Line.indent?, flush]

theorem Pass.Reached.outlined {builder : Builder} {origin : String} {heap : Heap}
    {done : List Line} {pass : Pass} (reached : Reached builder origin heap done pass) :
    Outlined origin done pass.registry.entries := by
  induction reached with
  | start => exact ⟨.nil, .nil⟩
  | @line done pass after text line earlier read built ih =>
    cases built_of_line read built with
    | silent silent => exact ih.concat_nothing (itemOf?_of_indent? silent _)
    | stretch => exact ih.concat_nothing rfl
    | @top declared _ _ _ checked _ level registers =>
      obtain ⟨-, near⟩ := checkDepth_ok_iff.1 checked
      obtain ⟨-, even⟩ := (readLine_indent read).2 _ rfl
      obtain ⟨-, undotted, -⟩ := name_of_readLine read
      exact ih.concat_item near (.top undotted level (parent?_top even level)) registers.entries
    | @below declared _ _ above _ _ _ checked _ nested found _ registers =>
      obtain ⟨-, near⟩ := checkDepth_ok_iff.1 checked
      obtain ⟨-, even⟩ := (readLine_indent read).2 _ rfl
      obtain ⟨-, undotted, -⟩ := name_of_readLine read
      have indented : (Line.item declared).indent? = some declared.indent := rfl
      obtain ⟨item, below, pair⟩ := ih.exists_parent indented even near found
      have same := congrArg Provenance.line (ih.of_pair pair).provenance
      obtain ⟨member, depth⟩ := Registry.latestAtDepth?_some found
      have level : declared.depth = above.depth + 1 := by
        unfold Item.depth depthOf indentStep at *
        omega
      exact ih.concat_item near
        (.child undotted level below (List.mem_append_left _ member) same) registers.entries

theorem entries_of_build {builder : Builder} {source origin : String} {heap : Heap}
    {hierarchy : Hierarchy} (ok : (builder.build source origin heap).outcome = .ok hierarchy) :
    List.Forall₂ (Declares origin (numberedLines source.toList) hierarchy.entries)
      (itemsOf (numberedLines source.toList)) hierarchy.entries := by
  obtain ⟨read, pass, reads, reached, entries, -⟩ := Builder.reached_of_build ok
  rw [numberedLines_eq reads, entries]
  exact reached.outlined.declares

def nestedSource : String :=
  "  a WIDGET\n    b HBOX\n      <>\n# c\n      d LABEL(x)\n  e TAB\n"

theorem entries_of_build_nested :
    ∃ hierarchy, (build nestedSource "ui").outcome = .ok hierarchy ∧
      hierarchy.paths = ["a", "a.b", "a.b.d", "e"] ∧
      List.Forall₂ (Declares "ui" (numberedLines nestedSource.toList) hierarchy.entries)
        (itemsOf (numberedLines nestedSource.toList)) hierarchy.entries := by
  have run : (Builder.builtin.build nestedSource "ui" .empty).outcome.toOption.map Hierarchy.paths =
      some ["a", "a.b", "a.b.d", "e"] := by decide +kernel
  obtain ⟨hierarchy, ok, paths⟩ := Builder.Result.exists_hierarchy run
  exact ⟨hierarchy, ok, paths, entries_of_build ok⟩

end WidgetOutline
