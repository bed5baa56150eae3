import WidgetOutline.Proofs.Build.OffSide
import WidgetOutline.Proofs.Nesting.Picture
import Mathlib.Data.List.Sort

namespace WidgetOutline

def slotOf? (entries : List Entry) : Line × Nat → Option Slot
  | (.item _, number) =>
    (entries.find? (·.provenance.line == number)).map fun entry => .object entry.object
  | (.stretch _, _) => some .stretch
  | _ => none

/-- The slots of the lines whose parent is an item, in the order of the lines. -/
def slotsBelow (outline : List (Line × Nat)) (entries : List Entry) (item : Item × Nat) :
    List Slot :=
  (outline.filter (parent? outline · = some item)).filterMap (slotOf? entries)

def classAbove? (outline : List (Line × Nat)) (item : Item × Nat) : Option String :=
  (parent? outline (.item item.1, item.2)).map (·.1.typeWord.className)

theorem number_le {done : List Line} {line : Line × Nat} (member : line ∈ outlineOf done) :
    line.2 ≤ done.length := by
  obtain ⟨line, number⟩ := line
  have := (List.mem_zipIdx member).2.1
  dsimp only
  omega

theorem parent?_lt {outline : List (Line × Nat)} {line : Line × Nat} {item : Item × Nat}
    (found : parent? outline line = some item) : item.2 < line.2 := by
  obtain ⟨indent, -, search⟩ := Option.bind_eq_some_iff.1 found
  have member := List.mem_reverse.1 (List.mem_of_find?_eq_some search)
  simpa using (List.mem_filter.1 member).2

theorem slotsBelow_last {outline : List (Line × Nat)} {entries : List Entry} {item : Item × Nat}
    (last : ∀ line ∈ outline, line.2 ≤ item.2) : slotsBelow outline entries item = [] := by
  have none : outline.filter (parent? outline · = some item) = [] := by
    rw [List.filter_eq_nil_iff]
    intro line member found
    have before := parent?_lt (of_decide_eq_true found)
    exact Nat.lt_irrefl _ (Nat.lt_of_lt_of_le before (last line member))
  rw [slotsBelow, none, List.filterMap_nil]

variable {done : List Line} {line : Line} {entries new : List Entry}

theorem slotOf?_append {other : Line × Nat} (earlier : other.2 ≤ done.length)
    (numbered : ∀ entry ∈ new, entry.provenance.line = done.length + 1) :
    slotOf? (entries ++ new) other = slotOf? entries other := by
  obtain ⟨said, number⟩ := other
  cases said with
  | item declared =>
    have none : new.find? (·.provenance.line == number) = none := by
      rw [List.find?_eq_none]
      intro entry member
      have := numbered entry member
      dsimp only at earlier
      simp
      omega
    simp only [slotOf?, List.find?_append, none, Option.or_none]
  | _ => rfl

theorem slotsBelow_concat (numbered : ∀ entry ∈ new, entry.provenance.line = done.length + 1)
    (item : Item × Nat) :
    slotsBelow (outlineOf (done ++ [line])) (entries ++ new) item =
      slotsBelow (outlineOf done) entries item ++
        if parent? (outlineOf (done ++ [line])) (line, done.length + 1) = some item then
          (slotOf? (entries ++ new) (line, done.length + 1)).toList
        else [] := by
  have later : ∀ other ∈ outlineOf done, ∀ last ∈ [(line, done.length + 1)], other.2 ≤ last.2 := by
    intro other member last final
    rw [List.mem_singleton.1 final]
    exact Nat.le_succ_of_le (number_le member)
  unfold slotsBelow
  rw [outlineOf_concat, List.filter_append, List.filterMap_append]
  congr 1
  · have same : (outlineOf done).filter
          (parent? (outlineOf done ++ [(line, done.length + 1)]) · = some item) =
        (outlineOf done).filter (parent? (outlineOf done) · = some item) :=
      List.filter_congr fun other member => by rw [parent?_append (later other member)]
    rw [same]
    exact List.filterMap_congr fun other member =>
      slotOf?_append (number_le (List.mem_of_mem_filter member)) numbered
  · by_cases found : parent? (outlineOf done ++ [(line, done.length + 1)])
        (line, done.length + 1) = some item
    · rw [if_pos found, List.filter_cons_of_pos (by simpa using found), List.filter_nil,
        List.filterMap_cons, List.filterMap_nil]
      cases slotOf? (entries ++ new) (line, done.length + 1) <;> rfl
    · rw [if_neg found, List.filter_cons_of_neg (by simpa using found), List.filter_nil,
        List.filterMap_nil]

theorem classAbove?_concat {item : Item × Nat} (earlier : item.2 ≤ done.length) :
    classAbove? (outlineOf (done ++ [line])) item = classAbove? (outlineOf done) item := by
  unfold classAbove?
  rw [outlineOf_concat, parent?_append]
  intro last final
  rw [List.mem_singleton.1 final]
  exact Nat.le_succ_of_le earlier

def slotsAt (outline : List (Line × Nat)) (entries : List Entry) (k : Nat) : List Slot :=
  ((itemsOf outline)[k]?.map (slotsBelow outline entries)).getD []

def classAt? (outline : List (Line × Nat)) (k : Nat) : Option String :=
  (itemsOf outline)[k]?.bind (classAbove? outline)

theorem getElem?_itemsOf_concat {k : Nat} (bound : k < (itemsOf (outlineOf done)).length) :
    (itemsOf (outlineOf (done ++ [line])))[k]? = (itemsOf (outlineOf done))[k]? := by
  rw [itemsOf_concat, List.getElem?_append_left bound]

theorem classAt?_concat {k : Nat} (bound : k < (itemsOf (outlineOf done)).length) :
    classAt? (outlineOf (done ++ [line])) k = classAt? (outlineOf done) k := by
  unfold classAt?
  rw [getElem?_itemsOf_concat bound, List.getElem?_eq_getElem bound]
  exact classAbove?_concat (number_le_of_mem (List.getElem_mem bound))

theorem slotsAt_concat_alone (numbered : ∀ entry ∈ new, entry.provenance.line = done.length + 1)
    (alone : parent? (outlineOf (done ++ [line])) (line, done.length + 1) = none) {k : Nat}
    (bound : k < (itemsOf (outlineOf done)).length) :
    slotsAt (outlineOf (done ++ [line])) (entries ++ new) k = slotsAt (outlineOf done) entries k := by
  unfold slotsAt
  rw [getElem?_itemsOf_concat bound, List.getElem?_eq_getElem bound, Option.map_some,
    slotsBelow_concat numbered, alone]
  simp

theorem slotsAt_concat_below (numbered : ∀ entry ∈ new, entry.provenance.line = done.length + 1)
    {above : Item × Nat} {p : Nat} {slot : Slot}
    (below : parent? (outlineOf (done ++ [line])) (line, done.length + 1) = some above)
    (place : (itemsOf (outlineOf done))[p]? = some above)
    (put : slotOf? (entries ++ new) (line, done.length + 1) = some slot) {k : Nat}
    (bound : k < (itemsOf (outlineOf done)).length) :
    slotsAt (outlineOf (done ++ [line])) (entries ++ new) k =
      Function.update (slotsAt (outlineOf done) entries) p
        (slotsAt (outlineOf done) entries p ++ [slot]) k := by
  by_cases same : k = p
  · subst same
    rw [Function.update_self]
    unfold slotsAt
    rw [getElem?_itemsOf_concat bound, place, Option.map_some, slotsBelow_concat numbered, below,
      put]
    simp
  · rw [Function.update_of_ne same]
    have other : above ≠ (itemsOf (outlineOf done))[k] := by
      intro eq
      obtain ⟨bound', at_⟩ := List.getElem?_eq_some_iff.1 place
      exact same ((nodup_itemsOf done).getElem_inj_iff.1 (eq ▸ at_).symm)
    unfold slotsAt
    rw [getElem?_itemsOf_concat bound, List.getElem?_eq_getElem bound, Option.map_some,
      slotsBelow_concat numbered, below]
    simp [other]

theorem itemsOf_last {declared : Item} :
    (itemsOf (outlineOf (done ++ [Line.item declared])))[(itemsOf (outlineOf done)).length]? =
      some (declared, done.length + 1) := by
  rw [itemsOf_concat, List.getElem?_append_right (Nat.le_refl _), Nat.sub_self]
  rfl

theorem slotsAt_new {declared : Item} (new : List Entry) :
    slotsAt (outlineOf (done ++ [Line.item declared])) new (itemsOf (outlineOf done)).length = [] := by
  have place := @itemsOf_last done declared
  unfold slotsAt
  rw [place, Option.map_some, Option.getD_some]
  apply slotsBelow_last
  intro line member
  simpa using number_le member

theorem classAt?_new {declared : Item} :
    classAt? (outlineOf (done ++ [Line.item declared])) (itemsOf (outlineOf done)).length =
      classAbove? (outlineOf (done ++ [Line.item declared])) (declared, done.length + 1) := by
  rw [classAt?, itemsOf_last]
  rfl

theorem slotsAt_length {outline : List (Line × Nat)} :
    slotsAt outline entries (itemsOf outline).length = [] := by
  simp [slotsAt]

theorem classAt?_length {outline : List (Line × Nat)} :
    classAt? outline (itemsOf outline).length = none := by
  simp [classAt?]

theorem place_cases {declared : Item} {k : Nat}
    (bound : k < ((itemsOf (outlineOf (done ++ [Line.item declared]))).map (·.1)).length) :
    k < (itemsOf (outlineOf done)).length ∨ k = (itemsOf (outlineOf done)).length := by
  rw [List.length_map, itemsOf_concat, List.length_append] at bound
  exact Nat.lt_succ_iff_lt_or_eq.1 bound

theorem slotOf?_last {declared : Item} {entry : Entry}
    (earlier : ∀ other ∈ entries, other.provenance.line ≤ done.length)
    (numbered : entry.provenance.line = done.length + 1) :
    slotOf? (entries ++ [entry]) (.item declared, done.length + 1) =
      some (.object entry.object) := by
  have none : entries.find? (·.provenance.line == done.length + 1) = none := by
    rw [List.find?_eq_none]
    intro other member
    have := earlier other member
    simp
    omega
  simp [slotOf?, List.find?_append, none, numbered]

structure Pictured (done : List Line) (entries : List Entry) (tabs : TabLabels) (heap : Heap) :
    Prop where
  objects : entries.map (·.object.index) = List.range (itemsOf (outlineOf done)).length
  picture : Picture ((itemsOf (outlineOf done)).map (·.1)) (slotsAt (outlineOf done) entries)
    (classAt? (outlineOf done)) tabs heap

namespace Pictured

variable {tabs : TabLabels} {heap : Heap}

theorem exists_place (pictured : Pictured done entries tabs heap) {above : Item × Nat}
    {parent : Entry} (pair : (above, parent) ∈ (itemsOf (outlineOf done)).zip entries) :
    ∃ p, (itemsOf (outlineOf done))[p]? = some above ∧ parent.object = ⟨p⟩ := by
  obtain ⟨p, at_⟩ := List.mem_iff_getElem?.1 pair
  obtain ⟨item, entry⟩ := List.getElem?_zip_eq_some.1 at_
  refine ⟨p, item, ?_⟩
  have index : (entries.map (·.object.index))[p]? = some parent.object.index := by
    rw [List.getElem?_map, entry]
    rfl
  rw [pictured.objects, List.getElem?_range (List.getElem?_eq_some_iff.1 item).1] at index
  rw [Option.some.inj index]

theorem skip (pictured : Pictured done entries tabs heap) (silent : line.indent? = none) :
    Pictured (done ++ [line]) entries tabs heap := by
  have items : itemsOf (outlineOf (done ++ [line])) = itemsOf (outlineOf done) := by
    rw [itemsOf_concat, itemOf?_of_indent? silent]
    exact List.append_nil _
  have alone : parent? (outlineOf (done ++ [line])) (line, done.length + 1) = none := by
    rw [parent?_last, silent]
    rfl
  refine ⟨items ▸ pictured.objects, ?_⟩
  rw [items]
  refine pictured.picture.congr (fun k bound => ?_) fun k bound => ?_
  · rw [List.length_map] at bound
    have same := @slotsAt_concat_alone done line entries [] (by simp) alone k bound
    rwa [List.append_nil] at same
  · rw [List.length_map] at bound
    exact classAt?_concat bound

theorem stretch {indent p : Nat} {above : Item × Nat} {strategy : Strategy}
    {object taken : Object} (pictured : Pictured done entries tabs heap)
    (below : parent? (outlineOf (done ++ [Line.stretch indent])) (.stretch indent, done.length + 1) =
      some above)
    (place : (itemsOf (outlineOf done))[p]? = some above) (found : heap.get? ⟨p⟩ = some object)
    (takes : Takes heap tabs.next strategy .stretch object taken) :
    Pictured (done ++ [.stretch indent]) entries (tabs.after strategy) (heap.put ⟨p⟩ taken) := by
  have items : itemsOf (outlineOf (done ++ [Line.stretch indent])) = itemsOf (outlineOf done) := by
    rw [itemsOf_concat]
    exact List.append_nil _
  refine ⟨items ▸ pictured.objects, ?_⟩
  rw [items]
  have took := pictured.picture.put found takes (by simp [Slot.object?])
  refine took.congr (fun k bound => ?_) fun k bound => ?_
  · rw [List.length_map] at bound
    have numbered : ∀ entry ∈ ([] : List Entry), entry.provenance.line = done.length + 1 := by simp
    have put : slotOf? (entries ++ []) (.stretch indent, done.length + 1) = some .stretch := rfl
    have same := slotsAt_concat_below numbered below place put bound
    rwa [List.append_nil] at same
  · rw [List.length_map] at bound
    exact classAt?_concat bound

variable {declared : Item} {entry : Entry} {object : Object}

theorem add (pictured : Pictured done entries tabs heap)
    (fresh : object.Fresh declared.typeWord.className declared.text) :
    Picture ((itemsOf (outlineOf (done ++ [Line.item declared]))).map (·.1))
      (slotsAt (outlineOf done) entries) (classAt? (outlineOf done)) tabs (heap.add object).2 := by
  have length : ((itemsOf (outlineOf done)).map (·.1)).length = (itemsOf (outlineOf done)).length :=
    List.length_map _
  have added := pictured.picture.add fresh (length ▸ slotsAt_length) (length ▸ classAt?_length)
  rw [itemsOf_concat, List.map_append]
  exact added

theorem objects_add (pictured : Pictured done entries tabs heap)
    (named : entry.object = (heap.add object).1) :
    (entries ++ [entry]).map (·.object.index) =
      List.range (itemsOf (outlineOf (done ++ [Line.item declared]))).length := by
  have size := pictured.picture.size
  rw [List.length_map] at size
  have last : entry.object.index = (itemsOf (outlineOf done)).length := by
    rw [named]
    exact size
  have length : (itemsOf (outlineOf (done ++ [Line.item declared]))).length =
      (itemsOf (outlineOf done)).length + 1 := by
    rw [itemsOf_concat, List.length_append]
    rfl
  rw [length, List.range_succ, List.map_append, pictured.objects, List.map_singleton, last]

theorem top (pictured : Pictured done entries tabs heap)
    (fresh : object.Fresh declared.typeWord.className declared.text)
    (named : entry.object = (heap.add object).1)
    (numbered : entry.provenance.line = done.length + 1)
    (alone : parent? (outlineOf (done ++ [Line.item declared])) (.item declared, done.length + 1) =
      none) :
    Pictured (done ++ [.item declared]) (entries ++ [entry]) tabs (heap.add object).2 := by
  refine ⟨pictured.objects_add named, ?_⟩
  have numbered' : ∀ new ∈ [entry], new.provenance.line = done.length + 1 := by
    simpa using numbered
  refine (pictured.add fresh).congr (fun k bound => ?_) fun k bound => ?_
  · rcases place_cases bound with earlier | rfl
    · exact slotsAt_concat_alone numbered' alone earlier
    · rw [slotsAt_new, slotsAt_length]
  · rcases place_cases bound with earlier | rfl
    · exact classAt?_concat earlier
    · rw [classAt?_new, classAbove?, alone, classAt?_length]
      rfl

theorem below {p : Nat} {above : Item × Nat} {strategy : Strategy} {holder taken : Object}
    (pictured : Pictured done entries tabs heap)
    (fresh : object.Fresh declared.typeWord.className declared.text)
    (named : entry.object = (heap.add object).1)
    (numbered : entry.provenance.line = done.length + 1)
    (earlier : ∀ other ∈ entries, other.provenance.line ≤ done.length)
    (below : parent? (outlineOf (done ++ [Line.item declared])) (.item declared, done.length + 1) =
      some above)
    (place : (itemsOf (outlineOf done))[p]? = some above)
    (found : (heap.add object).2.get? ⟨p⟩ = some holder)
    (takes : Takes (heap.add object).2 tabs.next strategy (.object entry.object) holder taken) :
    Pictured (done ++ [.item declared]) (entries ++ [entry]) (tabs.after strategy)
      ((heap.add object).2.nested ⟨p⟩ holder.isRow taken (.object entry.object)) := by
  refine ⟨pictured.objects_add named, ?_⟩
  have added := pictured.add fresh
  have size := pictured.picture.size
  rw [List.length_map] at size
  have last : entry.object = ⟨(itemsOf (outlineOf done)).length⟩ :=
    named.trans (congrArg ObjectId.mk size)
  have inside := (List.getElem?_eq_some_iff.1 place).1
  have bound : (itemsOf (outlineOf done)).length <
      ((itemsOf (outlineOf (done ++ [Line.item declared]))).map (·.1)).length := by
    simp [itemsOf_concat, itemOf?]
  have newest : ∀ other ∈ (heap.add object).2.gather Object.held,
      other.index < (itemsOf (outlineOf done)).length := by
    rw [Heap.gather_add fresh.held]
    intro other member
    simpa using pictured.picture.known other member
  rw [last] at takes ⊢
  have nested := added.nested found takes bound newest classAt?_length
  refine nested.congr (fun k bound => ?_) fun k bound => ?_
  · rcases place_cases bound with earlier' | rfl
    · have put : slotOf? (entries ++ [entry]) (.item declared, done.length + 1) =
          some (.object ⟨(itemsOf (outlineOf done)).length⟩) :=
        last ▸ slotOf?_last earlier numbered
      exact slotsAt_concat_below (by simpa using numbered) below place put earlier'
    · rw [slotsAt_new, Function.update_of_ne (Nat.ne_of_gt inside), slotsAt_length]
  · rcases place_cases bound with earlier' | rfl
    · rw [Function.update_of_ne (Nat.ne_of_lt earlier')]
      exact classAt?_concat earlier'
    · rw [classAt?_new, classAbove?, below, Function.update_self, Option.map_some]
      have holds : ((itemsOf (outlineOf (done ++ [Line.item declared]))).map (·.1))[p]? =
          some above.1 := by
        rw [List.getElem?_map, getElem?_itemsOf_concat inside, place]
        rfl
      obtain ⟨holder', found', mirrors⟩ := added.mirrors p above.1 holds
      obtain rfl := Option.some.inj (found.symm.trans found')
      rw [mirrors.className]

end Pictured

theorem Pass.Reached.pictured {origin : String} {done : List Line} {pass : Pass}
    (reached : Reached .builtin origin .empty done pass) :
    Pictured done pass.registry.entries pass.scene.tabs pass.scene.heap := by
  induction reached with
  | start => exact ⟨rfl, .empty⟩
  | @line done pass after text line earlier read built ih =>
    cases built_of_line read built with
    | silent silent => exact ih.skip silent
    | @stretch indent parent strategy scene checked nested found attached =>
      obtain ⟨-, near⟩ := checkDepth_ok_iff.1 checked
      obtain ⟨-, even⟩ := (readLine_indent read).2 _ rfl
      have indented : (Line.stretch indent).indent? = some indent := rfl
      obtain ⟨above, below, pair⟩ := earlier.outlined.exists_parent indented even near found
      obtain ⟨p, place, object⟩ := ih.exists_place pair
      obtain ⟨-, holder, taken, held, takes, heap, tabs⟩ := attach_ok ih.picture.plain attached
      rw [object] at held heap
      dsimp only
      rw [heap, tabs]
      exact ih.stretch below place held takes
    | top checked supplied level registers =>
      obtain ⟨-, even⟩ := (readLine_indent read).2 _ rfl
      obtain ⟨object, fresh, rfl, rfl⟩ := supply_builtin_ok supplied
      rw [registers.entries, registers.tabs, registers.heap]
      exact ih.top fresh rfl rfl (parent?_top even level)
    | @below declared _ _ parent strategy scene _ checked supplied nested found attached registers =>
      obtain ⟨-, near⟩ := checkDepth_ok_iff.1 checked
      obtain ⟨-, even⟩ := (readLine_indent read).2 _ rfl
      obtain ⟨object, fresh, rfl, rfl⟩ := supply_builtin_ok supplied
      have indented : (Line.item declared).indent? = some declared.indent := rfl
      obtain ⟨above, below, pair⟩ := earlier.outlined.exists_parent indented even near found
      obtain ⟨p, place, same⟩ := ih.exists_place pair
      -- The parent takes the new object in a heap that pictures the new item already.
      obtain ⟨-, holder, taken, held, takes, heap, tabs⟩ :=
        attach_ok (ih.add fresh).plain attached
      rw [same] at held heap
      rw [registers.entries, registers.tabs, registers.heap]
      dsimp only at heap tabs ⊢
      rw [heap, tabs]
      exact ih.below fresh rfl rfl earlier.outlined.line_le below place held takes

/-- The objects are those of the item lines, and each holds what the lines below it say.  The pages
of all tab widgets are labelled in the order of their lines, and nothing is held twice. -/
structure MirrorsSource (outline : List (Line × Nat)) (entries : List Entry) (heap : Heap) :
    Prop where
  objects : entries.map (·.object.index) = List.range heap.objects.size
  mirrors : List.Forall₂ (fun item entry => ∃ object, heap.get? entry.object = some object ∧
    object.Mirrors heap (slotsBelow outline entries item) (classAbove? outline item) item.1)
    (itemsOf outline) entries
  labels : ∃ pages : List (String × ObjectId), pages.Perm (heap.gather Object.tabPages) ∧
    (pages.map (·.2)).Sublist (entries.map (·.object)) ∧
    pages.map (·.1) = tabLabels pages.length
  once : (heap.gather Object.held).Nodup

theorem sublist_of_ordered {pages : List (String × ObjectId)} {n : Nat}
    (objects : entries.map (·.object.index) = List.range n)
    (ordered : pages.Pairwise (·.2.index < ·.2.index)) (known : ∀ page ∈ pages, page.2.index < n) :
    (pages.map (·.2)).Sublist (entries.map (·.object)) := by
  have rises : (pages.map (·.2.index)).Pairwise (· < ·) := List.pairwise_map.2 ordered
  have within : pages.map (·.2.index) ⊆ List.range n := by
    intro index member
    obtain ⟨page, inPages, rfl⟩ := List.mem_map.1 member
    exact List.mem_range.2 (known page inPages)
  have indices : (pages.map (·.2.index)).Sublist (entries.map (·.object.index)) := by
    rw [objects]
    have distinct : (pages.map (·.2.index)).Nodup := rises.imp Nat.ne_of_lt
    exact List.sublist_of_subperm_of_pairwise (List.subperm_of_subset distinct within) rises
      List.pairwise_lt_range
  have again := indices.map ObjectId.mk
  rw [List.map_map, List.map_map] at again
  exact again

theorem Pictured.mirrorsSource {origin : String} {tabs : TabLabels} {heap : Heap}
    (outlined : Outlined origin done entries) (pictured : Pictured done entries tabs heap) :
    MirrorsSource (outlineOf done) entries heap where
  objects := by
    rw [pictured.objects, pictured.picture.size, List.length_map]
  mirrors := by
    refine outlined.paired.imp fun item entry pair => ?_
    obtain ⟨k, place, same⟩ := pictured.exists_place pair
    have declared : ((itemsOf (outlineOf done)).map (·.1))[k]? = some item.1 := by
      rw [List.getElem?_map, place]
      rfl
    obtain ⟨object, found, mirrors⟩ := pictured.picture.mirrors k item.1 declared
    rw [slotsAt, classAt?, place] at mirrors
    exact ⟨object, same ▸ found, mirrors⟩
  labels := by
    obtain ⟨pages, perm, ordered, labels⟩ := pictured.picture.labels
    have count := congrArg List.length labels
    rw [List.length_map, length_tabLabels] at count
    refine ⟨pages, perm, ?_, count ▸ labels⟩
    refine sublist_of_ordered pictured.objects ordered fun page member => ?_
    simpa using pictured.picture.known page.2 (Labelled.held perm page member)
  once := pictured.picture.once

end WidgetOutline
