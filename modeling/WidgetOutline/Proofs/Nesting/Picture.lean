import WidgetOutline.Proofs.Supply.Builtin

namespace WidgetOutline

theorem Object.Fresh.mirrors {object : Object} {heap : Heap} {declared : Item}
    (fresh : object.Fresh declared.typeWord.className declared.text) :
    object.Mirrors heap [] none declared where
  className := fresh.className
  text := fresh.text
  box := fun _ => ⟨fresh.children, fresh.layout⟩
  fits := by simp
  layout := by simp [fresh.layout]
  children := by simp [fresh.children]
  flat := by
    intro orientation member
    have upright := fresh.upright
    rw [member] at upright
    simpa using upright
  scroll := by
    intro resizable member
    have fixed := fresh.fixed
    rw [member] at fixed
    simpa [fresh.children] using fixed

theorem Object.Fresh.held {object : Object} {className : String} {text : Option String}
    (fresh : object.Fresh className text) : object.held = [] := by
  simp [Object.held, fresh.children, fresh.layout]

theorem Object.tabPages_held (object : Object) :
    ∀ page ∈ object.tabPages, page.2 ∈ object.held := by
  intro page member
  cases object with
  | widget adopted body =>
    cases body with
    | tabs pages =>
      have slot : Slot.object page.2 ∈ (Object.widget adopted (.tabs pages)).children :=
        List.mem_map_of_mem member
      exact List.mem_append_right _ (List.mem_filterMap.2 ⟨_, slot, rfl⟩)
    | _ => cases member
  | _ => cases member

def tabLabels (n : Nat) : List String := (List.range n).map fun k => s!"tab_{k + 1}"

theorem tabLabels_succ (tabs : TabLabels) :
    tabLabels (tabs.used + 1) = tabLabels tabs.used ++ [tabs.next] := by
  simp [tabLabels, List.range_succ, TabLabels.next]

theorem length_tabLabels (n : Nat) : (tabLabels n).length = n := by
  simp [tabLabels]

/-- In the order of the objects, the pages have the labels that are used up. -/
def Labelled (heap : Heap) (tabs : TabLabels) : Prop :=
  ∃ pages : List (String × ObjectId), pages.Perm (heap.gather Object.tabPages) ∧
    pages.Pairwise (·.2.index < ·.2.index) ∧ pages.map (·.1) = tabLabels tabs.used

theorem Labelled.held {heap : Heap} {pages : List (String × ObjectId)}
    (perm : pages.Perm (heap.gather Object.tabPages)) :
    ∀ page ∈ pages, page.2 ∈ heap.gather Object.held := by
  intro page member
  obtain ⟨object, inHeap, inObject⟩ := List.mem_flatMap.1 (perm.subset member)
  exact List.mem_flatMap.2 ⟨object, inHeap, object.tabPages_held page inObject⟩

theorem Labelled.put {heap : Heap} {tabs : TabLabels} {id : ObjectId} {strategy : Strategy}
    {slot : Slot} {object taken : Object} (labelled : Labelled heap tabs)
    (found : heap.get? id = some object) (takes : Takes heap tabs.next strategy slot object taken)
    (newest : ∀ child ∈ slot.object?, ∀ other ∈ heap.gather Object.held,
      other.index < child.index) :
    Labelled (heap.put id taken) (tabs.after strategy) := by
  obtain ⟨pages, perm, ordered, labels⟩ := labelled
  have gains := Heap.gather_put found (List.Perm.of_eq takes.tabPages_eq)
  by_cases adds : strategy = .addTab
  · subst adds
    cases slot with
    | stretch => cases takes
    | object child =>
      refine ⟨pages ++ [(tabs.next, child)], ?_, ?_, ?_⟩
      · exact (perm.append_right _).trans gains.symm
      · rw [List.pairwise_append]
        refine ⟨ordered, List.pairwise_singleton .., fun page member last final => ?_⟩
        rw [List.mem_singleton.1 final]
        exact newest child rfl page.2 (held perm page member)
      · rw [List.map_append, labels]
        exact (tabLabels_succ tabs).symm
  · rw [if_neg adds, List.append_nil] at gains
    refine ⟨pages, perm.trans gains.symm, ordered, ?_⟩
    rw [labels]
    cases strategy with
    | addTab => exact absurd rfl adds
    | _ => rfl

/-- The objects of a heap are those of the declared items, in their order.  The slots that each
holds and the class above it are given by its place. -/
structure Picture (declared : List Item) (slots : Nat → List Slot) (above : Nat → Option String)
    (tabs : TabLabels) (heap : Heap) : Prop where
  size : heap.objects.size = declared.length
  mirrors : ∀ k item, declared[k]? = some item → ∃ object, heap.get? ⟨k⟩ = some object ∧
    object.Mirrors heap (slots k) (above k) item
  bounded : ∀ k < declared.length, ∀ slot ∈ slots k, ∀ id ∈ slot.object?,
    id.index < declared.length
  plain : heap.Plain
  rows : ∀ id object, heap.get? id = some object →
    (object.isRow = true ↔ object.className = "QHBoxLayout")
  known : ∀ id ∈ heap.gather Object.held, id.index < declared.length
  once : (heap.gather Object.held).Nodup
  labels : Labelled heap tabs

namespace Picture

variable {declared : List Item} {slots : Nat → List Slot} {above : Nat → Option String}
  {tabs : TabLabels} {heap : Heap}

theorem empty : Picture [] slots above .start .empty where
  size := rfl
  mirrors := by simp
  bounded := by simp
  plain := fun _ _ found => by cases found
  rows := fun _ _ found => by cases found
  known := by simp [Heap.gather, Heap.empty]
  once := .nil
  labels := ⟨[], .nil, .nil, rfl⟩

theorem mirrors_add {item : Item} {object : Object}
    (picture : Picture declared slots above tabs heap)
    (fresh : object.Fresh item.typeWord.className item.text)
    (nothing : slots declared.length = []) (alone : above declared.length = none) (k : Nat)
    (other : Item) (at_ : (declared ++ [item])[k]? = some other) :
    ∃ held, (heap.add object).2.get? ⟨k⟩ = some held ∧
      held.Mirrors (heap.add object).2 (slots k) (above k) other := by
  have last : (heap.add object).1 = ⟨declared.length⟩ := congrArg ObjectId.mk picture.size
  by_cases new : k = declared.length
  · subst new
    obtain rfl : item = other := by simpa using at_
    rw [nothing, alone, ← last]
    exact ⟨object, heap.get?_add_self object, fresh.mirrors⟩
  · have bound : k < declared.length := by
      have := (List.getElem?_eq_some_iff.1 at_).1
      rw [List.length_append, List.length_singleton] at this
      omega
    rw [List.getElem?_append_left bound] at at_
    obtain ⟨held, found, mirrors⟩ := picture.mirrors k other at_
    refine ⟨held, ?_, mirrors.congr fun slot member => ?_⟩
    · rw [Heap.get?_add, if_neg, found]
      intro same
      exact new (ObjectId.mk.inj (same.trans last))
    · refine Slot.kind?_congr fun id same => Heap.kindOf_add ?_
      rw [picture.size]
      exact picture.bounded k bound slot member id same

theorem add {item : Item} {object : Object} (picture : Picture declared slots above tabs heap)
    (fresh : object.Fresh item.typeWord.className item.text)
    (nothing : slots declared.length = []) (alone : above declared.length = none) :
    Picture (declared ++ [item]) slots above tabs (heap.add object).2 where
  size := by
    simp [Heap.add, picture.size]
  mirrors := picture.mirrors_add fresh nothing alone
  bounded := by
    intro k bound slot member id same
    rw [List.length_append, List.length_singleton] at bound ⊢
    by_cases last : k = declared.length
    · rw [last, nothing] at member
      cases member
    · have := picture.bounded k (by omega) slot member id same
      omega
  plain := picture.plain.add fresh.plain
  rows := by
    intro id other found
    rw [Heap.get?_add] at found
    split at found
    · cases found
      rw [fresh.row, fresh.className]
    · exact picture.rows id other found
  known := by
    rw [Heap.gather_add fresh.held]
    intro id member
    have := picture.known id member
    simp
    omega
  once := by
    rw [Heap.gather_add fresh.held]
    exact picture.once
  labels := by
    unfold Labelled
    rw [Heap.gather_add fresh.tabPages]
    exact picture.labels

theorem mirrors_put {p : Nat} {label : String} {strategy : Strategy} {slot : Slot}
    {object taken : Object} (picture : Picture declared slots above tabs heap)
    (found : heap.get? ⟨p⟩ = some object) (takes : Takes heap label strategy slot object taken)
    (k : Nat) (item : Item) (at_ : declared[k]? = some item) :
    ∃ held, (heap.put ⟨p⟩ taken).get? ⟨k⟩ = some held ∧
      held.Mirrors (heap.put ⟨p⟩ taken) (Function.update slots p (slots p ++ [slot]) k) (above k)
        item := by
  obtain ⟨held, found', mirrors⟩ := picture.mirrors k item at_
  have kinds (slot : Slot) : slot.kind? (heap.put ⟨p⟩ taken) = slot.kind? heap :=
    Slot.kind?_congr fun _ _ => Heap.kindOf_put found takes.kind_eq
  by_cases same : k = p
  · subst same
    obtain rfl := Option.some.inj (found.symm.trans found')
    rw [Function.update_self]
    exact ⟨taken, Heap.get?_put_self found taken,
      (takes.mirrors mirrors).congr fun slot _ => kinds slot⟩
  · rw [Function.update_of_ne same]
    refine ⟨held, ?_, mirrors.congr fun slot _ => kinds slot⟩
    have different : ObjectId.mk p ≠ ⟨k⟩ := fun eq => same (ObjectId.mk.inj eq).symm
    rw [Heap.get?_put_of_ne different, found']

theorem put {p : Nat} {strategy : Strategy} {slot : Slot} {object taken : Object}
    (picture : Picture declared slots above tabs heap) (found : heap.get? ⟨p⟩ = some object)
    (takes : Takes heap tabs.next strategy slot object taken)
    (new : ∀ id ∈ slot.object?, id.index < declared.length ∧
      ∀ other ∈ heap.gather Object.held, other.index < id.index) :
    Picture declared (Function.update slots p (slots p ++ [slot])) above (tabs.after strategy)
      (heap.put ⟨p⟩ taken) where
  size := by
    rw [Heap.size_put]
    exact picture.size
  mirrors := picture.mirrors_put found takes
  bounded := by
    intro k bound other member id same
    by_cases eq : k = p
    · subst eq
      rw [Function.update_self] at member
      rcases List.mem_append.1 member with earlier | last
      · exact picture.bounded k bound other earlier id same
      · rw [List.mem_singleton.1 last] at same
        exact (new id same).1
    · rw [Function.update_of_ne eq] at member
      exact picture.bounded k bound other member id same
  plain := picture.plain.put takes.plain
  rows := by
    intro id other found'
    rw [Heap.get?_put] at found'
    split at found'
    · obtain ⟨_, -, rfl⟩ := Option.map_eq_some_iff.1 found'
      rw [takes.isRow_eq, takes.className_eq]
      exact picture.rows ⟨p⟩ object found
    · exact picture.rows id other found'
  known := by
    intro id member
    have gains := Heap.gather_put found takes.held_perm
    rcases List.mem_append.1 (gains.subset member) with earlier | last
    · exact picture.known id earlier
    · exact (new id (Option.mem_toList.1 last)).1
  once := by
    -- What is taken comes after all that is held, so that it is not held yet.
    have gains := Heap.gather_put found takes.held_perm
    rw [gains.nodup_iff, List.nodup_append]
    refine ⟨picture.once, ?_, ?_⟩
    · cases slot.object? <;> simp
    · intro id member other last same
      have := (new other (Option.mem_toList.1 last)).2 id member
      rw [same] at this
      exact Nat.lt_irrefl _ this
  labels := picture.labels.put found takes fun id same => (new id same).2

theorem mirrors_layFlat {k : Nat} (picture : Picture declared slots above tabs heap)
    (alone : above k = none) (j : Nat) (item : Item) (at_ : declared[j]? = some item) :
    ∃ held, (heap.update ⟨k⟩ Object.laidFlat).get? ⟨j⟩ = some held ∧
      held.Mirrors (heap.update ⟨k⟩ Object.laidFlat) (slots j)
        (Function.update above k (some "QHBoxLayout") j) item := by
  obtain ⟨object, found, mirrors⟩ := picture.mirrors j item at_
  have kinds (slot : Slot) : slot.kind? (heap.update ⟨k⟩ Object.laidFlat) = slot.kind? heap :=
    Slot.kind?_congr fun _ _ => Heap.kindOf_update (Object.view_laidFlat Object.kind fun _ _ => rfl)
  by_cases same : j = k
  · subst same
    rw [Function.update_self]
    rw [alone] at mirrors
    refine ⟨object.laidFlat, ?_, mirrors.laidFlat.congr fun slot _ => kinds slot⟩
    rw [Heap.get?_update, if_pos rfl, found, Option.map_some]
  · rw [Function.update_of_ne same]
    refine ⟨object, ?_, mirrors.congr fun slot _ => kinds slot⟩
    have different : ObjectId.mk k ≠ ⟨j⟩ := fun eq => same (ObjectId.mk.inj eq).symm
    rw [Heap.get?_update_of_ne different, found]

theorem layFlat {k : Nat} (picture : Picture declared slots above tabs heap)
    (alone : above k = none) :
    Picture declared slots (Function.update above k (some "QHBoxLayout")) tabs
      (heap.update ⟨k⟩ Object.laidFlat) where
  size := by
    rw [Heap.size_update]
    exact picture.size
  mirrors := picture.mirrors_layFlat alone
  bounded := picture.bounded
  plain := picture.plain.layFlat ⟨k⟩
  rows := by
    intro id object found
    obtain ⟨before, found', rfl | rfl⟩ := Heap.exists_of_get?_update found
    · exact picture.rows id object found'
    · rw [Object.view_laidFlat Object.isRow fun _ _ => rfl,
        Object.view_laidFlat Object.className fun _ _ => rfl]
      exact picture.rows id before found'
  known := by
    rw [Heap.gather_unseen (Object.view_laidFlat Object.held fun _ _ => rfl)]
    exact picture.known
  once := by
    rw [Heap.gather_unseen (Object.view_laidFlat Object.held fun _ _ => rfl)]
    exact picture.once
  labels := by
    unfold Labelled
    rw [Heap.gather_unseen (Object.view_laidFlat Object.tabPages fun _ _ => rfl)]
    exact picture.labels

theorem stand {k : Nat} {className : String} (picture : Picture declared slots above tabs heap)
    (alone : above k = none) (notRow : className ≠ "QHBoxLayout") :
    Picture declared slots (Function.update above k (some className)) tabs heap := by
  refine { picture with mirrors := ?_ }
  intro j item at_
  obtain ⟨object, found, mirrors⟩ := picture.mirrors j item at_
  refine ⟨object, found, ?_⟩
  by_cases same : j = k
  · subst same
    rw [Function.update_self]
    rw [alone] at mirrors
    exact mirrors.above fun eq => notRow (Option.some.inj eq)
  · rw [Function.update_of_ne same]
    exact mirrors

theorem nested {p child : Nat} {strategy : Strategy} {object taken : Object}
    (picture : Picture declared slots above tabs heap) (found : heap.get? ⟨p⟩ = some object)
    (takes : Takes heap tabs.next strategy (.object ⟨child⟩) object taken)
    (bound : child < declared.length)
    (newest : ∀ other ∈ heap.gather Object.held, other.index < child)
    (alone : above child = none) :
    Picture declared (Function.update slots p (slots p ++ [.object ⟨child⟩]))
      (Function.update above child (some object.className)) (tabs.after strategy)
      (heap.nested ⟨p⟩ object.isRow taken (.object ⟨child⟩)) := by
  have new : ∀ id ∈ (Slot.object ⟨child⟩).object?, id.index < declared.length ∧
      ∀ other ∈ heap.gather Object.held, other.index < id.index := by
    intro id same
    obtain rfl := Option.some.inj same
    exact ⟨bound, newest⟩
  have took := picture.put found takes new
  have row := picture.rows ⟨p⟩ object found
  unfold Heap.nested
  dsimp only
  split
  · -- A parent is a row exactly if its class says so.
    rename_i isRow
    rw [row.1 isRow]
    exact took.layFlat alone
  · rename_i notRow
    exact took.stand alone (mt row.2 notRow)

theorem congr {slots' : Nat → List Slot} {above' : Nat → Option String}
    (picture : Picture declared slots above tabs heap)
    (sameSlots : ∀ k < declared.length, slots' k = slots k)
    (sameAbove : ∀ k < declared.length, above' k = above k) :
    Picture declared slots' above' tabs heap := by
  refine { picture with mirrors := ?_, bounded := ?_ }
  · intro k item at_
    have bound := (List.getElem?_eq_some_iff.1 at_).1
    rw [sameSlots k bound, sameAbove k bound]
    exact picture.mirrors k item at_
  · intro k bound
    rw [sameSlots k bound]
    exact picture.bounded k bound

end Picture

end WidgetOutline
