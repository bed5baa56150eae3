import WidgetOutline.Widget.Heap
import Mathlib.Data.List.Perm.Basic

namespace WidgetOutline

def Object.Plain : Object → Prop
  | .scripted _ _ => False
  | _ => True

def Object.laidFlat : Object → Object
  | .widget adopted (.slider _) => .widget adopted (.slider .horizontal)
  | object => object

theorem Object.laidFlat_layout {object : Object} (plain : object.Plain)
    (layout : object.kind = .layout) : object.laidFlat = object := by
  cases object with
  | layout _ => rfl
  | widget _ _ => cases layout
  | inert _ => rfl
  | scripted _ _ => cases plain

namespace Heap

def Plain (heap : Heap) : Prop := ∀ id object, heap.get? id = some object → object.Plain

def update (heap : Heap) (id : ObjectId) (change : Object → Object) : Heap :=
  ⟨heap.objects.modify id.index change⟩

def gather {α : Type} (heap : Heap) (view : Object → List α) : List α :=
  heap.objects.toList.flatMap view

theorem ext_get? {heap other : Heap} (same : ∀ id, heap.get? id = other.get? id) :
    heap = other := by
  obtain ⟨objects⟩ := heap
  obtain ⟨objects'⟩ := other
  have : objects = objects' := Array.ext_getElem? fun i => same ⟨i⟩
  rw [this]

theorem get?_update (heap : Heap) (id other : ObjectId) (change : Object → Object) :
    (heap.update id change).get? other =
      if id = other then (heap.get? other).map change else heap.get? other := by
  obtain ⟨i⟩ := id
  obtain ⟨j⟩ := other
  simp [get?, update, Array.getElem?_modify]

theorem get?_put_of_ne {id other : ObjectId} (different : id ≠ other) (heap : Heap)
    (object : Object) : (heap.put id object).get? other = heap.get? other := by
  rw [get?_put, if_neg different]

theorem get?_update_of_ne {id other : ObjectId} (different : id ≠ other) (heap : Heap)
    (change : Object → Object) : (heap.update id change).get? other = heap.get? other := by
  rw [get?_update, if_neg different]

theorem exists_of_get?_update {heap : Heap} {id other : ObjectId} {change : Object → Object}
    {object : Object} (found : (heap.update id change).get? other = some object) :
    ∃ before, heap.get? other = some before ∧ (object = before ∨ object = change before) := by
  rw [get?_update] at found
  split at found
  · obtain ⟨before, found', rfl⟩ := Option.map_eq_some_iff.1 found
    exact ⟨before, found', .inr rfl⟩
  · exact ⟨object, found, .inl rfl⟩

theorem put_same {heap : Heap} {id : ObjectId} {object : Object}
    (found : heap.get? id = some object) : heap.put id object = heap := by
  apply ext_get?
  intro other
  rw [get?_put]
  split
  · rename_i same
    rw [← same, found]
    rfl
  · rfl

theorem put_put (heap : Heap) (id : ObjectId) (object again : Object) :
    (heap.put id object).put id again = heap.put id again := by
  apply ext_get?
  intro other
  simp only [get?_put]
  split <;> simp [Function.comp_def]

theorem put_eq_update (heap : Heap) (id : ObjectId) (object : Object) :
    heap.put id object = heap.update id fun _ => object := by
  apply ext_get?
  intro other
  rw [get?_put, get?_update]
  split
  · subst_vars
    rfl
  · rfl

theorem update_fixed {heap : Heap} {id : ObjectId} {change : Object → Object}
    (fixed : ∀ object ∈ heap.get? id, change object = object) : heap.update id change = heap := by
  apply ext_get?
  intro other
  rw [get?_update]
  split
  · rename_i same
    subst same
    cases found : heap.get? id with
    | none => rfl
    | some object => simp [fixed object found]
  · rfl

theorem put_add (heap : Heap) (object again : Object) :
    (heap.add object).2.put (heap.add object).1 again = (heap.add again).2 := by
  apply ext_get?
  intro other
  simp only [get?_put, get?_add]
  split <;> simp_all [add, eq_comm]

theorem size_put (heap : Heap) (id : ObjectId) (object : Object) :
    (heap.put id object).objects.size = heap.objects.size := Array.size_setIfInBounds ..

theorem size_update (heap : Heap) (id : ObjectId) (change : Object → Object) :
    (heap.update id change).objects.size = heap.objects.size := Array.size_modify ..

theorem kindOf_eq {heap : Heap} {id : ObjectId} {object : Object}
    (found : heap.get? id = some object) : heap.kindOf id = object.kind := by
  simp [kindOf, found]

theorem get?_add_self (heap : Heap) (object : Object) :
    (heap.add object).2.get? (heap.add object).1 = some object := by
  rw [get?_add, if_pos rfl]

theorem get?_put_self {heap : Heap} {id : ObjectId} {object : Object}
    (found : heap.get? id = some object) (again : Object) :
    (heap.put id again).get? id = some again := by
  simp [get?_put, found]

theorem kindOf_add {heap : Heap} {other : ObjectId} {object : Object}
    (known : other.index < heap.objects.size) :
    (heap.add object).2.kindOf other = heap.kindOf other := by
  have different : other ≠ (heap.add object).1 := by
    rintro rfl
    exact Nat.lt_irrefl _ known
  simp [kindOf, get?_add, different]

theorem known_of_kindOf {heap : Heap} {id : ObjectId} (kind : heap.kindOf id ≠ .other) :
    id.index < heap.objects.size := by
  by_contra unknown
  have missing : heap.get? id = none := Array.getElem?_eq_none (Nat.le_of_not_lt unknown)
  exact kind (by simp [kindOf, missing])

theorem map_get?_put {α : Type} {view : Object → α} {heap : Heap} {id other : ObjectId}
    {object taken : Object} (found : heap.get? id = some object)
    (same : view taken = view object) :
    ((heap.put id taken).get? other).map view = (heap.get? other).map view := by
  rw [get?_put]
  split
  · rename_i eq
    simp [← eq, found, same]
  · rfl

theorem kindOf_put {heap : Heap} {id other : ObjectId} {object taken : Object}
    (found : heap.get? id = some object) (same : taken.kind = object.kind) :
    (heap.put id taken).kindOf other = heap.kindOf other :=
  congrArg (·.getD .other) (map_get?_put found same)

theorem kindOf_update {heap : Heap} {id other : ObjectId} {change : Object → Object}
    (same : ∀ object, (change object).kind = object.kind) :
    (heap.update id change).kindOf other = heap.kindOf other := by
  unfold kindOf
  rw [get?_update]
  split
  · cases heap.get? other <;> simp [same]
  · rfl

def KeepsKinds (heap after : Heap) : Prop :=
  ∀ id, heap.kindOf id ≠ .other → after.kindOf id = heap.kindOf id

theorem KeepsKinds.trans {heap middle after : Heap} (first : heap.KeepsKinds middle)
    (second : middle.KeepsKinds after) : heap.KeepsKinds after := by
  intro id known
  have same := first id known
  rw [second id (same ▸ known), same]

theorem keepsKinds_of_eq {heap after : Heap} (same : ∀ id, after.kindOf id = heap.kindOf id) :
    heap.KeepsKinds after := fun id _ => same id

theorem keepsKinds_add (heap : Heap) (object : Object) : heap.KeepsKinds (heap.add object).2 :=
  fun _ known => kindOf_add (known_of_kindOf known)

theorem gather_add {α : Type} {view : Object → List α} {object : Object}
    (nothing : view object = []) (heap : Heap) :
    (heap.add object).2.gather view = heap.gather view := by
  simp [gather, add, nothing]

theorem flatMap_modify_perm {α : Type} {view : Object → List α} {objects : List Object} {i : Nat}
    {object : Object} {change : Object → Object} {gain : List α}
    (found : objects[i]? = some object)
    (gains : (view (change object)).Perm (view object ++ gain)) :
    ((objects.modify i change).flatMap view).Perm (objects.flatMap view ++ gain) := by
  induction objects generalizing i with
  | nil => cases found
  | cons first later ih =>
    cases i with
    | zero =>
      obtain rfl : first = object := Option.some.inj found
      rw [List.modify_zero_cons, List.flatMap_cons, List.flatMap_cons]
      have swap : (gain ++ later.flatMap view).Perm (later.flatMap view ++ gain) :=
        List.perm_append_comm
      have front := gains.append_right (later.flatMap view)
      rw [List.append_assoc] at front ⊢
      exact front.trans (swap.append_left _)
    | succ i =>
      rw [List.modify_succ_cons, List.flatMap_cons, List.flatMap_cons, List.append_assoc]
      exact (ih found).append_left _

theorem gather_update {α : Type} {view : Object → List α} {heap : Heap} {id : ObjectId}
    {object : Object} {change : Object → Object} {gain : List α}
    (found : heap.get? id = some object)
    (gains : (view (change object)).Perm (view object ++ gain)) :
    ((heap.update id change).gather view).Perm (heap.gather view ++ gain) := by
  have found' : heap.objects.toList[id.index]? = some object := by simpa [get?] using found
  simp only [gather, update, Array.toList_modify]
  exact flatMap_modify_perm found' gains

theorem gather_put {α : Type} {view : Object → List α} {heap : Heap} {id : ObjectId}
    {object taken : Object} {gain : List α} (found : heap.get? id = some object)
    (gains : (view taken).Perm (view object ++ gain)) :
    ((heap.put id taken).gather view).Perm (heap.gather view ++ gain) := by
  rw [put_eq_update]
  exact gather_update found gains

theorem gather_unseen {α : Type} {view : Object → List α} {change : Object → Object}
    (unseen : ∀ object, view (change object) = view object) (heap : Heap) (id : ObjectId) :
    (heap.update id change).gather view = heap.gather view := by
  simp only [gather, update, Array.toList_modify]
  generalize heap.objects.toList = objects
  generalize id.index = i
  induction objects generalizing i with
  | nil => simp
  | cons first later ih =>
    cases i with
    | zero => simp [unseen]
    | succ i => simp [ih]

theorem deliver_eq {heap : Heap} {target : ObjectId} {object : Object}
    (found : heap.get? target = some object) (plain : object.Plain) (call : Call) :
    heap.deliver target call = match heap.answer object call with
      | .ok answered => (.ok (), heap.put target answered)
      | .error refusal => (.error refusal, heap) := by
  simp only [deliver, found]
  cases heap.answer object call with
  | ok answered => rfl
  | error refusal =>
    have same : afterRefusal object call = object := by
      cases object with
      | scripted _ _ => cases plain
      | _ => rfl
    simp only [same, put_same found]

theorem turn_eq {heap : Heap} (plain : heap.Plain) (id : ObjectId) :
    (heap.deliver id (.setOrientation .horizontal)).2 = heap.update id Object.laidFlat := by
  cases found : heap.get? id with
  | none =>
    rw [update_fixed (by simp [found])]
    simp [deliver, found]
  | some object =>
    have same : heap.update id Object.laidFlat = heap.put id object.laidFlat := by
      apply ext_get?
      intro other
      rw [get?_update, get?_put]
      split
      · rename_i same
        rw [← same, found]
        rfl
      · rfl
    rw [deliver_eq found (plain id object found), same]
    cases object with
    | layout arrangement =>
      cases arrangement <;> exact (put_same found).symm
    | widget adopted body =>
      cases body <;> first | rfl | exact (put_same found).symm
    | inert _ => exact (put_same found).symm
    | scripted _ _ => cases plain id _ found

theorem perform_ok {heap after : Heap} {target : ObjectId} {call : Call}
    (ok : heap.perform target call = (.ok (), after)) :
    ∃ object answered, heap.get? target = some object ∧ heap.answer object call = .ok answered ∧
      after = (heap.put target answered).turnTaken target call := by
  unfold perform deliver at ok
  cases found : heap.get? target with
  | none => simp [found] at ok
  | some object =>
    cases answer : heap.answer object call with
    | ok answered =>
      simp only [found, answer, Prod.mk.injEq, true_and] at ok
      exact ⟨object, answered, rfl, answer, ok.symm⟩
    | error refusal => simp [found, answer] at ok

theorem perform_error {heap after : Heap} {target : ObjectId} {call : Call} {refusal : Refusal}
    (plain : ∀ object, heap.get? target = some object → object.Plain)
    (refused : heap.perform target call = (.error refusal, after)) : after = heap := by
  unfold perform at refused
  cases found : heap.get? target with
  | none =>
    simp only [deliver, found, Prod.mk.injEq] at refused
    exact refused.2.symm
  | some object =>
    rw [deliver_eq found (plain object found)] at refused
    cases answer : heap.answer object call with
    | ok answered => simp [answer] at refused
    | error refusal =>
      simp only [answer, Prod.mk.injEq] at refused
      exact refused.2.symm

end Heap

end WidgetOutline
