import WidgetOutline.Supply.Basic
import WidgetOutline.Toolkit.Builtin
import WidgetOutline.Proofs.Nesting.Mirror
import WidgetOutline.Proofs.Nesting.Skeleton

namespace WidgetOutline

structure Object.Fresh (object : Object) (className : String) (text : Option String) : Prop where
  plain : object.Plain
  kind : object.kind ≠ .other
  row : object.isRow = true ↔ className = "QHBoxLayout"
  className : object.className = className
  text : object.text? = text
  children : object.children = []
  layout : object.layout? = none
  tabPages : object.tabPages = []
  upright : object.orientation? ≠ some .horizontal
  fixed : object.resizable? ≠ some true

instance (object : Object) : Decidable object.Plain :=
  match object with
  | .layout _ => isTrue trivial
  | .widget _ _ => isTrue trivial
  | .inert _ => isTrue trivial
  | .scripted _ _ => isFalse id

theorem initial_bare : ∀ entry ∈ builtinClasses, ∀ object ∈ entry.initial.toOption,
    object.Plain ∧ object.layout? = none ∧ object.children = [] := by
  decide +kernel

theorem initial_fresh : ∀ entry ∈ builtinClasses, ∀ object ∈ entry.initial.toOption,
    object.kind ≠ .other → object.className = entry.name ∧ object.text? = none ∧
      (object.isRow = true ↔ entry.name = "QHBoxLayout") ∧ object.tabPages = [] ∧
      object.orientation? ≠ some .horizontal ∧ object.resizable? ≠ some true := by
  decide +kernel

theorem entry_of_initialOf {table : List ClassEntry} {className : String} {object : Object}
    (found : initialOf table className = .ok object) :
    ∃ entry ∈ table, entry.name = className ∧ object ∈ entry.initial.toOption := by
  unfold initialOf at found
  split at found
  · rename_i entry member
    have name : entry.name = className := by simpa using List.find?_some member
    refine ⟨entry, List.mem_of_find?_eq_some member, name, ?_⟩
    rw [found]
    rfl
  · cases found

theorem fresh_of_initialOf {className : String} {object : Object}
    (found : initialOf builtinClasses className = .ok object) (kind : object.kind ≠ .other) :
    object.Fresh className none := by
  obtain ⟨entry, member, name, initial⟩ := entry_of_initialOf found
  obtain ⟨plain, layout, children⟩ := initial_bare entry member object initial
  obtain ⟨same, text, row, tabPages, upright, fixed⟩ :=
    initial_fresh entry member object initial kind
  rw [name] at same row
  exact { plain, kind, row, className := same, text, children, layout, tabPages, upright, fixed }

variable {heap after : Heap} {id : ObjectId}

theorem instantiate_builtin_iff {className : String} :
    instantiate .builtin className heap = (.ok id, after) ↔
      ∃ initial, initialOf builtinClasses className = .ok initial ∧ initial.kind ≠ .other ∧
        id = (heap.add initial).1 ∧ after = (heap.add initial).2 := by
  unfold instantiate Toolkit.builtin Toolkit.ofTable
  dsimp only
  cases initialOf builtinClasses className with
  | error error => cases error <;> simp
  | ok initial =>
    have kind := Heap.kindOf_eq (heap.get?_add_self initial)
    by_cases other : initial.kind = .other
    · simp [kind, other]
    · simp [kind, other, eq_comm (a := id), eq_comm (a := after)]

theorem instantiate_builtin_ok {className : String}
    (ok : instantiate .builtin className heap = (.ok id, after)) :
    ∃ object, object.Fresh className none ∧ id = (heap.add object).1 ∧
      after = (heap.add object).2 := by
  obtain ⟨initial, found, kind, rfl, rfl⟩ := instantiate_builtin_iff.1 ok
  exact ⟨initial, fresh_of_initialOf found kind, rfl, rfl⟩

theorem fresh_of_setText {className text : String} {object answered : Object} {call : Call}
    (setter : call = .setText text ∨ call = .setTitle text) (fresh : object.Fresh className none)
    (answer : heap.answer object call = .ok answered) : answered.Fresh className (some text) := by
  cases object with
  | layout arrangement =>
    obtain ⟨after, rearranged, -⟩ := mapped_ok_iff.1 answer
    rcases setter with rfl | rfl <;> cases arrangement <;> cases rearranged
  | widget adopted body =>
    rcases setter with rfl | rfl
    · obtain ⟨after, refilled, rfl⟩ := mapped_ok_iff.1 answer
      cases body with
      | caption shown before =>
        cases refilled
        exact { fresh with text := rfl }
      | _ => cases refilled
    · obtain ⟨after, refilled, rfl⟩ := mapped_ok_iff.1 answer
      cases body with
      | group before =>
        cases refilled
        exact { fresh with text := rfl }
      | _ => cases refilled
  | inert _ => cases answer
  | scripted _ _ => cases fresh.plain

theorem applyText_fresh {className text : String} {object : Object} {setter : TextSetter}
    (fresh : object.Fresh className none)
    (ok : (heap.add object).2.applyText (heap.add object).1 text = (.ok setter, after)) :
    ∃ shown, shown.Fresh className (some text) ∧ after = (heap.add shown).2 := by
  have found := heap.get?_add_self object
  unfold Heap.applyText at ok
  split at ok
  · rename_i setText
    cases ok
    obtain ⟨same, shown, found', answer, rfl⟩ := Heap.perform_ok setText
    obtain rfl := Option.some.inj (found.symm.trans found')
    exact ⟨shown, fresh_of_setText (.inl rfl) fresh answer, Heap.put_add ..⟩
  · rename_i refused
    obtain rfl := Heap.perform_error
      (fun other eq => Option.some.inj (found.symm.trans eq) ▸ fresh.plain) refused
    split at ok
    · rename_i setTitle
      cases ok
      obtain ⟨same, shown, found', answer, rfl⟩ := Heap.perform_ok setTitle
      obtain rfl := Option.some.inj (found.symm.trans found')
      exact ⟨shown, fresh_of_setText (.inr rfl) fresh answer, Heap.put_add ..⟩
    · cases ok

theorem objectFor_builtin_ok {name : String} {typeWord : TypeWord}
    (made : objectFor .builtin .unsupported name typeWord heap = (.ok id, after)) :
    instantiate .builtin typeWord.className heap = (.ok id, after) := by
  cases typeWord with
  | keyword shorthand => exact made
  | toolkitClass className => exact made
  | findExisting className => cases made

theorem supply_builtin_ok {name : String} {typeWord : TypeWord} {text : Option String}
    (ok : supply .builtin .unsupported name typeWord text heap = (.ok id, after)) :
    ∃ object, object.Fresh typeWord.className text ∧ id = (heap.add object).1 ∧
      after = (heap.add object).2 := by
  unfold supply at ok
  split at ok
  · cases ok
  · rename_i made
    cases ok
    exact instantiate_builtin_ok (objectFor_builtin_ok made)
  · rename_i made
    obtain ⟨object, fresh, rfl, rfl⟩ := instantiate_builtin_ok (objectFor_builtin_ok made)
    split at ok
    · rename_i applied
      cases ok
      obtain ⟨shown, fresh', rfl⟩ := applyText_fresh fresh applied
      exact ⟨shown, fresh', rfl, rfl⟩
    · cases ok

theorem supply_builtin_alike {name : String} {typeWord : TypeWord} {text : Option String}
    (ok : supply .builtin .unsupported name typeWord text heap = (.ok id, after)) :
    ∃ initial, initialOf builtinClasses typeWord.className = .ok initial ∧ initial.kind ≠ .other ∧
      id = (heap.add initial).1 ∧ after.Alike (heap.add initial).2 := by
  unfold supply at ok
  split at ok
  · cases ok
  · rename_i made
    cases ok
    obtain ⟨initial, found, kind, rfl, rfl⟩ := instantiate_builtin_iff.1 (objectFor_builtin_ok made)
    exact ⟨initial, found, kind, rfl, rfl⟩
  · rename_i shown made
    obtain ⟨initial, found, kind, rfl, rfl⟩ := instantiate_builtin_iff.1 (objectFor_builtin_ok made)
    have quiet := (heap.add initial).2.applyText_quiet (heap.add initial).1 shown
    split at ok
    · rename_i applied
      cases ok
      rw [applied] at quiet
      exact ⟨initial, found, kind, rfl, quiet⟩
    · cases ok

theorem supply_toolkitClass {className : String} {initial : Object}
    (found : initialOf builtinClasses className = .ok initial) (kind : initial.kind ≠ .other)
    (name : String) (heap : Heap) :
    supply .builtin .unsupported name (.toolkitClass className) none heap =
      (.ok (heap.add initial).1, (heap.add initial).2) := by
  unfold supply objectFor
  dsimp only
  rw [instantiate_builtin_iff.2 ⟨initial, found, kind, rfl, rfl⟩]

end WidgetOutline
