import WidgetOutline.Nesting.Attach
import WidgetOutline.Proofs.Widget.Heap

namespace WidgetOutline

def Child.slot : Child → Slot
  | .object id => .object id
  | .stretch => .stretch

inductive Takes (heap : Heap) (label : String) : Strategy → Slot → Object → Object → Prop
  | boxLayout {direction : Direction} {slots : List Slot} {child : ObjectId}
      (layout : heap.kindOf child = .layout) :
      Takes heap label .addLayout (.object child) (.layout (.box direction slots))
        (.layout (.box direction (slots ++ [.object child])))
  | boxWidget {direction : Direction} {slots : List Slot} {child : ObjectId}
      (widget : heap.kindOf child = .widget) :
      Takes heap label .addWidget (.object child) (.layout (.box direction slots))
        (.layout (.box direction (slots ++ [.object child])))
  | boxStretch {direction : Direction} {slots : List Slot} :
      Takes heap label .addStretch .stretch (.layout (.box direction slots))
        (.layout (.box direction (slots ++ [.stretch])))
  | stackedLayout {pages : List ObjectId} {child : ObjectId}
      (widget : heap.kindOf child = .widget) :
      Takes heap label .addWidget (.object child) (.layout (.stack pages))
        (.layout (.stack (pages ++ [child])))
  | adopted {body : Body} {child : ObjectId} (layout : heap.kindOf child = .layout) :
      Takes heap label .setLayout (.object child) (.widget none body) (.widget (some child) body)
  | splitter {adopted : Option ObjectId} {panes : List ObjectId} {child : ObjectId}
      (widget : heap.kindOf child = .widget) :
      Takes heap label .addWidget (.object child) (.widget adopted (.splitter panes))
        (.widget adopted (.splitter (panes ++ [child])))
  | stackedWidget {adopted : Option ObjectId} {pages : List ObjectId} {child : ObjectId}
      (widget : heap.kindOf child = .widget) :
      Takes heap label .addWidget (.object child) (.widget adopted (.stack pages))
        (.widget adopted (.stack (pages ++ [child])))
  | tab {adopted : Option ObjectId} {pages : List (String × ObjectId)} {child : ObjectId}
      (widget : heap.kindOf child = .widget) :
      Takes heap label .addTab (.object child) (.widget adopted (.tabs pages))
        (.widget adopted (.tabs (pages ++ [(label, child)])))
  | content {adopted : Option ObjectId} {resizable : Bool} {child : ObjectId}
      (widget : heap.kindOf child = .widget) :
      Takes heap label .setWidget (.object child) (.widget adopted (.scroll none resizable))
        (.widget adopted (.scroll (some child) true))

theorem mapped_ok_iff {ε α β : Type} {outcome : Except ε α} {f : α → β} {b : β} :
    outcome.map f = .ok b ↔ ∃ a, outcome = .ok a ∧ f a = b := by
  cases outcome <;> simp [Except.map]

theorem Heap.guarded_ok_iff {α : Type} {heap : Heap} {child : ObjectId} {expected : Kind}
    {method : Method} {a b : α} :
    (do heap.expectKind child expected method; return a : Except Refusal α) = .ok b ↔
      heap.kindOf child = expected ∧ a = b := by
  unfold expectKind
  split <;> simp_all [bind, Except.bind, pure, Except.pure]

variable {heap : Heap} {label : String} {object answered : Object} {child : ObjectId}

theorem takes_of_addLayout (plain : object.Plain)
    (ok : heap.answer object (.addLayout child) = .ok answered) :
    Takes heap label .addLayout (.object child) object answered := by
  cases object with
  | layout arrangement =>
    obtain ⟨after, rearranged, rfl⟩ := mapped_ok_iff.1 ok
    cases arrangement with
    | box direction slots =>
      obtain ⟨layout, rfl⟩ := Heap.guarded_ok_iff.1 rearranged
      exact .boxLayout layout
    | stack pages => cases rearranged
  | widget adopted body =>
    obtain ⟨after, refilled, -⟩ := mapped_ok_iff.1 ok
    cases body <;> cases refilled
  | inert _ => cases ok
  | scripted _ _ => cases plain

theorem takes_of_setLayout (plain : object.Plain)
    (ok : heap.answer object (.setLayout child) = .ok answered) :
    Takes heap label .setLayout (.object child) object answered := by
  cases object with
  | layout arrangement =>
    obtain ⟨after, rearranged, -⟩ := mapped_ok_iff.1 ok
    cases arrangement <;> cases rearranged
  | widget adopted body =>
    obtain ⟨after, adopts, rfl⟩ := mapped_ok_iff.1 ok
    cases adopted with
    | none =>
      obtain ⟨layout, rfl⟩ := Heap.guarded_ok_iff.1 adopts
      exact .adopted layout
    | some existing =>
      unfold Heap.adopt Heap.expectKind at adopts
      split at adopts <;> cases adopts
  | inert _ => cases ok
  | scripted _ _ => cases plain

theorem takes_of_addWidget (plain : object.Plain)
    (ok : heap.answer object (.addWidget child) = .ok answered) :
    Takes heap label .addWidget (.object child) object answered := by
  cases object with
  | layout arrangement =>
    obtain ⟨after, rearranged, rfl⟩ := mapped_ok_iff.1 ok
    cases arrangement with
    | box direction slots =>
      obtain ⟨widget, rfl⟩ := Heap.guarded_ok_iff.1 rearranged
      exact .boxWidget widget
    | stack pages =>
      obtain ⟨widget, rfl⟩ := Heap.guarded_ok_iff.1 rearranged
      exact .stackedLayout widget
  | widget adopted body =>
    obtain ⟨after, refilled, rfl⟩ := mapped_ok_iff.1 ok
    cases body with
    | splitter panes =>
      obtain ⟨widget, rfl⟩ := Heap.guarded_ok_iff.1 refilled
      exact .splitter widget
    | stack pages =>
      obtain ⟨widget, rfl⟩ := Heap.guarded_ok_iff.1 refilled
      exact .stackedWidget widget
    | _ => cases refilled
  | inert _ => cases ok
  | scripted _ _ => cases plain

theorem takes_of_addTab (plain : object.Plain)
    (ok : heap.answer object (.addTab child label) = .ok answered) :
    Takes heap label .addTab (.object child) object answered := by
  cases object with
  | layout arrangement =>
    obtain ⟨after, rearranged, -⟩ := mapped_ok_iff.1 ok
    cases arrangement <;> cases rearranged
  | widget adopted body =>
    obtain ⟨after, refilled, rfl⟩ := mapped_ok_iff.1 ok
    cases body with
    | tabs pages =>
      obtain ⟨widget, rfl⟩ := Heap.guarded_ok_iff.1 refilled
      exact .tab widget
    | _ => cases refilled
  | inert _ => cases ok
  | scripted _ _ => cases plain

theorem takes_of_addStretch (plain : object.Plain)
    (ok : heap.answer object .addStretch = .ok answered) :
    Takes heap label .addStretch .stretch object answered := by
  cases object with
  | layout arrangement =>
    obtain ⟨after, rearranged, rfl⟩ := mapped_ok_iff.1 ok
    cases arrangement with
    | box direction slots =>
      cases rearranged
      exact .boxStretch
    | stack pages => cases rearranged
  | widget adopted body =>
    obtain ⟨after, refilled, -⟩ := mapped_ok_iff.1 ok
    cases body <;> cases refilled
  | inert _ => cases ok
  | scripted _ _ => cases plain

theorem setWidget_ok (plain : object.Plain)
    (ok : heap.answer object (.setWidget child) = .ok answered) :
    heap.kindOf child = .widget ∧ ∃ adopted resizable,
      object = .widget adopted (.scroll none resizable) ∧
        answered = .widget adopted (.scroll (some child) resizable) := by
  cases object with
  | layout arrangement =>
    obtain ⟨after, rearranged, -⟩ := mapped_ok_iff.1 ok
    cases arrangement <;> cases rearranged
  | widget adopted body =>
    obtain ⟨after, refilled, rfl⟩ := mapped_ok_iff.1 ok
    cases body with
    | scroll content resizable =>
      cases content with
      | none =>
        obtain ⟨widget, rfl⟩ := Heap.guarded_ok_iff.1 refilled
        exact ⟨widget, adopted, resizable, rfl, rfl⟩
      | some existing =>
        unfold Heap.refill Heap.expectKind at refilled
        dsimp only at refilled
        split at refilled <;> cases refilled
    | _ => cases refilled
  | inert _ => cases ok
  | scripted _ _ => cases plain

/-- The heap in which a parent has become another object, and what a row took lies flat. -/
def Heap.nested (heap : Heap) (parent : ObjectId) (flat : Bool) (taken : Object) : Slot → Heap
  | .object child =>
    if flat then (heap.put parent taken).update child Object.laidFlat else heap.put parent taken
  | .stretch => heap.put parent taken

theorem Takes.plain {strategy : Strategy} {slot : Slot} {taken : Object}
    (takes : Takes heap label strategy slot object taken) : taken.Plain := by
  cases takes <;> trivial

theorem Heap.Plain.put {id : ObjectId} (plain : heap.Plain) (plain' : object.Plain) :
    (heap.put id object).Plain := by
  intro other found eq
  rw [get?_put] at eq
  split at eq
  · obtain ⟨_, -, rfl⟩ := Option.map_eq_some_iff.1 eq
    exact plain'
  · exact plain other found eq

theorem Heap.Plain.add (plain : heap.Plain) (plain' : object.Plain) :
    (heap.add object).2.Plain := by
  intro id found eq
  rw [get?_add] at eq
  split at eq
  · cases eq
    exact plain'
  · exact plain id found eq

theorem Object.isRow_box (direction : Direction) (slots : List Slot) :
    (Object.layout (.box direction slots)).isRow = decide (direction = .leftToRight) := by
  cases direction <;> rfl

theorem Arrangement.className_box (direction : Direction) (slots slots' : List Slot) :
    (box direction slots).className = (box direction slots').className := by
  cases direction <;> rfl

theorem Takes.isRow_eq {strategy : Strategy} {slot : Slot} {taken : Object}
    (takes : Takes heap label strategy slot object taken) : taken.isRow = object.isRow := by
  cases takes with
  | boxLayout _ => rw [Object.isRow_box, Object.isRow_box]
  | boxWidget _ => rw [Object.isRow_box, Object.isRow_box]
  | boxStretch => rw [Object.isRow_box, Object.isRow_box]
  | _ => rfl

theorem nested_addLayout {parent : ObjectId} {taken : Object} (plain : heap.Plain)
    (takes : Takes heap label .addLayout (.object child) object taken) :
    heap.nested parent object.isRow taken (.object child) = heap.put parent taken := by
  cases takes with
  | @boxLayout direction slots _ layout =>
    unfold Heap.nested
    dsimp only
    split
    · apply Heap.update_fixed
      intro held found
      rw [Heap.get?_put] at found
      split at found
      · obtain ⟨_, -, rfl⟩ := Option.map_eq_some_iff.1 found
        rfl
      · rw [Heap.kindOf_eq found] at layout
        exact Object.laidFlat_layout (plain child held found) layout
    · rfl

theorem nested_addWidget {parent : ObjectId} {taken : Object} (plain : heap.Plain)
    (found : heap.get? parent = some object)
    (takes : Takes heap label .addWidget (.object child) object taken) :
    (heap.put parent taken).turnTaken parent (.addWidget child) =
      heap.nested parent object.isRow taken (.object child) := by
  unfold Heap.turnTaken Heap.nested
  dsimp only
  rw [Heap.get?_put_self found, Option.any_some, takes.isRow_eq]
  split
  · exact Heap.turn_eq (plain.put takes.plain) child
  · rfl

theorem setResizableContent_ok {parent : ObjectId} {after : Heap} (plain : heap.Plain)
    (ok : setResizableContent heap parent child = (.ok (), after)) :
    ∃ object taken, heap.get? parent = some object ∧
      Takes heap label .setWidget (.object child) object taken ∧
        after = heap.nested parent object.isRow taken (.object child) := by
  unfold setResizableContent at ok
  split at ok
  · cases ok
  · split at ok
    · cases ok
    · rename_i filled setWidget
      split at ok
      · rename_i done setResizable
        cases ok
        obtain ⟨object, content, found, answer, rfl⟩ := Heap.perform_ok setWidget
        obtain ⟨widget, adopted, resizable, rfl, rfl⟩ :=
          setWidget_ok (plain parent object found) answer
        obtain ⟨again, taken, found', answer', rfl⟩ := Heap.perform_ok setResizable
        have same := Heap.get?_put_self found (.widget adopted (.scroll (some child) resizable))
        obtain rfl := Option.some.inj (same.symm.trans found')
        cases answer'
        exact ⟨_, _, found, .content widget, Heap.put_put ..⟩
      · cases ok

theorem perform_takes {strategy : Strategy} {parent : ObjectId} {call : Call} {slot : Slot}
    {after : Heap} (plain : heap.Plain)
    (answers : ∀ {object taken : Object}, object.Plain → heap.answer object call = .ok taken →
      Takes heap label strategy slot object taken)
    (ok : heap.perform parent call = (.ok (), after)) :
    ∃ object taken, heap.get? parent = some object ∧
      Takes heap label strategy slot object taken ∧
        after = (heap.put parent taken).turnTaken parent call := by
  obtain ⟨object, taken, found, answer, rfl⟩ := Heap.perform_ok ok
  exact ⟨object, taken, found, answers (plain parent object found) answer, rfl⟩

theorem Strategy.perform_ok {strategy : Strategy} {parent : ObjectId} {after : Heap} {child : Child}
    (plain : heap.Plain) (ok : strategy.perform parent label heap child = (.ok (), after)) :
    ∃ object taken, heap.get? parent = some object ∧
      Takes heap label strategy child.slot object taken ∧
        after = heap.nested parent object.isRow taken child.slot := by
  cases child with
  | stretch =>
    cases strategy with
    | addStretch =>
      obtain ⟨object, taken, found, takes, rfl⟩ := perform_takes plain takes_of_addStretch ok
      exact ⟨object, taken, found, takes, rfl⟩
    | _ => cases ok
  | object child =>
    cases strategy with
    | addLayout =>
      obtain ⟨object, taken, found, takes, rfl⟩ := perform_takes plain takes_of_addLayout ok
      exact ⟨object, taken, found, takes, (nested_addLayout plain takes).symm⟩
    | setLayout =>
      obtain ⟨object, taken, found, takes, rfl⟩ := perform_takes plain takes_of_setLayout ok
      refine ⟨object, taken, found, takes, ?_⟩
      cases takes
      rfl
    | addWidget =>
      obtain ⟨object, taken, found, takes, rfl⟩ := perform_takes plain takes_of_addWidget ok
      exact ⟨object, taken, found, takes, nested_addWidget plain found takes⟩
    | addTab =>
      obtain ⟨object, taken, found, takes, rfl⟩ := perform_takes plain takes_of_addTab ok
      refine ⟨object, taken, found, takes, ?_⟩
      cases takes
      rfl
    | setWidget => exact setResizableContent_ok plain ok
    | addStretch => cases ok

theorem setWidgetResizable_ok {parent : ObjectId} {filled : Heap}
    (plain : ∀ object, heap.get? parent = some object → object.Plain)
    (took : heap.perform parent (.setWidget child) = (.ok (), filled)) :
    ∃ done, filled.perform parent (.setWidgetResizable true) = (.ok (), done) := by
  obtain ⟨object, content, found, answer, rfl⟩ := Heap.perform_ok took
  obtain ⟨-, adopted, resizable, rfl, rfl⟩ := setWidget_ok (plain object found) answer
  have same := Heap.get?_put_self found (.widget adopted (.scroll (some child) resizable))
  unfold Heap.perform Heap.deliver Heap.turnTaken
  simp only [same]
  exact ⟨_, rfl⟩

theorem setResizableContent_error {parent : ObjectId} {after : Heap} {refusal : Refusal}
    (plain : heap.Plain)
    (refused : setResizableContent heap parent child = (.error refusal, after)) : after = heap := by
  unfold setResizableContent at refused
  split at refused
  · exact (Prod.mk.inj refused).2.symm
  · split at refused
    · rename_i setWidget
      rw [← (Prod.mk.inj refused).2]
      exact Heap.perform_error (plain _) setWidget
    · rename_i filled setWidget
      obtain ⟨done, resized⟩ := setWidgetResizable_ok (plain parent) setWidget
      rw [resized] at refused
      cases refused

theorem Strategy.perform_error {strategy : Strategy} {parent : ObjectId} {after : Heap}
    {child : Child} {refusal : Refusal} (plain : heap.Plain)
    (refused : strategy.perform parent label heap child = (.error refusal, after)) :
    after = heap := by
  cases child with
  | stretch =>
    cases strategy with
    | addStretch => exact Heap.perform_error (plain _) refused
    | _ => exact (Prod.mk.inj refused).2.symm
  | object child =>
    cases strategy with
    | addStretch => exact (Prod.mk.inj refused).2.symm
    | setWidget => exact setResizableContent_error plain refused
    | _ => exact Heap.perform_error (plain _) refused

theorem attachBy_ok {child : Child} {name : String} {parent : ObjectId} {strategy : Strategy}
    {strategies : List Strategy} {tried : List (Strategy × Refusal)} {scene after : Scene}
    (plain : scene.heap.Plain)
    (ok : attachBy child name parent strategies tried scene = (.ok strategy, after)) :
    strategy.perform parent scene.tabs.next scene.heap child = (.ok (), after.heap) ∧
      after.tabs = scene.tabs.after strategy := by
  induction strategies generalizing tried scene with
  | nil => cases ok
  | cons first later ih =>
    unfold attachBy at ok
    split at ok
    · rename_i heap works
      cases ok
      exact ⟨works, rfl⟩
    · rename_i refusal heap refused
      obtain rfl := Strategy.perform_error plain refused
      have rest := ih (by exact plain) ok
      exact rest

theorem attach_ok {child : Child} {name : String} {parent : ObjectId} {strategy : Strategy}
    {scene after : Scene} (plain : scene.heap.Plain)
    (ok : attach child name parent scene = (.ok strategy, after)) :
    child ≠ .object parent ∧ ∃ object taken, scene.heap.get? parent = some object ∧
      Takes scene.heap scene.tabs.next strategy child.slot object taken ∧
      after.heap = scene.heap.nested parent object.isRow taken child.slot ∧
      after.tabs = scene.tabs.after strategy := by
  unfold attach at ok
  split at ok
  · cases ok
  · rename_i different
    obtain ⟨works, tabs⟩ := attachBy_ok plain ok
    obtain ⟨object, taken, found, takes, heap⟩ := Strategy.perform_ok plain works
    exact ⟨different, object, taken, found, takes, heap, tabs⟩

end WidgetOutline
