import WidgetOutline.Proofs.Nesting.Mirror

namespace WidgetOutline

inductive Accepts (heap : Heap) : Object → Call → Object → Prop
  | boxLayout {direction : Direction} {slots : List Slot} {child : ObjectId}
      (layout : heap.kindOf child = .layout) :
      Accepts heap (.layout (.box direction slots)) (.addLayout child)
        (.layout (.box direction (slots ++ [.object child])))
  | boxWidget {direction : Direction} {slots : List Slot} {child : ObjectId}
      (widget : heap.kindOf child = .widget) :
      Accepts heap (.layout (.box direction slots)) (.addWidget child)
        (.layout (.box direction (slots ++ [.object child])))
  | boxStretch {direction : Direction} {slots : List Slot} :
      Accepts heap (.layout (.box direction slots)) .addStretch
        (.layout (.box direction (slots ++ [.stretch])))
  | stackedLayout {pages : List ObjectId} {child : ObjectId}
      (widget : heap.kindOf child = .widget) :
      Accepts heap (.layout (.stack pages)) (.addWidget child) (.layout (.stack (pages ++ [child])))
  | adopted {body : Body} {child : ObjectId} (layout : heap.kindOf child = .layout) :
      Accepts heap (.widget none body) (.setLayout child) (.widget (some child) body)
  | splitter {adopted : Option ObjectId} {panes : List ObjectId} {child : ObjectId}
      (widget : heap.kindOf child = .widget) :
      Accepts heap (.widget adopted (.splitter panes)) (.addWidget child)
        (.widget adopted (.splitter (panes ++ [child])))
  | stackedWidget {adopted : Option ObjectId} {pages : List ObjectId} {child : ObjectId}
      (widget : heap.kindOf child = .widget) :
      Accepts heap (.widget adopted (.stack pages)) (.addWidget child)
        (.widget adopted (.stack (pages ++ [child])))
  | tab {adopted : Option ObjectId} {pages : List (String × ObjectId)} {child : ObjectId}
      {label : String} (widget : heap.kindOf child = .widget) :
      Accepts heap (.widget adopted (.tabs pages)) (.addTab child label)
        (.widget adopted (.tabs (pages ++ [(label, child)])))
  | content {adopted : Option ObjectId} {resizable : Bool} {child : ObjectId}
      (widget : heap.kindOf child = .widget) :
      Accepts heap (.widget adopted (.scroll none resizable)) (.setWidget child)
        (.widget adopted (.scroll (some child) resizable))
  | resizable {adopted content : Option ObjectId} {before after : Bool} :
      Accepts heap (.widget adopted (.scroll content before)) (.setWidgetResizable after)
        (.widget adopted (.scroll content after))
  | orientation {adopted : Option ObjectId} {before after : Orientation} :
      Accepts heap (.widget adopted (.slider before)) (.setOrientation after)
        (.widget adopted (.slider after))
  | text {adopted : Option ObjectId} {className text : String} {before : Option String} :
      Accepts heap (.widget adopted (.caption className before)) (.setText text)
        (.widget adopted (.caption className (some text)))
  | title {adopted : Option ObjectId} {title : String} {before : Option String} :
      Accepts heap (.widget adopted (.group before)) (.setTitle title)
        (.widget adopted (.group (some title)))

def Call.isSetter : Call → Bool
  | setWidgetResizable _ => true
  | setOrientation _ => true
  | setText _ => true
  | setTitle _ => true
  | _ => false

variable {heap after : Heap} {object answered : Object} {call : Call} {target : ObjectId}

theorem refilled_of_answer (plain : object.Plain) (setter : call.isSetter = true)
    (ok : heap.answer object call = .ok answered) :
    ∃ adopted body body', object = .widget adopted body ∧ heap.refill body call = .ok body' ∧
      answered = .widget adopted body' := by
  cases object with
  | layout arrangement =>
    obtain ⟨_, rearranged, -⟩ := mapped_ok_iff.1 ok
    have refused : heap.rearrange arrangement call = .error .unsupported := by
      cases arrangement <;> cases call <;> first | rfl | cases setter
    rw [refused] at rearranged
    cases rearranged
  | widget adopted body =>
    have refills : (heap.refill body call).map (Object.widget adopted) = .ok answered := by
      cases call with
      | setLayout child => cases setter
      | _ => exact ok
    obtain ⟨body', refilled, rfl⟩ := mapped_ok_iff.1 refills
    exact ⟨adopted, body, body', rfl, refilled, rfl⟩
  | inert _ => cases ok
  | scripted _ _ => cases plain

theorem accepts_of_answer (plain : object.Plain) (ok : heap.answer object call = .ok answered) :
    Accepts heap object call answered := by
  cases call with
  | addLayout child =>
    have takes : Takes heap "" .addLayout (.object child) object answered :=
      takes_of_addLayout plain ok
    cases takes with
    | boxLayout layout => exact .boxLayout layout
  | setLayout child =>
    have takes : Takes heap "" .setLayout (.object child) object answered :=
      takes_of_setLayout plain ok
    cases takes with
    | adopted layout => exact .adopted layout
  | addWidget child =>
    have takes : Takes heap "" .addWidget (.object child) object answered :=
      takes_of_addWidget plain ok
    cases takes with
    | boxWidget widget => exact .boxWidget widget
    | stackedLayout widget => exact .stackedLayout widget
    | splitter widget => exact .splitter widget
    | stackedWidget widget => exact .stackedWidget widget
  | addTab child label =>
    cases takes_of_addTab plain ok with
    | tab widget => exact .tab widget
  | setWidget child =>
    obtain ⟨widget, adopted, resizable, rfl, rfl⟩ := setWidget_ok plain ok
    exact .content widget
  | addStretch =>
    have takes : Takes heap "" .addStretch .stretch object answered := takes_of_addStretch plain ok
    cases takes with
    | boxStretch => exact .boxStretch
  | setWidgetResizable resizable =>
    obtain ⟨adopted, body, body', rfl, refilled, rfl⟩ := refilled_of_answer plain rfl ok
    cases body <;> cases refilled
    exact .resizable
  | setOrientation orientation =>
    obtain ⟨adopted, body, body', rfl, refilled, rfl⟩ := refilled_of_answer plain rfl ok
    cases body <;> cases refilled
    exact .orientation
  | setText text =>
    obtain ⟨adopted, body, body', rfl, refilled, rfl⟩ := refilled_of_answer plain rfl ok
    cases body <;> cases refilled
    exact .text
  | setTitle title =>
    obtain ⟨adopted, body, body', rfl, refilled, rfl⟩ := refilled_of_answer plain rfl ok
    cases body <;> cases refilled
    exact .title

namespace Accepts

theorem plain (accepts : Accepts heap object call answered) : answered.Plain := by
  cases accepts <;> trivial

end Accepts

namespace Heap

theorem turnTaken_cases (plain : heap.Plain) (target : ObjectId) (call : Call) :
    heap.turnTaken target call = heap ∨ ∃ child, call = .addWidget child ∧
      heap.turnTaken target call = heap.update child Object.laidFlat := by
  cases call with
  | addWidget child =>
    unfold turnTaken
    dsimp only
    split
    · exact .inr ⟨child, rfl, turn_eq plain child⟩
    · exact .inl rfl
  | _ => exact .inl rfl

theorem perform_cases (plain : heap.Plain) (target : ObjectId) (call : Call) :
    (∃ refusal, heap.perform target call = (.error refusal, heap)) ∨
      ∃ object answered after, heap.get? target = some object ∧
        Accepts heap object call answered ∧ heap.perform target call = (.ok (), after) ∧
        (after = heap.put target answered ∨ ∃ child, call = .addWidget child ∧
          after = (heap.put target answered).update child Object.laidFlat) := by
  cases outcome : heap.perform target call with
  | mk answer after =>
    cases answer with
    | error refusal =>
      obtain rfl := perform_error (plain target) outcome
      exact .inl ⟨refusal, rfl⟩
    | ok _ =>
      obtain ⟨object, answered, found, answer, rfl⟩ := perform_ok outcome
      have accepts := accepts_of_answer (plain target object found) answer
      exact .inr ⟨object, answered, _, found, accepts, rfl,
        turnTaken_cases (plain.put accepts.plain) target call⟩

end Heap

theorem answer_cases (ok : heap.answer object call = .ok answered) :
    Accepts heap object call answered ∨ ∃ script made, object = .scripted script made ∧
      answered = .scripted script (made ++ [call]) := by
  cases object with
  | scripted script made =>
    obtain ⟨_, -, rfl⟩ := mapped_ok_iff.1 ok
    exact .inr ⟨script, made, rfl, rfl⟩
  | _ => exact .inl (accepts_of_answer trivial ok)

structure Lasting {α : Type} (view : Object → α) : Prop where
  accepted : ∀ {heap object call answered}, Accepts heap object call answered →
    view answered = view object
  recorded : ∀ script made made', view (.scripted script made) = view (.scripted script made')

namespace Lasting

variable {α : Type} {view : Object → α}

theorem answer (lasting : Lasting view) (ok : heap.answer object call = .ok answered) :
    view answered = view object := by
  rcases answer_cases ok with accepts | ⟨script, made, rfl, rfl⟩
  · exact lasting.accepted accepts
  · exact lasting.recorded ..

theorem deliver (lasting : Lasting view) (heap : Heap) (target id : ObjectId) (call : Call) :
    ((heap.deliver target call).2.get? id).map view = (heap.get? id).map view := by
  unfold Heap.deliver
  cases found : heap.get? target with
  | none => rfl
  | some object =>
    dsimp only
    cases answer : heap.answer object call with
    | ok answered => exact Heap.map_get?_put found (lasting.answer answer)
    | error refusal =>
      refine Heap.map_get?_put found ?_
      cases object with
      | scripted script made => exact lasting.recorded ..
      | _ => rfl

theorem perform (lasting : Lasting view) (heap : Heap) (target id : ObjectId) (call : Call) :
    ((heap.perform target call).2.get? id).map view = (heap.get? id).map view := by
  have delivered := lasting.deliver heap target id call
  unfold Heap.perform
  cases outcome : heap.deliver target call with
  | mk answer after =>
    rw [outcome] at delivered
    cases answer with
    | error refusal => exact delivered
    | ok _ =>
      cases call with
      | addWidget child =>
        unfold Heap.turnTaken
        dsimp only
        split
        · exact (lasting.deliver after child id _).trans delivered
        · exact delivered
      | _ => exact delivered

protected theorem kind : Lasting Object.kind where
  accepted := fun accepts => by cases accepts <;> rfl
  recorded := fun _ _ _ => rfl

protected theorem className : Lasting Object.className where
  accepted := fun accepts => by
    cases accepts with
    | boxLayout _ => exact Arrangement.className_box ..
    | boxWidget _ => exact Arrangement.className_box ..
    | boxStretch => exact Arrangement.className_box ..
    | _ => rfl
  recorded := fun _ _ _ => rfl

end Lasting

theorem Heap.kindOf_perform (heap : Heap) (target id : ObjectId) (call : Call) :
    (heap.perform target call).2.kindOf id = heap.kindOf id :=
  congrArg (·.getD .other) (Lasting.kind.perform heap target id call)

end WidgetOutline
