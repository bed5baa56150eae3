import WidgetOutline.Proofs.Nesting.Record
import WidgetOutline.Proofs.Nesting.Soundness

namespace WidgetOutline

/-- The object stays, and a script goes on with its transcript. -/
inductive Object.Continues : Object → Object → Prop
  | same (object : Object) : Continues object object
  | recorded (script : Script) (made more : List Call) :
      Continues (.scripted script made) (.scripted script (made ++ more))

inductive Object.Titled (said : String) : Object → Object → Prop
  | title (adopted : Option ObjectId) (before : Option String) :
      Titled said (.widget adopted (.group before)) (.widget adopted (.group (some said)))
  | text (adopted : Option ObjectId) (className : String) (before : Option String) :
      Titled said (.widget adopted (.caption className before))
        (.widget adopted (.caption className (some said)))

structure Object.Keeps (before after : Object) : Prop where
  className : after.className = before.className
  layout : after.layout? = before.layout?
  children : after.children = before.children
  labels : after.tabPages = before.tabPages
  content : after.content? = before.content?
  current : after.currentPage? = before.currentPage?
  orientation : after.orientation? = before.orientation?
  resizable : after.resizable? = before.resizable?

namespace Object

variable {before middle after : Object} {said : String}

theorem Continues.trans (first : before.Continues middle) (second : middle.Continues after) :
    before.Continues after := by
  cases first with
  | same => exact second
  | recorded script made more =>
    cases second with
    | same => exact .recorded script made more
    | recorded _ _ later =>
      rw [List.append_assoc]
      exact .recorded script made (more ++ later)

theorem Continues.keeps (continues : before.Continues after) :
    before.Keeps after ∧ after.text? = before.text? := by
  cases continues with
  | same => exact ⟨⟨rfl, rfl, rfl, rfl, rfl, rfl, rfl, rfl⟩, rfl⟩
  | recorded => exact ⟨⟨rfl, rfl, rfl, rfl, rfl, rfl, rfl, rfl⟩, rfl⟩

theorem Titled.keeps (titled : Titled said before after) :
    before.Keeps after ∧ after.text? = some said := by
  cases titled with
  | title => exact ⟨⟨rfl, rfl, rfl, rfl, rfl, rfl, rfl, rfl⟩, rfl⟩
  | text => exact ⟨⟨rfl, rfl, rfl, rfl, rfl, rfl, rfl, rfl⟩, rfl⟩

theorem Titled.eq_of_continues (titled : Titled said before middle)
    (continues : middle.Continues after) : after = middle := by
  cases titled <;> cases continues <;> rfl

theorem Continues.afterRefusal (object : Object) (call : Call) :
    object.Continues (Heap.afterRefusal object call) := by
  cases object with
  | scripted script made => exact .recorded script made [call]
  | _ => exact .same _

end Object

def Call.said? : Call → Option String
  | setText said => some said
  | setTitle said => some said
  | _ => none

theorem Heap.titled_of_answer {heap : Heap} {object answered : Object} {call : Call} {said : String}
    (sets : call.said? = some said) (ok : heap.answer object call = .ok answered) :
    object.Continues answered ∨ object.Titled said answered := by
  rcases answer_cases ok with accepts | ⟨script, made, rfl, rfl⟩
  · right
    cases accepts with
    | text =>
      cases sets
      exact .text ..
    | title =>
      cases sets
      exact .title ..
    | _ => cases sets
  · exact .inl (.recorded script made [call])

namespace Heap

def Continues (before after : Heap) : Prop :=
  ∀ id object, before.get? id = some object →
    ∃ left, after.get? id = some left ∧ object.Continues left

variable {heap middle after : Heap} {target id : ObjectId} {object answered : Object} {call : Call}
  {said : String}

theorem Continues.refl (heap : Heap) : heap.Continues heap :=
  fun _ object found => ⟨object, found, .same object⟩

theorem Continues.trans (first : heap.Continues middle) (second : middle.Continues after) :
    heap.Continues after := by
  intro id object found
  obtain ⟨between, found', continues⟩ := first id object found
  obtain ⟨left, found'', continues'⟩ := second id between found'
  exact ⟨left, found'', continues.trans continues'⟩

theorem continues_put (found : heap.get? target = some object)
    (continues : object.Continues answered) : heap.Continues (heap.put target answered) := by
  intro id other found'
  by_cases same : target = id
  · subst same
    obtain rfl := Option.some.inj (found.symm.trans found')
    exact ⟨answered, get?_put_self found answered, continues⟩
  · exact ⟨other, (get?_put_of_ne same heap answered).trans found', .same other⟩

theorem continues_add (heap : Heap) (object : Object) : heap.Continues (heap.add object).2 := by
  intro id other found
  refine ⟨other, ?_, .same other⟩
  rw [get?_add, if_neg, found]
  rintro rfl
  simp [get?, add] at found

theorem perform_error_continues {refusal : Refusal}
    (refused : heap.perform target call = (.error refusal, after)) : heap.Continues after := by
  cases found : heap.get? target with
  | none =>
    rw [perform_error (by simp [found]) refused]
    exact .refl heap
  | some object =>
    unfold perform deliver at refused
    rw [found] at refused
    dsimp only at refused
    cases answer : heap.answer object call with
    | ok answered =>
      rw [answer] at refused
      cases refused
    | error refusal =>
      rw [answer] at refused
      cases refused
      exact continues_put found (.afterRefusal object call)

theorem perform_said (sets : call.said? = some said) {answer : Except Refusal Unit}
    (performed : heap.perform target call = (answer, after)) (found : heap.get? id = some object) :
    ∃ left, after.get? id = some left ∧
      (object.Continues left ∨ id = target ∧ answer = .ok () ∧ object.Titled said left) := by
  cases answer with
  | error refusal =>
    obtain ⟨left, found', continues⟩ := perform_error_continues performed id object found
    exact ⟨left, found', .inl continues⟩
  | ok _ =>
    obtain ⟨asked, answered, located, ok, rfl⟩ := perform_ok performed
    have turned : (heap.put target answered).turnTaken target call = heap.put target answered := by
      cases call <;> first | rfl | cases sets
    rw [turned]
    by_cases same : target = id
    · subst same
      obtain rfl := Option.some.inj (located.symm.trans found)
      exact ⟨answered, get?_put_self located answered,
        (titled_of_answer sets ok).imp_right fun titled => ⟨rfl, rfl, titled⟩⟩
    · exact ⟨object, (get?_put_of_ne same heap answered).trans found, .inl (.same object)⟩

theorem applyText_traces {outcome : Except CannotSetText TextSetter}
    (applied : heap.applyText target said = (outcome, after)) (found : heap.get? id = some object) :
    ∃ left, after.get? id = some left ∧
      (object.Continues left ∨ id = target ∧ object.Titled said left) := by
  unfold applyText at applied
  split at applied
  · rename_i set
    cases applied
    obtain ⟨left, found', traces⟩ := perform_said rfl set found
    exact ⟨left, found', traces.imp_right fun titled => ⟨titled.1, titled.2.2⟩⟩
  · rename_i refusal next refused
    obtain ⟨between, found', continues⟩ := perform_error_continues refused id object found
    have titles {answer : Except Refusal Unit} {done : Heap}
        (performed : next.perform target (.setTitle said) = (answer, done)) :
        ∃ left, done.get? id = some left ∧
          (object.Continues left ∨ id = target ∧ object.Titled said left) := by
      obtain ⟨left, found'', traces⟩ := perform_said rfl performed found'
      refine ⟨left, found'', ?_⟩
      rcases traces with continues' | ⟨same, -, titled⟩
      · exact .inl (continues.trans continues')
      · -- What takes a title is no script, so it was left as it was by the first call.
        cases continues with
        | same => exact .inr ⟨same, titled⟩
        | recorded => cases titled
    split at applied
    · rename_i set
      cases applied
      exact titles set
    · rename_i refused'
      cases applied
      exact titles refused'

end Heap

theorem setResizableContent_error_continues {heap after : Heap} {parent child : ObjectId}
    {refusal : Refusal}
    (refused : setResizableContent heap parent child = (.error refusal, after)) :
    heap.Continues after := by
  unfold setResizableContent at refused
  split at refused
  · cases refused
    exact .refl heap
  · rename_i resizable property
    split at refused
    · rename_i unset
      cases refused
      exact Heap.perform_error_continues unset
    · rename_i next took
      split at refused
      · cases refused
      · rename_i stiff
        cases refused
        obtain ⟨script, made, found, -, -⟩ :=
          exists_of_isStiff (isStiff_of_took property took stiff)
        rw [Heap.perform_scripted found] at took
        obtain ⟨-, rfl⟩ := Prod.mk.inj took
        exact (Heap.continues_put found (.recorded script made _)).trans
          (Heap.perform_error_continues stiff)

theorem Strategy.perform_error_continues {strategy : Strategy} {heap after : Heap}
    {parent : ObjectId} {label : String} {child : Child} {refusal : Refusal}
    (refused : strategy.perform parent label heap child = (.error refusal, after)) :
    heap.Continues after := by
  cases child with
  | stretch =>
    cases strategy with
    | addStretch => exact Heap.perform_error_continues refused
    | _ =>
      cases refused
      exact .refl heap
  | object child =>
    cases strategy with
    | setWidget => exact setResizableContent_error_continues refused
    | addStretch =>
      cases refused
      exact .refl heap
    | _ => exact Heap.perform_error_continues refused

theorem attachBy_error_continues {child : Child} {name : String} {parent : ObjectId}
    {strategies : List Strategy} {tried : List (Strategy × Refusal)} {scene after : Scene}
    {error : AttachError}
    (failed : attachBy child name parent strategies tried scene = (.error error, after)) :
    scene.heap.Continues after.heap := by
  induction strategies generalizing tried scene with
  | nil =>
    cases failed
    exact .refl _
  | cons strategy later ih =>
    unfold attachBy at failed
    split at failed
    · cases failed
    · rename_i refused
      exact (Strategy.perform_error_continues refused).trans (ih failed)

theorem attach_error_continues {child : Child} {name : String} {parent : ObjectId}
    {scene after : Scene} {error : AttachError}
    (failed : attach child name parent scene = (.error error, after)) :
    scene.heap.Continues after.heap := by
  unfold attach at failed
  split at failed
  · cases failed
    exact .refl scene.heap
  · exact attachBy_error_continues failed

end WidgetOutline
