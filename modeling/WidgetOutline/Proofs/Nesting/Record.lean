import WidgetOutline.Supply.Basic
import WidgetOutline.Toolkit.Pool
import WidgetOutline.Proofs.Nesting.Calls

namespace WidgetOutline

namespace Heap

variable {heap : Heap} {id : ObjectId}

theorem isSome_get?_iff : (heap.get? id).isSome = true ↔ id.index < heap.objects.size := by
  simp [get?]

theorem size_deliver (heap : Heap) (target : ObjectId) (call : Call) :
    (heap.deliver target call).2.objects.size = heap.objects.size := by
  unfold deliver
  cases heap.get? target with
  | none => rfl
  | some object => cases answer : heap.answer object call <;> simp [answer, size_put]

theorem size_turnTaken (heap : Heap) (target : ObjectId) (call : Call) :
    (heap.turnTaken target call).objects.size = heap.objects.size := by
  cases call with
  | addWidget child =>
    unfold turnTaken
    dsimp only
    split
    · apply size_deliver
    · rfl
  | _ => rfl

theorem size_perform (heap : Heap) (target : ObjectId) (call : Call) :
    (heap.perform target call).2.objects.size = heap.objects.size := by
  have delivered := size_deliver heap target call
  unfold perform
  cases outcome : heap.deliver target call with
  | mk answer after =>
    rw [outcome] at delivered
    cases answer with
    | ok _ => exact (size_turnTaken ..).trans delivered
    | error refusal => exact delivered

theorem applyText_kept (P : Heap → Prop) {target : ObjectId}
    (keeps : ∀ (call : Call) (heap : Heap), P heap → P (heap.perform target call).2)
    (holds : P heap) (text : String) : P (heap.applyText target text).2 := by
  have set := keeps (.setText text) heap holds
  unfold applyText
  cases first : heap.perform target (.setText text) with
  | mk answer after =>
    rw [first] at set
    cases answer with
    | ok _ => exact set
    | error refusal =>
      have titled := keeps (.setTitle text) after set
      cases second : after.perform target (.setTitle text) with
      | mk answer' done =>
        rw [second] at titled
        dsimp only
        rw [second]
        cases answer' <;> exact titled

theorem size_applyText (heap : Heap) (target : ObjectId) (text : String) :
    (heap.applyText target text).2.objects.size = heap.objects.size :=
  applyText_kept (fun after => after.objects.size = heap.objects.size)
    (fun call after same => (after.size_perform target call).trans same) rfl text

end Heap

def Event.isRefusal : Event → Bool
  | refused _ _ _ => true
  | _ => false

section

variable {child : Child} {name : String} {parent : ObjectId} {scene after : Scene}
  {outcome : Except AttachError Strategy}

/-- The events of an attempt to attach a child: refusals, and the strategy that worked if one
did. -/
def Attempts (name : String) (outcome : Except AttachError Strategy) (events : List Event) : Prop :=
  ∃ refusals : List Event, (∀ event ∈ refusals, event.isRefusal = true) ∧
    match outcome with
    | .error _ => events = refusals
    | .ok strategy => ∃ parentClass, events = refusals ++ [.attached name strategy parentClass]

theorem attachBy_record {strategies : List Strategy} {tried : List (Strategy × Refusal)}
    (done : attachBy child name parent strategies tried scene = (outcome, after)) :
    (∃ events, after.log.toList = scene.log.toList ++ events ∧ Attempts name outcome events) ∧
      ∀ error, outcome = .error error → ∃ childClass parentClass refused,
        error = .noStrategy name childClass parentClass refused := by
  induction strategies generalizing tried scene with
  | nil =>
    cases done
    refine ⟨⟨[], by simp, [], by simp, rfl⟩, ?_⟩
    rintro error ⟨⟩
    exact ⟨_, _, _, rfl⟩
  | cons strategy later ih =>
    unfold attachBy at done
    split at done
    · cases done
      refine ⟨⟨_, Array.toList_push, [], by simp, _, rfl⟩, ?_⟩
      rintro error ⟨⟩
    · rename_i refusal heap refused
      obtain ⟨⟨events, log, refusals, all, parts⟩, errors⟩ := ih done
      refine ⟨⟨.refused name strategy refusal :: events, ?_, .refused name strategy refusal :: refusals,
        ?_, ?_⟩, errors⟩
      · rw [log, Scene.record, Array.toList_push, List.append_assoc, List.singleton_append]
      · simpa [Event.isRefusal] using all
      · cases outcome with
        | error error => exact congrArg _ parts
        | ok strategy =>
          obtain ⟨parentClass, rfl⟩ := parts
          exact ⟨parentClass, rfl⟩

theorem attach_log (done : attach child name parent scene = (outcome, after)) :
    ∃ events, after.log.toList = scene.log.toList ++ events ∧ Attempts name outcome events := by
  unfold attach at done
  split at done
  · cases done
    exact ⟨[], by simp, [], by simp, rfl⟩
  · exact (attachBy_record done).1

theorem size_attach (done : attach child name parent scene = (outcome, after)) :
    after.heap.objects.size = scene.heap.objects.size :=
  attach_kept (fun heap => heap.objects.size = scene.heap.objects.size)
    (fun call heap same => (heap.size_perform parent call).trans same) rfl done

theorem attach_error {error : AttachError} (different : child ≠ .object parent)
    (failed : attach child name parent scene = (.error error, after)) :
    ∃ childClass parentClass refused, error = .noStrategy name childClass parentClass refused := by
  unfold attach at failed
  rw [if_neg different] at failed
  exact (attachBy_record failed).2 error rfl

end

end WidgetOutline
