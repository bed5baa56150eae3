import WidgetOutline.Proofs.Nesting.Taking

/-!
# Skeletons

What objects hold does not depend on the texts that they show, nor on the stretches between what
they hold: their skeletons leave both out, and heaps with the same skeleton take the same children
in the same way (`attach_alike`).
-/

namespace WidgetOutline

/-! ## Skeletons of objects -/

def Arrangement.skeleton : Arrangement → Arrangement
  | box direction slots => box direction (slots.filter (· ≠ .stretch))
  | stack pages => stack pages

def Body.skeleton : Body → Body
  | group _ => group none
  | caption className _ => caption className none
  | body => body

def Object.skeleton : Object → Object
  | layout arrangement => layout arrangement.skeleton
  | widget adopted body => widget adopted body.skeleton
  | inert className => inert className
  | scripted script _ => scripted script []

namespace Object

variable (object : Object)

theorem className_skeleton : object.skeleton.className = object.className := by
  cases object with
  | layout arrangement =>
    cases arrangement with
    | box direction slots => cases direction <;> rfl
    | stack pages => rfl
  | widget adopted body => cases body <;> rfl
  | _ => rfl

theorem kind_skeleton : object.skeleton.kind = object.kind := by
  cases object <;> rfl

theorem isRow_skeleton : object.skeleton.isRow = object.isRow := by
  cases object with
  | layout arrangement =>
    cases arrangement with
    | box direction slots => cases direction <;> rfl
    | stack pages => rfl
  | _ => rfl

theorem resizable?_skeleton : object.skeleton.resizable? = object.resizable? := by
  cases object with
  | widget adopted body => cases body <;> rfl
  | _ => rfl

end Object

namespace Heap

def skeleton (heap : Heap) : Heap := ⟨heap.objects.map Object.skeleton⟩

variable (heap : Heap) (id : ObjectId)

theorem get?_skeleton : heap.skeleton.get? id = (heap.get? id).map Object.skeleton := by
  simp [get?, skeleton]

theorem size_skeleton : heap.skeleton.objects.size = heap.objects.size := Array.size_map ..

theorem skeleton_put (object : Object) :
    (heap.put id object).skeleton = heap.skeleton.put id object.skeleton := by
  apply ext_get?
  intro other
  simp only [get?_skeleton, get?_put]
  split <;> simp [Function.comp_def]

theorem skeleton_add (object : Object) :
    (heap.add object).2.skeleton = (heap.skeleton.add object.skeleton).2 := by
  simp [add, skeleton]

theorem kindOf_skeleton : heap.skeleton.kindOf id = heap.kindOf id := by
  rw [kindOf, kindOf, get?_skeleton, Option.map_map]
  exact congrArg (Option.getD · _) (congrArg (Option.map · _) (funext Object.kind_skeleton))

theorem classOf_skeleton : heap.skeleton.classOf id = heap.classOf id := by
  rw [classOf, classOf, get?_skeleton, Option.map_map]
  exact congrArg (Option.getD · _) (congrArg (Option.map · _) (funext Object.className_skeleton))

/-! ## Answers -/

theorem expectKind_skeleton (expected : Kind) (method : Method) :
    heap.skeleton.expectKind id expected method = heap.expectKind id expected method := by
  rw [expectKind, expectKind, kindOf_skeleton, classOf_skeleton]

theorem adopt_skeleton (adopted : Option ObjectId) :
    heap.skeleton.adopt adopted id = heap.adopt adopted id := by
  unfold adopt
  rw [expectKind_skeleton]
  cases adopted with
  | none => rfl
  | some existing =>
    dsimp only
    rw [classOf_skeleton]

theorem rearrange_skeleton (arrangement : Arrangement) (call : Call) :
    (heap.skeleton.rearrange arrangement.skeleton call).map Arrangement.skeleton =
      (heap.rearrange arrangement call).map Arrangement.skeleton := by
  cases arrangement with
  | box direction slots =>
    cases call with
    | addLayout child =>
      simp only [Arrangement.skeleton, rearrange, expectKind_skeleton]
      cases heap.expectKind child .layout .addLayout with
      | error refusal => rfl
      | ok _ => simp [bind, Except.bind, pure, Except.pure, Except.map, Arrangement.skeleton]
    | addWidget child =>
      simp only [Arrangement.skeleton, rearrange, expectKind_skeleton]
      cases heap.expectKind child .widget .addWidget with
      | error refusal => rfl
      | ok _ => simp [bind, Except.bind, pure, Except.pure, Except.map, Arrangement.skeleton]
    | addStretch =>
      simp [rearrange, pure, Except.pure, Except.map, Arrangement.skeleton]
    | _ => rfl
  | stack pages =>
    cases call with
    | addWidget child =>
      simp only [Arrangement.skeleton, rearrange, expectKind_skeleton]
    | _ => rfl

theorem refill_skeleton (body : Body) (call : Call) :
    (heap.skeleton.refill body.skeleton call).map Body.skeleton =
      (heap.refill body call).map Body.skeleton := by
  cases body with
  | splitter panes =>
    cases call with
    | addWidget child => simp only [Body.skeleton, refill, expectKind_skeleton]
    | _ => rfl
  | stack pages =>
    cases call with
    | addWidget child => simp only [Body.skeleton, refill, expectKind_skeleton]
    | _ => rfl
  | tabs pages =>
    cases call with
    | addTab child label => simp only [Body.skeleton, refill, expectKind_skeleton]
    | _ => rfl
  | scroll content resizable =>
    cases call with
    | setWidget child =>
      cases content with
      | none => simp only [Body.skeleton, refill, expectKind_skeleton]
      | some existing => simp only [Body.skeleton, refill, expectKind_skeleton, classOf_skeleton]
    | _ => rfl
  | _ => cases call <;> rfl

theorem answer_skeleton (object : Object) (call : Call) :
    (heap.skeleton.answer object.skeleton call).map Object.skeleton =
      (heap.answer object call).map Object.skeleton := by
  cases object with
  | layout arrangement =>
    have through (outcome : Except Refusal Arrangement) :
        (outcome.map Object.layout).map Object.skeleton =
          (outcome.map Arrangement.skeleton).map Object.layout := by
      cases outcome <;> rfl
    simp only [answer, Object.skeleton, through, rearrange_skeleton]
  | widget adopted body =>
    have through (outcome : Except Refusal Body) :
        (outcome.map (Object.widget adopted)).map Object.skeleton =
          (outcome.map Body.skeleton).map (Object.widget adopted) := by
      cases outcome <;> rfl
    cases call with
    | setLayout child =>
      simp only [answer, Object.skeleton, adopt_skeleton]
      cases heap.adopt adopted child with
      | error refusal => rfl
      | ok layout => cases body <;> rfl
    | _ => simp only [answer, Object.skeleton, through, refill_skeleton]
  | inert className => rfl
  | scripted script calls =>
    simp only [answer, Object.skeleton]
    cases script.answer call.method <;> rfl

theorem afterRefusal_skeleton (object : Object) (call : Call) :
    (afterRefusal object call).skeleton = object.skeleton := by
  cases object <;> rfl

/-! ## Calls -/

def Alike (heap other : Heap) : Prop := heap.skeleton = other.skeleton

variable {heap} {other : Heap}

theorem Alike.get? (alike : heap.Alike other) (id : ObjectId) :
    (heap.get? id).map Object.skeleton = (other.get? id).map Object.skeleton := by
  rw [← get?_skeleton, ← get?_skeleton, alike]

theorem Alike.classOf (alike : heap.Alike other) (id : ObjectId) :
    heap.classOf id = other.classOf id := by
  rw [← classOf_skeleton, alike, classOf_skeleton]

theorem Alike.view {α : Type} (alike : heap.Alike other) (view : Option Object → α)
    (blind : ∀ object, view (some object.skeleton) = view (some object)) (id : ObjectId) :
    view (heap.get? id) = view (other.get? id) := by
  have through (found : Option Object) : view (found.map Object.skeleton) = view found := by
    cases found with
    | none => rfl
    | some object => exact blind object
  rw [← through, alike.get?, through]

theorem Alike.put (alike : heap.Alike other) (id : ObjectId) {object object' : Object}
    (same : object.skeleton = object'.skeleton) :
    (heap.put id object).Alike (other.put id object') := by
  rw [Alike, skeleton_put, skeleton_put, alike, same]

theorem Alike.add (alike : heap.Alike other) {object object' : Object}
    (same : object.skeleton = object'.skeleton) :
    (heap.add object).1 = (other.add object').1 ∧
      (heap.add object).2.Alike (other.add object').2 := by
  have sizes := congrArg (·.objects.size) alike
  simp only [size_skeleton] at sizes
  exact ⟨congrArg ObjectId.mk sizes, by rw [Alike, skeleton_add, skeleton_add, alike, same]⟩

def AlikeStep {α : Type} (step step' : α × Heap) : Prop := step.1 = step'.1 ∧ step.2.Alike step'.2

theorem deliver_alike (alike : heap.Alike other) (target : ObjectId) (call : Call) :
    AlikeStep (heap.deliver target call) (other.deliver target call) := by
  have objects := alike.get? target
  unfold deliver
  cases found : heap.get? target with
  | none =>
    rw [found, Option.map_none, eq_comm, Option.map_eq_none_iff] at objects
    rw [objects]
    exact ⟨rfl, alike⟩
  | some object =>
    rw [found, Option.map_some, eq_comm, Option.map_eq_some_iff] at objects
    obtain ⟨object', found', same⟩ := objects
    have answers := heap.answer_skeleton object call
    rw [alike, ← same, answer_skeleton] at answers
    rw [found']
    dsimp only
    cases answer : heap.answer object call with
    | ok answered =>
      cases answer' : other.answer object' call with
      | ok answered' =>
        rw [answer, answer'] at answers
        exact ⟨rfl, alike.put target (Except.ok.inj answers).symm⟩
      | error refusal =>
        rw [answer, answer'] at answers
        cases answers
    | error refusal =>
      cases answer' : other.answer object' call with
      | ok answered' =>
        rw [answer, answer'] at answers
        cases answers
      | error refusal' =>
        rw [answer, answer'] at answers
        cases answers
        refine ⟨rfl, alike.put target ?_⟩
        rw [afterRefusal_skeleton, afterRefusal_skeleton, same]

theorem turnTaken_alike (alike : heap.Alike other) (target : ObjectId) (call : Call) :
    (heap.turnTaken target call).Alike (other.turnTaken target call) := by
  cases call with
  | addWidget child =>
    unfold turnTaken
    dsimp only
    rw [alike.view (Option.any Object.isRow) Object.isRow_skeleton]
    split
    · exact (deliver_alike alike child _).2
    · exact alike
  | _ => exact alike

theorem perform_alike (alike : heap.Alike other) (target : ObjectId) (call : Call) :
    AlikeStep (heap.perform target call) (other.perform target call) := by
  have delivered := deliver_alike alike target call
  unfold perform
  cases first : heap.deliver target call with
  | mk outcome after =>
    cases second : other.deliver target call with
    | mk outcome' after' =>
      rw [first, second] at delivered
      obtain ⟨rfl, afters⟩ := delivered
      cases outcome with
      | ok _ => exact ⟨rfl, turnTaken_alike afters target call⟩
      | error refusal => exact ⟨rfl, afters⟩

end Heap

/-! ## Attaching -/

theorem setResizableContent_alike {heap other : Heap} (alike : heap.Alike other)
    (parent child : ObjectId) :
    Heap.AlikeStep (setResizableContent heap parent child)
      (setResizableContent other parent child) := by
  have set := Heap.perform_alike alike parent (.setWidget child)
  unfold setResizableContent
  rw [alike.view (Option.bind · Object.resizable?) Object.resizable?_skeleton]
  split
  · exact ⟨rfl, alike⟩
  · cases first : heap.perform parent (.setWidget child) with
    | mk outcome after =>
      cases second : other.perform parent (.setWidget child) with
      | mk outcome' after' =>
        rw [first, second] at set
        obtain ⟨rfl, afters⟩ := set
        cases outcome with
        | error refusal => exact ⟨rfl, afters⟩
        | ok _ =>
          have resized := Heap.perform_alike afters parent (.setWidgetResizable true)
          dsimp only
          cases third : after.perform parent (.setWidgetResizable true) with
          | mk outcome done =>
            cases fourth : after'.perform parent (.setWidgetResizable true) with
            | mk outcome' done' =>
              rw [third, fourth] at resized
              obtain ⟨rfl, dones⟩ := resized
              cases outcome with
              | error refusal => exact ⟨rfl, dones⟩
              | ok _ => exact ⟨rfl, dones⟩

theorem Strategy.perform_alike {heap other : Heap} (alike : heap.Alike other)
    (strategy : Strategy) (parent : ObjectId) (label : String) (child : Child) :
    Heap.AlikeStep (strategy.perform parent label heap child)
      (strategy.perform parent label other child) := by
  cases child with
  | stretch =>
    cases strategy with
    | addStretch => exact Heap.perform_alike alike parent .addStretch
    | _ => exact ⟨rfl, alike⟩
  | object child =>
    cases strategy with
    | addStretch => exact ⟨rfl, alike⟩
    | setWidget => exact setResizableContent_alike alike parent child
    | _ => apply Heap.perform_alike alike

structure Scene.Alike (scene other : Scene) : Prop where
  heap : scene.heap.Alike other.heap
  tabs : scene.tabs = other.tabs

theorem attachBy_alike {scene other : Scene} (alike : scene.Alike other) (child : Child)
    (name : String) (parent : ObjectId) (strategies : List Strategy)
    (tried : List (Strategy × Refusal)) :
    (attachBy child name parent strategies tried scene).1 =
        (attachBy child name parent strategies tried other).1 ∧
      (attachBy child name parent strategies tried scene).2.Alike
        (attachBy child name parent strategies tried other).2 := by
  induction strategies generalizing tried scene other with
  | nil =>
    refine ⟨?_, alike⟩
    have childClass : child.className scene.heap = child.className other.heap := by
      cases child with
      | object id => exact alike.heap.classOf id
      | stretch => rfl
    simp only [attachBy, childClass, alike.heap.classOf]
  | cons strategy later ih =>
    have performed := strategy.perform_alike alike.heap parent scene.tabs.next child
    unfold attachBy
    rw [← alike.tabs]
    cases first : strategy.perform parent scene.tabs.next scene.heap child with
    | mk outcome after =>
      cases second : strategy.perform parent scene.tabs.next other.heap child with
      | mk outcome' after' =>
        rw [first, second] at performed
        obtain ⟨rfl, afters⟩ := performed
        cases outcome with
        | ok _ => exact ⟨rfl, afters, rfl⟩
        | error refusal =>
          apply ih
          exact ⟨afters, rfl⟩

theorem attach_alike {scene other : Scene} (alike : scene.Alike other) (child : Child)
    (name : String) (parent : ObjectId) :
    (attach child name parent scene).1 = (attach child name parent other).1 ∧
      (attach child name parent scene).2.Alike (attach child name parent other).2 := by
  unfold attach
  split
  · exact ⟨rfl, alike⟩
  · exact attachBy_alike alike child name parent child.strategies []

/-! ## Texts and stretches -/

def Call.isQuiet : Call → Bool
  | setText _ => true
  | setTitle _ => true
  | addStretch => true
  | _ => false

namespace Heap

variable {heap : Heap} {call : Call}

theorem skeleton_of_quiet {object answered : Object} (quiet : call.isQuiet = true)
    (answer : heap.answer object call = .ok answered) : answered.skeleton = object.skeleton := by
  cases object with
  | layout arrangement =>
    cases arrangement with
    | box direction slots =>
      cases call with
      | addStretch =>
        cases answer
        simp [Object.skeleton, Arrangement.skeleton]
      | setText text => cases answer
      | setTitle title => cases answer
      | _ => cases quiet
    | stack pages => cases call <;> first | cases answer | cases quiet
  | widget adopted body =>
    cases call with
    | setText text =>
      cases body <;> cases answer
      rfl
    | setTitle title =>
      cases body <;> cases answer
      rfl
    | addStretch => cases body <;> cases answer
    | _ => cases quiet
  | inert className => cases answer
  | scripted script calls =>
    obtain ⟨_, -, rfl⟩ := mapped_ok_iff.1 answer
    rfl

theorem put_of_skeleton {id : ObjectId} {object changed : Object}
    (found : heap.get? id = some object) (same : changed.skeleton = object.skeleton) :
    (heap.put id changed).Alike heap := by
  rw [Alike, skeleton_put, same]
  apply put_same
  rw [get?_skeleton, found, Option.map_some]

theorem deliver_quiet (heap : Heap) (target : ObjectId) (quiet : call.isQuiet = true) :
    (heap.deliver target call).2.Alike heap := by
  unfold deliver
  cases found : heap.get? target with
  | none => rfl
  | some object =>
    dsimp only
    cases answer : heap.answer object call with
    | ok answered => exact put_of_skeleton found (skeleton_of_quiet quiet answer)
    | error refusal => exact put_of_skeleton found (afterRefusal_skeleton object call)

theorem perform_quiet (heap : Heap) (target : ObjectId) (quiet : call.isQuiet = true) :
    (heap.perform target call).2.Alike heap := by
  have delivered := heap.deliver_quiet target quiet
  unfold perform
  cases outcome : heap.deliver target call with
  | mk answer after =>
    rw [outcome] at delivered
    cases answer with
    | error refusal => exact delivered
    | ok _ => cases call <;> first | exact delivered | cases quiet

theorem applyText_quiet (heap : Heap) (target : ObjectId) (text : String) :
    (heap.applyText target text).2.Alike heap := by
  have set : (heap.perform target (.setText text)).2.Alike heap := heap.perform_quiet target rfl
  unfold applyText
  cases first : heap.perform target (.setText text) with
  | mk answer after =>
    rw [first] at set
    cases answer with
    | ok _ => exact set
    | error refusal =>
      have titled : (after.perform target (.setTitle text)).2.Alike after :=
        after.perform_quiet target rfl
      dsimp only
      cases second : after.perform target (.setTitle text) with
      | mk answer' done =>
        rw [second] at titled
        cases answer' <;> exact titled.trans set

end Heap

theorem attach_stretch_quiet (name : String) (parent : ObjectId) (scene : Scene) :
    (attach .stretch name parent scene).2.Alike scene := by
  have quiet : (scene.heap.perform parent .addStretch).2.Alike scene.heap :=
    scene.heap.perform_quiet parent rfl
  unfold attach
  rw [if_neg nofun]
  simp only [Child.strategies, attachBy, Strategy.perform]
  cases outcome : scene.heap.perform parent .addStretch with
  | mk answer after =>
    rw [outcome] at quiet
    cases answer <;> exact ⟨quiet, rfl⟩

end WidgetOutline
