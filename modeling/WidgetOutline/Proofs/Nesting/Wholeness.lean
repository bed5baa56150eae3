import WidgetOutline.Proofs.Nesting.Picture
import WidgetOutline.Proofs.Nesting.Soundness
import Mathlib

namespace WidgetOutline

def Body.husk : Body → Body
  | splitter _ => .splitter []
  | stack _ => .stack []
  | tabs _ => .tabs []
  | scroll _ _ => .scroll none false
  | body => body

def Object.husk : Object → Object
  | layout (.box direction _) => .layout (.box direction [])
  | layout (.stack _) => .layout (.stack [])
  | widget _ body => .widget none body.husk
  | object => object

/-- A strategy gave the object its first layout or one last child, and nothing else. -/
structure Object.Received (strategy : Strategy) (label : String) (slot : Slot)
    (before after : Object) : Prop where
  husk : after.husk = before.husk
  layout : strategy = .setLayout → before.layout? = none ∧
    after.layout?.map Slot.object = some slot ∧ after.children = before.children
  child : strategy ≠ .setLayout →
    after.layout? = before.layout? ∧ after.children = before.children ++ [slot]
  tab : strategy = .addTab →
    ∃ id, slot = .object id ∧ after.tabPages = before.tabPages ++ [(label, id)]
  noTab : strategy ≠ .addTab → after.tabPages = before.tabPages
  resizable : after.resizable? = if strategy = .setWidget then some true else before.resizable?

namespace Takes

variable {heap : Heap} {label : String} {strategy : Strategy} {slot : Slot} {object taken : Object}

theorem resizable?_eq (takes : Takes heap label strategy slot object taken) :
    taken.resizable? = if strategy = .setWidget then some true else object.resizable? := by
  cases takes with
  | @adopted body _ _ => cases body <;> rfl
  | _ => rfl

theorem received (takes : Takes heap label strategy slot object taken) :
    object.Received strategy label slot taken where
  husk := by cases takes <;> rfl
  layout := by
    rintro rfl
    cases takes with
    | adopted _ => exact ⟨rfl, rfl, rfl⟩
  child := by
    intro other
    cases takes with
    | adopted _ => exact absurd rfl other
    | boxLayout _ => exact ⟨rfl, rfl⟩
    | boxWidget _ => exact ⟨rfl, rfl⟩
    | boxStretch => exact ⟨rfl, rfl⟩
    | content _ => exact ⟨rfl, rfl⟩
    | _ => exact ⟨rfl, List.map_append ..⟩
  tab := by
    rintro rfl
    cases takes with
    | tab _ => exact ⟨_, rfl, rfl⟩
  noTab := by
    intro other
    rw [takes.tabPages_eq, if_neg other, List.append_nil]
  resizable := takes.resizable?_eq

end Takes

namespace Heap

variable {heap : Heap} {parent child id : ObjectId} {flat : Bool} {taken : Object} {slot : Slot}

theorem get?_nested_parent {object : Object} (found : heap.get? parent = some object)
    (different : slot ≠ .object parent) :
    (heap.nested parent flat taken slot).get? parent = some taken := by
  cases slot with
  | stretch => exact get?_put_self found taken
  | object child =>
    have notChild : child ≠ parent := fun same => different (congrArg Slot.object same)
    unfold nested
    dsimp only
    split
    · rw [get?_update_of_ne notChild, get?_put_self found]
    · exact get?_put_self found taken

theorem get?_nested_child (different : parent ≠ child) :
    (heap.nested parent flat taken (.object child)).get? child =
      if flat then (heap.get? child).map Object.laidFlat else heap.get? child := by
  unfold nested
  dsimp only
  split
  · rw [get?_update, if_pos rfl, get?_put_of_ne different]
  · exact get?_put_of_ne different heap taken

theorem get?_nested_other (notParent : parent ≠ id) (notChild : slot ≠ .object id) :
    (heap.nested parent flat taken slot).get? id = heap.get? id := by
  cases slot with
  | stretch => exact get?_put_of_ne notParent heap taken
  | object child =>
    have different : child ≠ id := fun same => notChild (congrArg Slot.object same)
    unfold nested
    dsimp only
    split
    · rw [get?_update_of_ne different, get?_put_of_ne notParent]
    · exact get?_put_of_ne notParent heap taken

end Heap

theorem Child.slot_eq_object_iff {child : Child} {id : ObjectId} :
    child.slot = .object id ↔ child = .object id := by
  cases child <;> simp [slot]

/-- The parent received the child, which lies flat if that is a row.  No other object changed, and
a tab used up a label. -/
structure Scene.Received (strategy : Strategy) (child : Child) (parent : ObjectId)
    (before after : Scene) : Prop where
  received : ∃ object taken, before.heap.get? parent = some object ∧
    after.heap.get? parent = some taken ∧
    object.Received strategy s!"tab_{before.tabs.used + 1}" child.slot taken
  laid : ∀ id, child = .object id → after.heap.get? id =
    if (before.heap.get? parent).any Object.isRow then (before.heap.get? id).map Object.laidFlat
    else before.heap.get? id
  others : ∀ id, id ≠ parent → child ≠ .object id → after.heap.get? id = before.heap.get? id
  tabs : after.tabs.used = before.tabs.used + if strategy = .addTab then 1 else 0

section

variable {child : Child} {name : String} {parent : ObjectId} {strategy : Strategy}
  {scene done : Scene} {error : AttachError}

theorem attachBy_error {strategies : List Strategy} {tried : List (Strategy × Refusal)}
    (plain : scene.heap.Plain)
    (failed : attachBy child name parent strategies tried scene = (.error error, done)) :
    done.heap = scene.heap ∧ done.tabs = scene.tabs := by
  induction strategies generalizing tried scene with
  | nil =>
    cases failed
    exact ⟨rfl, rfl⟩
  | cons first later ih =>
    unfold attachBy at failed
    split at failed
    · cases failed
    · rename_i refusal heap refused
      obtain rfl := Strategy.perform_error plain refused
      have rest := ih (by exact plain) failed
      exact rest

theorem attach_unchanged (plain : scene.heap.Plain)
    (failed : attach child name parent scene = (.error error, done)) :
    done.heap = scene.heap ∧ done.tabs = scene.tabs := by
  unfold attach at failed
  split at failed
  · cases failed
    exact ⟨rfl, rfl⟩
  · exact attachBy_error plain failed

theorem attach_received (plain : scene.heap.Plain)
    (attached : attach child name parent scene = (.ok strategy, done)) :
    scene.Received strategy child parent done := by
  obtain ⟨different, object, taken, found, takes, heap, tabs⟩ := attach_ok plain attached
  have row : (scene.heap.get? parent).any Object.isRow = object.isRow := by rw [found]; rfl
  refine ⟨⟨object, taken, found, ?_, takes.received⟩, ?_, ?_, ?_⟩
  · rw [heap]
    exact Heap.get?_nested_parent found (mt Child.slot_eq_object_iff.1 different)
  · rintro id rfl
    rw [heap, row]
    exact Heap.get?_nested_child fun same => different (congrArg Child.object same.symm)
  · intro id notParent notChild
    rw [heap]
    exact Heap.get?_nested_other notParent.symm (mt Child.slot_eq_object_iff.1 notChild)
  · rw [tabs]
    cases strategy <;> rfl

end

theorem nodup_tabLabels (n : Nat) : (tabLabels n).Nodup := by
  refine List.Nodup.map (fun k k' same => ?_) List.nodup_range
  have digits : (k + 1).repr = (k' + 1).repr := by simpa [toString] using same
  exact Nat.succ.inj (Nat.repr_injective digits)

def Heap.tabPages (heap : Heap) (id : ObjectId) : List (String × ObjectId) :=
  ((heap.get? id).map Object.tabPages).getD []

def Heap.newLabels (heap later : Heap) (parent : ObjectId) : List String :=
  ((later.tabPages parent).drop (heap.tabPages parent).length).map (·.1)

/-- The labels of the tabs added by attempts that share the labels of one scene.  Anything else may
happen to the heap between them. -/
inductive Labelling : List String → Scene → Prop
  | start {heap : Heap} {log : Array Event} (reachable : heap.Reachable) :
      Labelling [] ⟨heap, .start, log⟩
  | attach {labels : List String} {scene : Scene} (earlier : Labelling labels scene)
      (child : Child) (name : String) (parent : ObjectId) :
      Labelling
        (labels ++ scene.heap.newLabels (attach child name parent scene).2.heap parent)
        (attach child name parent scene).2
  | aside {labels : List String} {scene : Scene} {heap : Heap} (earlier : Labelling labels scene)
      (step : scene.heap.Step heap) : Labelling labels { scene with heap }

theorem Scene.Received.newLabels {strategy : Strategy} {child : Child} {parent : ObjectId}
    {scene done : Scene} (received : scene.Received strategy child parent done) :
    scene.heap.newLabels done.heap parent =
      if strategy = .addTab then [scene.tabs.next] else [] := by
  obtain ⟨object, taken, found, found', gained⟩ := received.received
  have pages : scene.heap.tabPages parent = object.tabPages := by simp [Heap.tabPages, found]
  have pages' : done.heap.tabPages parent = taken.tabPages := by simp [Heap.tabPages, found']
  rw [Heap.newLabels, pages, pages']
  split
  · rename_i adds
    obtain ⟨id, -, added⟩ := gained.tab adds
    rw [added, List.drop_left]
    rfl
  · rename_i other
    rw [gained.noTab other, List.drop_length]
    rfl

namespace Labelling

theorem reachable {labels : List String} {scene : Scene} (labelling : Labelling labels scene) :
    scene.heap.Reachable := by
  induction labelling with
  | start reachable => exact reachable
  | @attach _ scene _ child name parent ih =>
    exact .tail ih (.attach child name parent scene.tabs scene.log)
  | aside _ step ih => exact .tail ih step

theorem labels_eq {labels : List String} {scene : Scene} (labelling : Labelling labels scene) :
    labels = tabLabels scene.tabs.used := by
  induction labelling with
  | start _ => rfl
  | @attach labels scene earlier child name parent ih =>
    have plain := earlier.reachable.sound.plain
    cases attached : WidgetOutline.attach child name parent scene with
    | mk outcome done =>
      cases outcome with
      | error error =>
        obtain ⟨heap, tabs⟩ := attach_unchanged plain attached
        simp [heap, tabs, Heap.newLabels, ih]
      | ok strategy =>
        have received := attach_received plain attached
        dsimp only
        rw [received.newLabels, received.tabs, ih]
        split
        · exact (tabLabels_succ scene.tabs).symm
        · exact List.append_nil _
  | aside _ _ ih => exact ih

end Labelling

theorem whole_of_attach :
    (∀ (child : Child) (name : String) (parent : ObjectId) (scene done : Scene)
      (outcome : Except AttachError Strategy), scene.heap.Reachable →
      attach child name parent scene = (outcome, done) →
      match outcome with
      | .error _ => done.heap = scene.heap ∧ done.tabs = scene.tabs
      | .ok strategy => scene.Received strategy child parent done) ∧
    ∀ labels scene, Labelling labels scene →
      labels = tabLabels labels.length ∧ labels.Nodup := by
  refine ⟨fun child name parent scene done outcome reachable attached => ?_,
    fun labels scene labelling => ?_⟩
  · have plain := reachable.sound.plain
    cases outcome with
    | error error => exact attach_unchanged plain attached
    | ok strategy => exact attach_received plain attached
  · have same := labelling.labels_eq
    rw [same, length_tabLabels]
    exact ⟨rfl, nodup_tabLabels _⟩

theorem whole_of_attach_page :
    let scene := Scene.start ⟨#[.widget none (.tabs []), .widget none (.caption "QLabel" none),
      .widget none (.caption "QLabel" none)]⟩
    let first := attach (.object ⟨1⟩) "page" ⟨0⟩ scene
    let second := attach (.object ⟨2⟩) "last" ⟨0⟩ first.2
    first.1 = .ok .addTab ∧ second.1 = .ok .addTab ∧
      scene.Received .addTab (.object ⟨1⟩) ⟨0⟩ first.2 ∧
      first.2.Received .addTab (.object ⟨2⟩) ⟨0⟩ second.2 ∧
      Labelling ["tab_1", "tab_2"] second.2 := by
  intro scene first second
  have constructed : Heap.Reachable _ := .tail (.tail (.tail .refl (.construct "QTabWidget"))
    (.construct "QLabel")) (.construct "QLabel")
  have reachable : scene.heap.Reachable := by
    have same : (Toolkit.builtin.construct "QLabel" (Toolkit.builtin.construct "QLabel"
        (Toolkit.builtin.construct "QTabWidget" .empty).2).2).2 = scene.heap := by decide +kernel
    rwa [same] at constructed
  have attached : attach (.object ⟨1⟩) "page" ⟨0⟩ scene = first := rfl
  have attached' : attach (.object ⟨2⟩) "last" ⟨0⟩ first.2 = second := rfl
  have worked : first.1 = .ok .addTab := by decide +kernel
  have worked' : second.1 = .ok .addTab := by decide +kernel
  have two : ([] ++ scene.heap.newLabels first.2.heap ⟨0⟩ ++
      first.2.heap.newLabels second.2.heap ⟨0⟩).length = 2 := by decide +kernel
  -- Nothing below looks into the two attempts.
  clear_value first second
  have alone : Labelling [] scene := .start reachable
  have one := attached ▸ alone.attach (.object ⟨1⟩) "page" ⟨0⟩
  have both := attached' ▸ one.attach (.object ⟨2⟩) "last" ⟨0⟩
  obtain ⟨whole, labelled⟩ := whole_of_attach
  have labels := (labelled _ _ both).1
  rw [two, show tabLabels 2 = ["tab_1", "tab_2"] from rfl] at labels
  rw [labels] at both
  refine ⟨worked, worked', ?_, ?_, both⟩
  · have received := whole _ _ _ _ first.2 first.1 reachable attached
    rwa [worked] at received
  · have received := whole _ _ _ _ second.2 second.1 one.reachable attached'
    rwa [worked'] at received

end WidgetOutline
