import WidgetOutline.Proofs.Nesting.Calls
import WidgetOutline.Proofs.Supply.Builtin

namespace WidgetOutline

def Object.currentPage? : Object → Option ObjectId
  | widget _ body => body.currentPage?
  | _ => none

def Object.content? : Object → Option ObjectId
  | widget _ (.scroll content _) => content
  | _ => none

structure Object.Fits (heap : Heap) (object : Object) : Prop where
  layout : ∀ id ∈ object.layout?, heap.kindOf id = .layout
  box : object.isBox = true → ∀ slot ∈ object.children, slot.kind? heap ≠ some .other
  pages : object.isBox = false → ∀ slot ∈ object.children, slot.kind? heap = some .widget

structure Object.Sound (heap : Heap) (object : Object) : Prop extends object.Fits heap where
  single : object.className = "QScrollArea" → object.children.length ≤ 1
  labels : object.className = "QTabWidget" →
    (object.tabPages.map (·.1)).length = object.children.length
  current : object.className = "QTabWidget" ∨ object.className = "QStackedWidget" →
    object.currentPage?.map Slot.object = object.children.head?

structure Object.Grows (before after : Object) : Prop where
  className : after.className = before.className
  layout : ∀ id ∈ before.layout?, after.layout? = some id
  content : ∀ id ∈ before.content?, after.content? = some id
  children : before.children <+: after.children

theorem Arrangement.className_ne (arrangement : Arrangement) :
    arrangement.className ≠ "QScrollArea" ∧ arrangement.className ≠ "QTabWidget" ∧
      arrangement.className ≠ "QStackedWidget" := by
  cases arrangement with
  | box direction slots => cases direction <;> simp [className]
  | stack pages => simp [className]

namespace Object

variable {heap heap' : Heap} {object : Object}

theorem single (scroll : object.className = "QScrollArea") : object.children.length ≤ 1 := by
  cases object with
  | layout arrangement => exact absurd scroll arrangement.className_ne.1
  | widget adopted body =>
    cases body with
    | scroll content resizable => simp [children, Body.children, Option.length_toList_le]
    | _ => simp_all [className, Body.className, children, Body.children]
  | _ => simp [children]

theorem labels (tabs : object.className = "QTabWidget") :
    (object.tabPages.map (·.1)).length = object.children.length := by
  cases object with
  | layout arrangement => exact absurd tabs arrangement.className_ne.2.1
  | widget adopted body =>
    cases body with
    | tabs pages => simp [tabPages, children, Body.children]
    | _ => simp_all [className, Body.className, children, Body.children, tabPages]
  | _ => rfl

theorem current (paged : object.className = "QTabWidget" ∨ object.className = "QStackedWidget") :
    object.currentPage?.map Slot.object = object.children.head? := by
  cases object with
  | layout arrangement =>
    obtain ⟨-, notTabs, notStack⟩ := arrangement.className_ne
    exact (paged.elim notTabs notStack).elim
  | widget adopted body =>
    cases body with
    | tabs pages => cases pages <;> rfl
    | stack pages => cases pages <;> rfl
    | _ => simp_all [className, Body.className, children, Body.children, currentPage?,
        Body.currentPage?]
  | _ => rfl

theorem Fits.sound (fits : object.Fits heap) : object.Sound heap :=
  { fits with single, labels, current }

theorem Fits.keep (fits : object.Fits heap) (same : heap.KeepsKinds heap') :
    object.Fits heap' where
  layout := fun id adopted => by
    have layout := fits.layout id adopted
    rw [same id (by simp [layout]), layout]
  box := fun box slot member => by
    have known := fits.box box slot member
    rwa [Slot.kind?_congr fun id held => same id fun other => known ?_]
    rw [Slot.kind?, held, Option.map_some, other]
  pages := fun notBox slot member => by
    have widget := fits.pages notBox slot member
    rw [Slot.kind?_congr fun id held => same id fun other => ?_, widget]
    rw [Slot.kind?, held, Option.map_some, other] at widget
    cases widget

theorem Fits.laidFlat (fits : object.Fits heap) : object.laidFlat.Fits heap where
  layout := by
    rw [view_laidFlat layout? fun _ _ => rfl]
    exact fits.layout
  box := by
    rw [view_laidFlat isBox fun _ _ => rfl, view_laidFlat children fun _ _ => rfl]
    exact fits.box
  pages := by
    rw [view_laidFlat isBox fun _ _ => rfl, view_laidFlat children fun _ _ => rfl]
    exact fits.pages

namespace Grows

variable {before middle after : Object}

theorem refl (object : Object) : object.Grows object :=
  ⟨rfl, fun _ same => same, fun _ same => same, List.prefix_rfl⟩

theorem trans (first : before.Grows middle) (second : middle.Grows after) : before.Grows after where
  className := second.className.trans first.className
  layout := fun id same => second.layout id (first.layout id same)
  content := fun id same => second.content id (first.content id same)
  children := first.children.trans second.children

theorem laidFlat (object : Object) : object.Grows object.laidFlat where
  className := view_laidFlat Object.className (fun _ _ => rfl) object
  layout := fun id same => by rwa [view_laidFlat layout? fun _ _ => rfl]
  content := fun id same => by rwa [view_laidFlat content? fun _ _ => rfl]
  children :=
    ⟨[], (List.append_nil _).trans (view_laidFlat Object.children (fun _ _ => rfl) object).symm⟩

end Grows

inductive Gains (heap : Heap) (before after : Object) : Prop
  | layout {child : ObjectId} (layout : heap.kindOf child = .layout)
      (first : before.layout? = none) (adopted : after.layout? = some child)
      (children : after.children = before.children)
  | slot {slot : Slot} (known : slot.kind? heap ≠ some .other)
      (page : before.isBox = false → slot.kind? heap = some .widget)
      (layout : after.layout? = before.layout?)
      (children : after.children = before.children ++ [slot])
  | nothing (layout : after.layout? = before.layout?)
      (children : after.children = before.children)

variable {answered : Object}

theorem Fits.gains (fits : object.Fits heap) (gains : object.Gains heap answered)
    (box : answered.isBox = object.isBox) : answered.Fits heap := by
  cases gains with
  | layout layout first adopted children =>
    refine ⟨?_, by rw [box, children]; exact fits.box, by rw [box, children]; exact fits.pages⟩
    rw [adopted]
    rintro id ⟨⟩
    exact layout
  | slot known page layout children =>
    refine ⟨by rw [layout]; exact fits.layout, ?_, ?_⟩
    · rw [box, children]
      intro isBox slot member
      rcases List.mem_append.1 member with earlier | last
      · exact fits.box isBox slot earlier
      · rwa [List.mem_singleton.1 last]
    · rw [box, children]
      intro notBox slot member
      rcases List.mem_append.1 member with earlier | last
      · exact fits.pages notBox slot earlier
      · rw [List.mem_singleton.1 last]
        exact page notBox
  | nothing layout children =>
    exact ⟨by rw [layout]; exact fits.layout, by rw [box, children]; exact fits.box,
      by rw [box, children]; exact fits.pages⟩

end Object

namespace Accepts

variable {heap : Heap} {object answered : Object} {call : Call}

theorem isBox_eq (accepts : Accepts heap object call answered) :
    answered.isBox = object.isBox := by
  cases accepts <;> rfl

theorem gains (accepts : Accepts heap object call answered) : object.Gains heap answered := by
  have slot {child : ObjectId} (widget : heap.kindOf child = .widget)
      (layout : answered.layout? = object.layout?)
      (children : answered.children = object.children ++ [.object child]) :
      object.Gains heap answered :=
    .slot (by simp [Slot.kind?, Slot.object?, widget])
      (fun _ => by simp [Slot.kind?, Slot.object?, widget]) layout children
  cases accepts with
  | adopted layout => exact .layout layout rfl rfl rfl
  | boxLayout layout =>
    exact .slot (by simp [Slot.kind?, Slot.object?, layout]) (by simp [Object.isBox]) rfl rfl
  | boxStretch =>
    exact .slot (by simp [Slot.kind?, Slot.object?]) (by simp [Object.isBox]) rfl rfl
  | boxWidget widget => exact slot widget rfl rfl
  | stackedLayout widget => exact slot widget rfl (List.map_append ..)
  | splitter widget => exact slot widget rfl (List.map_append ..)
  | stackedWidget widget => exact slot widget rfl (List.map_append ..)
  | tab widget => exact slot widget rfl (List.map_append ..)
  | content widget => exact slot widget rfl rfl
  | _ => exact .nothing rfl rfl

theorem content_eq (accepts : Accepts heap object call answered) :
    ∀ id ∈ object.content?, answered.content? = some id := by
  cases accepts with
  | @adopted body _ _ => cases body <;> exact fun _ same => same
  | resizable => exact fun _ same => same
  | _ => exact nofun

theorem grows (accepts : Accepts heap object call answered) : object.Grows answered where
  className := Lasting.className.accepted accepts
  layout := by
    intro id same
    cases accepts.gains with
    | layout _ first _ _ => rw [first] at same; cases same
    | slot _ _ layout _ => rwa [layout]
    | nothing layout _ => rwa [layout]
  content := accepts.content_eq
  children := by
    cases accepts.gains with
    | layout _ _ _ children => exact children ▸ List.prefix_rfl
    | slot _ _ _ children => exact children ▸ List.prefix_append ..
    | nothing _ children => exact children ▸ List.prefix_rfl

end Accepts

namespace Heap

structure Sound (heap : Heap) : Prop where
  plain : heap.Plain
  sound : ∀ id object, heap.get? id = some object → object.Sound heap

def Grows (before after : Heap) : Prop :=
  ∀ id object, before.get? id = some object →
    ∃ grown, after.get? id = some grown ∧ object.Grows grown

namespace Grows

theorem refl (heap : Heap) : heap.Grows heap :=
  fun _ object found => ⟨object, found, .refl object⟩

theorem trans {before middle after : Heap} (first : before.Grows middle)
    (second : middle.Grows after) : before.Grows after := by
  intro id object found
  obtain ⟨grown, found', grows⟩ := first id object found
  obtain ⟨grown', found'', grows'⟩ := second id grown found'
  exact ⟨grown', found'', grows.trans grows'⟩

end Grows

variable {heap : Heap} {object answered : Object} {call : Call} {target : ObjectId}

theorem empty_sound : Heap.empty.Sound where
  plain := fun _ _ found => by cases found
  sound := fun _ _ found => by cases found

theorem Sound.put (sound : heap.Sound) (found : heap.get? target = some object)
    (accepts : Accepts heap object call answered) : (heap.put target answered).Sound where
  plain := sound.plain.put accepts.plain
  sound := by
    intro id other found'
    have kinds : heap.KeepsKinds (heap.put target answered) :=
      keepsKinds_of_eq fun _ => kindOf_put found (Lasting.kind.accepted accepts)
    rw [get?_put] at found'
    split at found'
    · obtain ⟨_, -, rfl⟩ := Option.map_eq_some_iff.1 found'
      have fits := (sound.sound target object found).gains accepts.gains accepts.isBox_eq
      exact (fits.keep kinds).sound
    · exact ((sound.sound id other found').keep kinds).sound

theorem Sound.layFlat (sound : heap.Sound) (id : ObjectId) :
    (heap.update id Object.laidFlat).Sound where
  plain := sound.plain.layFlat id
  sound := by
    intro other object found
    have kinds : heap.KeepsKinds (heap.update id Object.laidFlat) :=
      keepsKinds_of_eq fun _ => kindOf_update (Object.view_laidFlat Object.kind fun _ _ => rfl)
    obtain ⟨before, found', rfl | rfl⟩ := exists_of_get?_update found
    · exact ((sound.sound other _ found').keep kinds).sound
    · exact ((sound.sound other before found').laidFlat.keep kinds).sound

theorem grows_put (found : heap.get? target = some object) (grows : object.Grows answered) :
    heap.Grows (heap.put target answered) := by
  intro id other found'
  by_cases same : target = id
  · subst same
    obtain rfl := Option.some.inj (found.symm.trans found')
    exact ⟨answered, get?_put_self found answered, grows⟩
  · exact ⟨other, (get?_put_of_ne same heap answered).trans found', .refl other⟩

theorem grows_layFlat (heap : Heap) (id : ObjectId) :
    heap.Grows (heap.update id Object.laidFlat) := by
  intro other object found
  rw [get?_update, found]
  split
  · exact ⟨object.laidFlat, rfl, .laidFlat object⟩
  · exact ⟨object, rfl, .refl object⟩

theorem Sound.perform (sound : heap.Sound) (target : ObjectId) (call : Call) :
    (heap.perform target call).2.Sound ∧ heap.Grows (heap.perform target call).2 := by
  rcases perform_cases sound.plain target call with
    ⟨refusal, refused⟩ | ⟨object, answered, after, found, accepts, performed, rfl | ⟨child, -, rfl⟩⟩
  · rw [refused]
    exact ⟨sound, .refl heap⟩
  · rw [performed]
    exact ⟨sound.put found accepts, grows_put found accepts.grows⟩
  · rw [performed]
    exact ⟨(sound.put found accepts).layFlat child,
      (grows_put found accepts.grows).trans (grows_layFlat _ child)⟩

theorem Sound.add (sound : heap.Sound) (plain : object.Plain) (layout : object.layout? = none)
    (children : object.children = []) : (heap.add object).2.Sound where
  plain := sound.plain.add plain
  sound := by
    intro id other found
    rw [get?_add] at found
    split at found
    · cases found
      exact Object.Fits.sound ⟨by simp [layout], by simp [children], by simp [children]⟩
    · exact ((sound.sound id other found).keep (heap.keepsKinds_add object)).sound

theorem grows_add (heap : Heap) (object : Object) : heap.Grows (heap.add object).2 := by
  intro id other found
  refine ⟨other, ?_, .refl other⟩
  rw [get?_add, if_neg, found]
  rintro rfl
  simp [get?, add] at found

theorem Sound.construct (sound : heap.Sound) (className : String) :
    (Toolkit.builtin.construct className heap).2.Sound ∧
      heap.Grows (Toolkit.builtin.construct className heap).2 := by
  unfold Toolkit.builtin Toolkit.ofTable
  dsimp only
  cases initial : initialOf builtinClasses className with
  | error error => exact ⟨sound, .refl heap⟩
  | ok object =>
    obtain ⟨entry, member, -, first⟩ := entry_of_initialOf initial
    obtain ⟨plain, layout, children⟩ := initial_bare entry member object first
    exact ⟨sound.add plain layout children, grows_add heap object⟩

/-- A construction, a call or an attempt to attach.  No object is handed to itself. -/
inductive Step : Heap → Heap → Prop
  | construct {heap : Heap} (className : String) :
      Step heap (Toolkit.builtin.construct className heap).2
  | call {heap : Heap} (target : ObjectId) (call : Call) (other : call.child? ≠ some target) :
      Step heap (heap.perform target call).2
  | attach {heap : Heap} (child : Child) (name : String) (parent : ObjectId) (tabs : TabLabels)
      (log : Array Event) : Step heap (attach child name parent ⟨heap, tabs, log⟩).2.heap

def LeadsTo : Heap → Heap → Prop := Relation.ReflTransGen Step

def Reachable (heap : Heap) : Prop := Heap.empty.LeadsTo heap

variable {after : Heap}

theorem Sound.attach (sound : heap.Sound) (child : Child) (name : String) (parent : ObjectId)
    (tabs : TabLabels) (log : Array Event) :
    (attach child name parent ⟨heap, tabs, log⟩).2.heap.Sound ∧
      heap.Grows (attach child name parent ⟨heap, tabs, log⟩).2.heap := by
  refine attach_kept (fun next => next.Sound ∧ heap.Grows next) ?_ ⟨sound, .refl heap⟩ rfl
  rintro call next ⟨sound, grows⟩
  obtain ⟨sound', grows'⟩ := sound.perform parent call
  exact ⟨sound', grows.trans grows'⟩

theorem Step.sound (step : Step heap after) (sound : heap.Sound) :
    after.Sound ∧ heap.Grows after := by
  cases step with
  | construct className => exact sound.construct className
  | call target call other => exact sound.perform target call
  | attach child name parent tabs log => exact sound.attach child name parent tabs log

theorem LeadsTo.sound (leads : heap.LeadsTo after) (sound : heap.Sound) :
    after.Sound ∧ heap.Grows after := by
  induction leads with
  | refl => exact ⟨sound, .refl heap⟩
  | tail _ step ih =>
    obtain ⟨sound', grows'⟩ := step.sound ih.1
    exact ⟨sound', ih.2.trans grows'⟩

theorem Reachable.sound (reachable : heap.Reachable) : heap.Sound :=
  (LeadsTo.sound reachable empty_sound).1

end Heap

theorem sound_of_reachable {heap : Heap} (reachable : heap.Reachable) :
    heap.Sound ∧ (∀ later, heap.LeadsTo later → heap.Grows later) ∧
      ∀ target call refusal after,
        heap.perform target call = (.error refusal, after) → after = heap :=
  ⟨reachable.sound, fun _ leads => (leads.sound reachable.sound).2,
    fun target _ _ _ refused => Heap.perform_error (reachable.sound.plain target) refused⟩

theorem sound_of_reachable_tab :
    ∃ heap : Heap, heap.Reachable ∧
      (heap.get? ⟨0⟩).map Object.tabPages = some [("home", ⟨1⟩)] ∧
      heap.Sound ∧ ∀ later, heap.LeadsTo later → heap.Grows later := by
  have reachable : Heap.Reachable _ :=
    .tail (.tail (.tail .refl (.construct "QTabWidget")) (.construct "QLabel"))
      (.call ⟨0⟩ (.addTab ⟨1⟩ "home") (by decide))
  obtain ⟨sound, grows, -⟩ := sound_of_reachable reachable
  exact ⟨_, reachable, by decide +kernel, sound, grows⟩

end WidgetOutline
