import WidgetOutline.Line.Basic
import WidgetOutline.Proofs.Nesting.Taking

namespace WidgetOutline

def Slot.object? : Slot → Option ObjectId
  | .object id => some id
  | .stretch => none

def Slot.kind? (heap : Heap) (slot : Slot) : Option Kind := slot.object?.map heap.kindOf

theorem Slot.kind?_congr {heap heap' : Heap} {slot : Slot}
    (same : ∀ id ∈ slot.object?, heap'.kindOf id = heap.kindOf id) :
    slot.kind? heap' = slot.kind? heap := by
  cases slot with
  | stretch => rfl
  | object id => exact congrArg some (same id rfl)

namespace Object

def isBox : Object → Bool
  | layout (.box _ _) => true
  | _ => false

def orientation? : Object → Option Orientation
  | widget _ (.slider orientation) => some orientation
  | _ => none

def tabPages : Object → List (String × ObjectId)
  | widget _ (.tabs pages) => pages
  | _ => []

def held (object : Object) : List ObjectId :=
  object.layout?.toList ++ object.children.filterMap Slot.object?

/-- The object is what a line declares, above a line of a class, with the slots below it. -/
structure Mirrors (object : Object) (heap : Heap) (slots : List Slot) (above : Option String)
    (declared : Item) : Prop where
  className : object.className = declared.typeWord.className
  text : object.text? = declared.text
  box : object.isBox = true → object.children = slots ∧ object.layout? = none
  fits : object.isBox = false →
    ∀ slot ∈ slots, slot.kind? heap = some .layout ∨ slot.kind? heap = some .widget
  layout : object.isBox = false →
    object.layout?.toList.map .object = slots.filter (·.kind? heap = some .layout)
  children : object.isBox = false →
    object.children = slots.filter (·.kind? heap = some .widget)
  flat : ∀ orientation ∈ object.orientation?,
    (orientation = .horizontal ↔ above = some "QHBoxLayout")
  scroll : ∀ resizable ∈ object.resizable?, (resizable = true ↔ object.children ≠ [])

end Object

namespace Takes

variable {heap : Heap} {label : String} {strategy : Strategy} {slot : Slot} {object taken : Object}

theorem className_eq (takes : Takes heap label strategy slot object taken) :
    taken.className = object.className := by
  cases takes with
  | boxLayout _ => exact Arrangement.className_box ..
  | boxWidget _ => exact Arrangement.className_box ..
  | boxStretch => exact Arrangement.className_box ..
  | _ => rfl

theorem kind_eq (takes : Takes heap label strategy slot object taken) :
    taken.kind = object.kind := by
  cases takes <;> rfl

theorem text?_eq (takes : Takes heap label strategy slot object taken) :
    taken.text? = object.text? := by
  cases takes <;> rfl

theorem isBox_eq (takes : Takes heap label strategy slot object taken) :
    taken.isBox = object.isBox := by
  cases takes <;> rfl

theorem orientation?_eq (takes : Takes heap label strategy slot object taken) :
    taken.orientation? = object.orientation? := by
  cases takes with
  | @adopted body _ _ => cases body <;> rfl
  | _ => rfl

theorem held_perm (takes : Takes heap label strategy slot object taken) :
    taken.held.Perm (object.held ++ slot.object?.toList) := by
  cases takes with
  | adopted _ => exact List.perm_append_comm
  | _ =>
    simp [Object.held, Object.layout?, Object.children, Arrangement.children, Body.children,
      Slot.object?, List.filterMap_append, List.filterMap_cons]

theorem box_gains (takes : Takes heap label strategy slot object taken)
    (box : object.isBox = true) :
    taken.children = object.children ++ [slot] ∧ taken.layout? = object.layout? := by
  cases takes with
  | boxLayout _ => exact ⟨rfl, rfl⟩
  | boxWidget _ => exact ⟨rfl, rfl⟩
  | boxStretch => exact ⟨rfl, rfl⟩
  | _ => cases box

theorem gains (takes : Takes heap label strategy slot object taken)
    (notBox : object.isBox = false) :
    (slot.kind? heap = some .layout ∧ object.layout? = none ∧
      taken.layout?.toList.map Slot.object = [slot] ∧ taken.children = object.children) ∨
    (slot.kind? heap = some .widget ∧ taken.layout? = object.layout? ∧
      taken.children = object.children ++ [slot]) := by
  cases takes with
  | boxLayout _ => cases notBox
  | boxWidget _ => cases notBox
  | boxStretch => cases notBox
  | adopted layout => exact .inl ⟨congrArg some layout, rfl, rfl, rfl⟩
  | stackedLayout widget => exact .inr ⟨congrArg some widget, rfl, List.map_append ..⟩
  | splitter widget => exact .inr ⟨congrArg some widget, rfl, List.map_append ..⟩
  | stackedWidget widget => exact .inr ⟨congrArg some widget, rfl, List.map_append ..⟩
  | tab widget => exact .inr ⟨congrArg some widget, rfl, List.map_append ..⟩
  | content widget => exact .inr ⟨congrArg some widget, rfl, rfl⟩

theorem scroll_taken (takes : Takes heap label strategy slot object taken)
    (scroll : ∀ resizable ∈ object.resizable?, (resizable = true ↔ object.children ≠ [])) :
    ∀ resizable ∈ taken.resizable?, (resizable = true ↔ taken.children ≠ []) := by
  cases takes with
  | content _ => simp [Object.resizable?, Object.children, Body.children]
  | @adopted body _ _ => cases body <;> exact scroll
  | _ => simp [Object.resizable?]

theorem mirrors {slots : List Slot} {above : Option String} {declared : Item}
    (takes : Takes heap label strategy slot object taken)
    (mirrors : object.Mirrors heap slots above declared) :
    taken.Mirrors heap (slots ++ [slot]) above declared where
  className := takes.className_eq.trans mirrors.className
  text := takes.text?_eq.trans mirrors.text
  box := by
    rw [takes.isBox_eq]
    intro box
    obtain ⟨children, layout⟩ := takes.box_gains box
    obtain ⟨children', layout'⟩ := mirrors.box box
    exact ⟨by rw [children, children'], layout.trans layout'⟩
  fits := by
    rw [takes.isBox_eq]
    intro notBox other member
    rcases List.mem_append.1 member with earlier | last
    · exact mirrors.fits notBox other earlier
    · rw [List.mem_singleton.1 last]
      exact (takes.gains notBox).imp And.left And.left
  layout := by
    rw [takes.isBox_eq]
    intro notBox
    have before := mirrors.layout notBox
    rw [List.filter_append, ← before]
    rcases takes.gains notBox with ⟨kind, none, some, -⟩ | ⟨kind, same, -⟩
    · simp [none, some, kind]
    · simp [same, kind]
  children := by
    rw [takes.isBox_eq]
    intro notBox
    have before := mirrors.children notBox
    rw [List.filter_append, ← before]
    rcases takes.gains notBox with ⟨kind, -, -, same⟩ | ⟨kind, -, children⟩
    · simp [same, kind]
    · simp [children, kind]
  flat := by
    rw [takes.orientation?_eq]
    exact mirrors.flat
  scroll := takes.scroll_taken mirrors.scroll

theorem tabPages_eq (takes : Takes heap label strategy slot object taken) :
    taken.tabPages = object.tabPages ++
      if strategy = .addTab then slot.object?.toList.map (label, ·) else [] := by
  cases takes with
  | @adopted body _ _ => cases body <;> simp [Object.tabPages]
  | tab _ => rfl
  | _ => rfl

end Takes

namespace Object

theorem view_laidFlat {α : Type} (view : Object → α)
    (blind : ∀ adopted orientation,
      view (.widget adopted (.slider .horizontal)) = view (.widget adopted (.slider orientation)))
    (object : Object) : view object.laidFlat = view object := by
  cases object with
  | widget adopted body =>
    cases body with
    | slider orientation => exact blind adopted orientation
    | _ => rfl
  | _ => rfl

end Object

theorem Heap.Plain.layFlat {heap : Heap} (plain : heap.Plain) (id : ObjectId) :
    (heap.update id Object.laidFlat).Plain := by
  intro other found eq
  obtain ⟨before, found', rfl | rfl⟩ := exists_of_get?_update eq
  · exact plain other _ found'
  · rw [Object.view_laidFlat Object.Plain fun _ _ => rfl]
    exact plain other before found'

namespace Object

theorem orientation?_laidFlat (object : Object) :
    ∀ orientation ∈ object.laidFlat.orientation?, orientation = .horizontal := by
  intro orientation member
  cases object with
  | widget adopted body =>
    cases body with
    | slider _ => exact (Option.some.inj member).symm
    | _ => cases member
  | _ => cases member

variable {heap heap' : Heap} {object : Object} {slots : List Slot} {declared : Item}

theorem Mirrors.laidFlat {above : Option String}
    (mirrors : object.Mirrors heap slots above declared) :
    object.laidFlat.Mirrors heap slots (some "QHBoxLayout") declared where
  className := (view_laidFlat Object.className (fun _ _ => rfl) object).trans mirrors.className
  text := (view_laidFlat Object.text? (fun _ _ => rfl) object).trans mirrors.text
  box := by
    rw [view_laidFlat Object.isBox (fun _ _ => rfl), view_laidFlat Object.children (fun _ _ => rfl),
      view_laidFlat Object.layout? (fun _ _ => rfl)]
    exact mirrors.box
  fits := by
    rw [view_laidFlat Object.isBox (fun _ _ => rfl)]
    exact mirrors.fits
  layout := by
    rw [view_laidFlat Object.isBox (fun _ _ => rfl), view_laidFlat Object.layout? (fun _ _ => rfl)]
    exact mirrors.layout
  children := by
    rw [view_laidFlat Object.isBox (fun _ _ => rfl), view_laidFlat Object.children (fun _ _ => rfl)]
    exact mirrors.children
  flat := fun orientation member =>
    iff_of_true (orientation?_laidFlat object orientation member) rfl
  scroll := by
    rw [view_laidFlat Object.resizable? (fun _ _ => rfl), view_laidFlat Object.children (fun _ _ => rfl)]
    exact mirrors.scroll

theorem Mirrors.above {above : Option String} (mirrors : object.Mirrors heap slots none declared)
    (notRow : above ≠ some "QHBoxLayout") : object.Mirrors heap slots above declared :=
  { mirrors with
    flat := fun orientation member => by
      rw [mirrors.flat orientation member]
      simp [notRow] }

theorem Mirrors.congr {above : Option String} (mirrors : object.Mirrors heap slots above declared)
    (same : ∀ slot ∈ slots, slot.kind? heap' = slot.kind? heap) :
    object.Mirrors heap' slots above declared where
  className := mirrors.className
  text := mirrors.text
  box := mirrors.box
  fits := by
    intro notBox slot member
    rw [same slot member]
    exact mirrors.fits notBox slot member
  layout := by
    intro notBox
    rw [mirrors.layout notBox]
    exact List.filter_congr fun slot member => by rw [same slot member]
  children := by
    intro notBox
    rw [mirrors.children notBox]
    exact List.filter_congr fun slot member => by rw [same slot member]
  flat := mirrors.flat
  scroll := mirrors.scroll

end Object

end WidgetOutline
