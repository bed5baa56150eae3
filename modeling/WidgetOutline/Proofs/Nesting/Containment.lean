import WidgetOutline.Proofs.Nesting.Wholeness

namespace WidgetOutline
open Relation

section

variable {α : Type} {r r' : α → α → Prop} {first last a b : α}

theorem transGen_of_pair (gains : ∀ a b, r' a b → r a b ∨ (a = first ∧ b = last))
    (path : TransGen r' a b) :
    TransGen r a b ∨ (ReflTransGen r a first ∧ ReflTransGen r last b) := by
  induction path with
  | single edge =>
    rcases gains _ _ edge with old | ⟨rfl, rfl⟩
    · exact .inl (.single old)
    · exact .inr ⟨.refl, .refl⟩
  | tail _ edge ih =>
    rcases gains _ _ edge with old | ⟨rfl, rfl⟩
    · exact ih.imp (·.tail old) fun ⟨before, after⟩ => ⟨before, after.tail old⟩
    · rcases ih with path | ⟨before, -⟩
      · exact .inr ⟨path.to_reflTransGen, .refl⟩
      · exact .inr ⟨before, .refl⟩

theorem acyclic_pair_iff (gains : ∀ a b, r' a b ↔ r a b ∨ (a = first ∧ b = last))
    (different : first ≠ last) :
    (∀ a, ¬TransGen r' a a) ↔ (∀ a, ¬TransGen r a a) ∧ ¬TransGen r last first := by
  have grows : ∀ a b, r a b → r' a b := fun a b old => (gains a b).2 (.inl old)
  have new : r' first last := (gains first last).2 (.inr ⟨rfl, rfl⟩)
  refine ⟨fun acyclic => ⟨fun a loop => acyclic a (TransGen.mono grows _ _ loop), fun path => ?_⟩, ?_⟩
  · exact acyclic first (.head new (TransGen.mono grows _ _ path))
  · rintro ⟨acyclic, unreached⟩ a loop
    rcases transGen_of_pair (fun a b => (gains a b).1) loop with old | ⟨before, after⟩
    · exact acyclic a old
    · rcases reflTransGen_iff_eq_or_transGen.1 (after.trans before) with same | path
      · exact different same
      · exact unreached path

end

def Object.Holds (object : Object) (held : ObjectId) : Prop :=
  object.layout? = some held ∨ .object held ∈ object.children

theorem Object.holds_laidFlat (object : Object) (held : ObjectId) :
    object.laidFlat.Holds held ↔ object.Holds held := by
  unfold Holds
  rw [view_laidFlat layout? fun _ _ => rfl, view_laidFlat children fun _ _ => rfl]

theorem Object.Received.holds_iff {strategy : Strategy} {label : String} {slot : Slot}
    {before after : Object} (received : before.Received strategy label slot after)
    (held : ObjectId) : after.Holds held ↔ before.Holds held ∨ slot = .object held := by
  unfold Holds
  by_cases adopts : strategy = .setLayout
  · obtain ⟨first, adopted, children⟩ := received.layout adopts
    obtain ⟨child, layout, rfl⟩ := Option.map_eq_some_iff.1 adopted
    simp [first, layout, children, or_comm]
  · obtain ⟨layout, children⟩ := received.child adopts
    simp [layout, children, or_assoc, eq_comm]

namespace Heap

def Holds (heap : Heap) (holder held : ObjectId) : Prop :=
  ∃ object, heap.get? holder = some object ∧ object.Holds held

def Contains (heap : Heap) : ObjectId → ObjectId → Prop := TransGen heap.Holds

def Acyclic (heap : Heap) : Prop := ∀ id, ¬heap.Contains id id

variable {heap : Heap} {holder held : ObjectId}

theorem holds_iff {object : Object} (found : heap.get? holder = some object) :
    heap.Holds holder held ↔ object.Holds held := by
  simp [Holds, found]

end Heap

theorem Scene.Received.holds_iff {strategy : Strategy} {child : Child} {parent : ObjectId}
    {before after : Scene} (received : before.Received strategy child parent after)
    (different : child ≠ .object parent) (holder held : ObjectId) :
    after.heap.Holds holder held ↔
      before.heap.Holds holder held ∨ (holder = parent ∧ child = .object held) := by
  by_cases onParent : holder = parent
  · subst onParent
    obtain ⟨object, taken, found, found', gains⟩ := received.received
    rw [Heap.holds_iff found', gains.holds_iff, Heap.holds_iff found, Child.slot_eq_object_iff]
    simp
  · simp only [onParent, false_and, or_false]
    by_cases onChild : child = .object holder
    · have laid := received.laid holder onChild
      unfold Heap.Holds
      rw [laid]
      split
      · simp [Object.holds_laidFlat]
      · rfl
    · unfold Heap.Holds
      rw [received.others holder onParent onChild]

structure Addition where
  child : Child
  name : String
  parent : ObjectId

namespace Scene

def add (scene : Scene) (addition : Addition) : Scene :=
  (attach addition.child addition.name addition.parent scene).2

def addAll (scene : Scene) (additions : List Addition) : Scene := additions.foldl add scene

/-- The attempt works and puts an object into one that it contains. -/
def ClosesLoop (scene : Scene) (addition : Addition) : Prop :=
  ∃ id strategy, addition.child = .object id ∧ scene.heap.Contains id addition.parent ∧
    (attach addition.child addition.name addition.parent scene).1 = .ok strategy

variable {scene : Scene}

theorem acyclic_add_iff (plain : scene.heap.Plain) (addition : Addition) :
    (scene.add addition).heap.Acyclic ↔
      scene.heap.Acyclic ∧ ¬scene.ClosesLoop addition := by
  obtain ⟨child, name, parent⟩ := addition
  unfold add ClosesLoop
  dsimp only
  cases attached : attach child name parent scene with
  | mk outcome done =>
    cases outcome with
    | error error => simp [(attach_unchanged plain attached).1]
    | ok strategy =>
      have different := (attach_ok plain attached).1
      have holds := (attach_received plain attached).holds_iff different
      cases child with
      | stretch =>
        have same : done.heap.Holds = scene.heap.Holds := by
          funext holder held
          simp [holds]
        simp [Heap.Acyclic, Heap.Contains, same]
      | object id =>
        have apart : parent ≠ id := fun same => different (congrArg Child.object same.symm)
        have gains : ∀ holder held, done.heap.Holds holder held ↔
            scene.heap.Holds holder held ∨ (holder = parent ∧ held = id) := by
          intro holder held
          rw [holds, Child.object.injEq, eq_comm (a := held)]
        simpa [Heap.Acyclic, Heap.Contains] using acyclic_pair_iff gains apart

theorem sound_add (sound : scene.heap.Sound) (addition : Addition) :
    (scene.add addition).heap.Sound := (sound.attach ..).1

theorem acyclic_addAll_of_sound (sound : scene.heap.Sound) (additions : List Addition) :
    (scene.addAll additions).heap.Acyclic ↔ scene.heap.Acyclic ∧
      ∀ before addition later, additions = before ++ addition :: later →
        ¬(scene.addAll before).ClosesLoop addition := by
  induction additions generalizing scene with
  | nil => simp [addAll]
  | cons addition additions ih =>
    rw [addAll, List.foldl_cons, ← addAll, ih (sound_add sound addition),
      acyclic_add_iff sound.plain, and_assoc]
    apply and_congr_right
    intro _
    constructor
    · rintro ⟨first, others⟩ before other later split
      rcases List.cons_eq_append_iff.1 split with ⟨rfl, same⟩ | ⟨before, rfl, rfl⟩
      · cases same
        exact first
      · exact others before other later rfl
    · intro all
      refine ⟨all [] addition additions rfl, fun before other later split => ?_⟩
      exact all (addition :: before) other later (congrArg _ split)

end Scene

def Heap.AllNew (heap : Heap) : Prop :=
  ∀ id object, heap.get? id = some object →
    ∃ className, initialOf builtinClasses className = .ok object

namespace Heap.AllNew

variable {heap : Heap}

theorem bare (new : heap.AllNew) {id : ObjectId} {object : Object}
    (found : heap.get? id = some object) :
    object.Plain ∧ object.layout? = none ∧ object.children = [] := by
  obtain ⟨className, initial⟩ := new id object found
  obtain ⟨entry, member, -, first⟩ := entry_of_initialOf initial
  exact initial_bare entry member object first

theorem sound (new : heap.AllNew) : heap.Sound where
  plain := fun _ _ found => (new.bare found).1
  sound := fun _ _ found => by
    obtain ⟨-, layout, children⟩ := new.bare found
    exact Object.Fits.sound ⟨by simp [layout], by simp [children], by simp [children]⟩

theorem not_contains (new : heap.AllNew) (holder held : ObjectId) :
    ¬heap.Contains holder held := by
  intro path
  obtain ⟨first, ⟨object, found, holds⟩, -⟩ := TransGen.head'_iff.1 path
  obtain ⟨-, layout, children⟩ := new.bare found
  simp [Object.Holds, layout, children] at holds

theorem acyclic (new : heap.AllNew) : heap.Acyclic := fun id => new.not_contains id id

end Heap.AllNew

theorem acyclic_addAll_iff {scene : Scene} (new : scene.heap.AllNew) (additions : List Addition) :
    (scene.addAll additions).heap.Acyclic ↔
      ∀ before addition later, additions = before ++ addition :: later →
        ¬(scene.addAll before).ClosesLoop addition := by
  rw [Scene.acyclic_addAll_of_sound new.sound, and_iff_right new.acyclic]

def columnAndRow : Scene :=
  .start ⟨#[.layout (.box .topToBottom []), .layout (.box .leftToRight [])]⟩

def rowIntoColumn : Addition := ⟨.object ⟨1⟩, "row", ⟨0⟩⟩

def columnIntoRow : Addition := ⟨.object ⟨0⟩, "column", ⟨1⟩⟩

theorem allNew_columnAndRow : columnAndRow.heap.AllNew := by
  rintro ⟨_ | _ | index⟩ object found
  · cases found
    exact ⟨"QVBoxLayout", rfl⟩
  · cases found
    exact ⟨"QHBoxLayout", rfl⟩
  · cases found

theorem acyclic_addAll_iff_boxes :
    columnAndRow.heap.AllNew ∧ (columnAndRow.addAll [rowIntoColumn]).heap.Acyclic ∧
      ¬(columnAndRow.addAll [rowIntoColumn, columnIntoRow]).heap.Acyclic := by
  have new := allNew_columnAndRow
  refine ⟨new, (acyclic_addAll_iff new _).2 ?_, fun acyclic => ?_⟩
  · intro before addition later split
    rcases List.cons_eq_append_iff.1 split with ⟨rfl, same⟩ | ⟨before, rfl, none⟩
    · cases same
      rintro ⟨id, strategy, -, contains, -⟩
      exact new.not_contains _ _ contains
    · simp at none
  · refine (acyclic_addAll_iff new _).1 acyclic [rowIntoColumn] columnIntoRow [] rfl ?_
    exact ⟨⟨0⟩, .addLayout, rfl, .single ⟨_, rfl, .inr List.mem_cons_self⟩, rfl⟩

theorem not_acyclic_addAll :
    ¬∀ (scene : Scene) (additions : List Addition), scene.heap.AllNew →
      (scene.addAll additions).heap.Acyclic := by
  intro claim
  have acyclic := claim columnAndRow [rowIntoColumn, columnIntoRow] allNew_columnAndRow
  exact acyclic ⟨0⟩ (.tail (.single ⟨_, rfl, .inr List.mem_cons_self⟩)
    ⟨_, rfl, .inr List.mem_cons_self⟩)

end WidgetOutline
