import WidgetOutline.Widget.Object

/-!
# The heap of objects

Objects refer to each other by identity, so their states live in a heap.  `Heap.perform` carries
out a call: the object it is made on answers out of its own state and the kinds and classes of the
others, and only a row changes an object besides itself, by turning the widget it takes.
-/

namespace WidgetOutline

structure Heap where
  objects : Array Object
  deriving DecidableEq

namespace Heap

def empty : Heap := ⟨#[]⟩

def get? (heap : Heap) (id : ObjectId) : Option Object := heap.objects[id.index]?

def put (heap : Heap) (id : ObjectId) (object : Object) : Heap :=
  ⟨heap.objects.setIfInBounds id.index object⟩

def add (heap : Heap) (object : Object) : ObjectId × Heap :=
  (⟨heap.objects.size⟩, ⟨heap.objects.push object⟩)

def kindOf (heap : Heap) (id : ObjectId) : Kind := ((heap.get? id).map Object.kind).getD .other

def classOf (heap : Heap) (id : ObjectId) : String :=
  ((heap.get? id).map Object.className).getD ""

theorem get?_put (heap : Heap) (id other : ObjectId) (object : Object) :
    (heap.put id object).get? other =
      if id = other then (heap.get? id).map fun _ => object else heap.get? other := by
  obtain ⟨i⟩ := id
  obtain ⟨j⟩ := other
  simp only [get?, put, Array.getElem?_setIfInBounds, ObjectId.mk.injEq]
  split
  · subst_vars
    split
    · rename_i inBounds
      rw [Array.getElem?_eq_getElem inBounds]
      rfl
    · rename_i outside
      rw [Array.getElem?_eq_none (Nat.le_of_not_lt outside)]
      rfl
  · rfl

theorem get?_add (heap : Heap) (object : Object) (id : ObjectId) :
    (heap.add object).2.get? id =
      if id = (heap.add object).1 then some object else heap.get? id := by
  obtain ⟨i⟩ := id
  simp [get?, add, Array.getElem?_push]

def expectKind (heap : Heap) (child : ObjectId) (expected : Kind) (method : Method) :
    Except Refusal Unit :=
  if heap.kindOf child = expected then .ok ()
  else .error (.wrongKind method expected (heap.classOf child))

def adopt (heap : Heap) (adopted : Option ObjectId) (child : ObjectId) :
    Except Refusal ObjectId := do
  heap.expectKind child .layout .setLayout
  match adopted with
  | some existing => throw (.hasLayout (heap.classOf existing))
  | none => return child

def rearrange (heap : Heap) : Arrangement → Call → Except Refusal Arrangement
  | .box direction slots, .addLayout child => do
    heap.expectKind child .layout .addLayout
    return .box direction (slots ++ [.object child])
  | .box direction slots, .addWidget child => do
    heap.expectKind child .widget .addWidget
    return .box direction (slots ++ [.object child])
  | .box direction slots, .addStretch => return .box direction (slots ++ [.stretch])
  | .stack pages, .addWidget child => do
    heap.expectKind child .widget .addWidget
    return .stack (pages ++ [child])
  | _, _ => throw .unsupported

def refill (heap : Heap) : Body → Call → Except Refusal Body
  | .group _, .setTitle title => return .group (some title)
  | .splitter panes, .addWidget child => do
    heap.expectKind child .widget .addWidget
    return .splitter (panes ++ [child])
  | .stack pages, .addWidget child => do
    heap.expectKind child .widget .addWidget
    return .stack (pages ++ [child])
  | .tabs pages, .addTab child label => do
    heap.expectKind child .widget .addTab
    return .tabs (pages ++ [(label, child)])
  | .scroll content resizable, .setWidget child => do
    heap.expectKind child .widget .setWidget
    match content with
    | some existing => throw (.hasContent (heap.classOf existing))
    | none => return .scroll (some child) resizable
  | .scroll content _, .setWidgetResizable resizable => return .scroll content resizable
  | .caption className _, .setText text => return .caption className (some text)
  | .slider _, .setOrientation orientation => return .slider orientation
  | _, _ => throw .unsupported

def answer (heap : Heap) : Object → Call → Except Refusal Object
  | .layout arrangement, call => (heap.rearrange arrangement call).map .layout
  | .widget adopted body, .setLayout child =>
    (heap.adopt adopted child).map fun layout => .widget (some layout) body
  | .widget adopted body, call => (heap.refill body call).map (.widget adopted)
  | .inert _, _ => .error .unsupported
  | .scripted script calls, call =>
    (script.answer call.method).map fun _ => .scripted script (calls ++ [call])

def afterRefusal : Object → Call → Object
  | .scripted script calls, call => .scripted script (calls ++ [call])
  | object, _ => object

def deliver (heap : Heap) (target : ObjectId) (call : Call) : Except Refusal Unit × Heap :=
  match heap.get? target with
  | none => (.error .unsupported, heap)
  | some object =>
    match heap.answer object call with
    | .ok after => (.ok (), heap.put target after)
    | .error refusal => (.error refusal, heap.put target (afterRefusal object call))

/-- A row lays flat every widget it takes, if that can be turned at all. -/
def turnTaken (heap : Heap) (target : ObjectId) : Call → Heap
  | .addWidget child =>
    if (heap.get? target).any Object.isRow then
      (heap.deliver child (.setOrientation .horizontal)).2
    else heap
  | _ => heap

def perform (heap : Heap) (target : ObjectId) (call : Call) : Except Refusal Unit × Heap :=
  match heap.deliver target call with
  | (.ok (), after) => (.ok (), after.turnTaken target call)
  | (.error refusal, after) => (.error refusal, after)

end Heap

end WidgetOutline
