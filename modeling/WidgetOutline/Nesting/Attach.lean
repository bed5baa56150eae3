import WidgetOutline.Scene
import WidgetOutline.Widget.Caption

/-!
# Attaching children

A child is put into its parent by the first strategy that the parent accepts; `attach` tries them
in a fixed order and says what each of them was refused for if none works.  `attachNamed` looks the
child up by its name and takes an unknown name for displayed text.
-/

namespace WidgetOutline

inductive Child where
  | object (id : ObjectId)
  | stretch
  deriving DecidableEq

namespace Child

def className (heap : Heap) : Child → String
  | object id => heap.classOf id
  | stretch => "stretch"

def strategies : Child → List Strategy
  | object _ => [.addLayout, .setLayout, .addWidget, .addTab, .setWidget]
  | stretch => [.addStretch]

end Child

inductive AttachError where
  | noStrategy (child childClass parentClass : String) (tried : List (Strategy × Refusal))
  | selfAttach (child : String)
  | cannotSetText (error : CannotSetText)
  | lookup (error : RegistryError)
  deriving DecidableEq

def AttachError.message : AttachError → String
  | noStrategy child childClass parentClass tried =>
    s!"Could not add this child: <{child}> to its parent. " ++
      s!"The child is a: <{childClass}>. The parent is a: <{parentClass}>. " ++
      "None of the following addition methods worked: " ++
      ", ".intercalate (tried.map fun (strategy, refusal) =>
        s!"{strategy.name} ({refusal.message})")
  | selfAttach child => s!"Cannot add <{child}> to itself."
  | cannotSetText error => error.message
  | lookup error => error.message

/-- Makes a child the content of its parent and lets it follow the size of the viewport.  A parent
that has no such property is not asked to take the child. -/
def setResizableContent (heap : Heap) (parent child : ObjectId) : Except Refusal Unit × Heap :=
  match (heap.get? parent).bind Object.resizable? with
  | none => (.error .unsupported, heap)
  | some _ =>
    match heap.perform parent (.setWidget child) with
    | (.error refusal, after) => (.error refusal, after)
    | (.ok (), after) =>
      match after.perform parent (.setWidgetResizable true) with
      | (.ok (), done) => (.ok (), done)
      | (.error _, done) => (.error .notResizable, done)

def Strategy.perform (parent : ObjectId) (label : String) (heap : Heap) :
    Strategy → Child → Except Refusal Unit × Heap
  | addLayout, .object child => heap.perform parent (.addLayout child)
  | setLayout, .object child => heap.perform parent (.setLayout child)
  | addWidget, .object child => heap.perform parent (.addWidget child)
  | addTab, .object child => heap.perform parent (.addTab child label)
  | setWidget, .object child => setResizableContent heap parent child
  | addStretch, .stretch => heap.perform parent .addStretch
  | _, _ => (.error .unsupported, heap)

def TabLabels.after (tabs : TabLabels) : Strategy → TabLabels
  | .addTab => tabs.advance
  | _ => tabs

def attachBy (child : Child) (name : String) (parent : ObjectId) :
    List Strategy → List (Strategy × Refusal) → Scene → Except AttachError Strategy × Scene
  | [], tried, scene =>
    (.error (.noStrategy name (child.className scene.heap) (scene.heap.classOf parent) tried),
      scene)
  | strategy :: later, tried, scene =>
    match strategy.perform parent scene.tabs.next scene.heap child with
    | (.ok (), heap) =>
      let after := { scene with heap, tabs := scene.tabs.after strategy }
      (.ok strategy, after.record (.attached name strategy (heap.classOf parent)))
    | (.error refusal, heap) =>
      let after := { scene with heap }
      attachBy child name parent later (tried ++ [(strategy, refusal)])
        (after.record (.refused name strategy refusal))

def attach (child : Child) (name : String) (parent : ObjectId) (scene : Scene) :
    Except AttachError Strategy × Scene :=
  if child = .object parent then (.error (.selfAttach name), scene)
  else attachBy child name parent child.strategies [] scene

inductive Attachment where
  | nested (strategy : Strategy)
  | captioned (setter : TextSetter)
  deriving DecidableEq

/-- Attaches the registered object with a name; a name that is not registered becomes the
displayed text of the parent. -/
def attachNamed (registry : Registry) (name : String) (parent : ObjectId) (scene : Scene) :
    Except AttachError Attachment × Scene :=
  match registry.lookup name with
  | .ok object =>
    match attach (.object object) name parent scene with
    | (.ok strategy, after) => (.ok (.nested strategy), after)
    | (.error error, after) => (.error error, after)
  | .error (.notFound _) =>
    match scene.heap.applyText parent (captionOfName name) with
    | (.ok setter, heap) => (.ok (.captioned setter), { scene with heap })
    | (.error error, heap) => (.error (.cannotSetText error), { scene with heap })
  | .error error => (.error (.lookup error), scene)

end WidgetOutline
