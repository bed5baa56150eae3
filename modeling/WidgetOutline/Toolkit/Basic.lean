import WidgetOutline.Widget.Heap

namespace WidgetOutline

inductive ConstructError where
  | unknown (className : String)
  | failed (reason : String)
  deriving DecidableEq

def ConstructError.message : ConstructError → String
  | unknown className => s!"no class named '{className}' in the toolkit"
  | failed reason => reason

structure Toolkit where
  construct : String → Heap → Except ConstructError ObjectId × Heap
  classNames : List String

structure ClassEntry where
  name : String
  initial : Except ConstructError Object

def initialOf (table : List ClassEntry) (className : String) : Except ConstructError Object :=
  match table.find? (·.name == className) with
  | some entry => entry.initial
  | none => .error (.unknown className)

def Toolkit.ofTable (table : List ClassEntry) : Toolkit where
  construct className heap :=
    match initialOf table className with
    | .ok object =>
      let (id, after) := heap.add object
      (.ok id, after)
    | .error error => (.error error, heap)
  classNames := table.map (·.name)

inductive Finder where
  | unsupported
  | searching (find : Heap → (className reference : String) → List ObjectId)

end WidgetOutline
