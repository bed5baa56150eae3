import WidgetOutline.Toolkit.Basic

namespace WidgetOutline

structure Pool where
  filed : List (String × ObjectId)

namespace Pool

def empty : Pool := ⟨[]⟩

def insert (pool : Pool) (reference : String) (id : ObjectId) : Pool :=
  ⟨pool.filed ++ [(reference, id)]⟩

def size (pool : Pool) : Nat := pool.filed.length

def find (pool : Pool) (heap : Heap) (className reference : String) : List ObjectId :=
  (pool.filed.filter fun (name, id) => name == reference && heap.classOf id == className).map
    (·.2)

def finder (pool : Pool) : Finder := .searching pool.find

end Pool

end WidgetOutline
