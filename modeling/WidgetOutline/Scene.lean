import WidgetOutline.Event

namespace WidgetOutline

structure Scene where
  heap : Heap
  tabs : TabLabels
  log : Array Event

namespace Scene

def start (heap : Heap) : Scene where
  heap
  tabs := .start
  log := #[]

def record (scene : Scene) (event : Event) : Scene :=
  { scene with log := scene.log.push event }

end Scene

end WidgetOutline
