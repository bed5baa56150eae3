import WidgetOutline.Registry.Basic
import WidgetOutline.Proofs.Text.Blank
import WidgetOutline.Proofs.Text.Lines

namespace WidgetOutline
open Text

theorem tidy_of_spaced {line : List Char} (spaced : ∀ c ∈ line, isBlank c = false ∨ c = ' ') :
    Tidy line := by
  constructor
  · intro feed
    exact absurd (spaced _ feed) (by decide)
  · intro return_
    exact absurd (spaced _ (List.mem_of_getLast? return_)) (by decide)

namespace Registry

variable {registry : Registry} {heap : Heap}

def classColumn (registry : Registry) : Nat :=
  (registry.entries.map (·.path.length)).max?.getD 0 + dumpGutter

def row (registry : Registry) (heap : Heap) (entry : Entry) : String :=
  padded registry.classColumn entry.path ++ heap.classOf entry.object

structure Plain (registry : Registry) (heap : Heap) : Prop where
  paths : ∀ entry ∈ registry.entries, IsWord entry.path.toList
  classes : ∀ entry ∈ registry.entries, IsWord (heap.classOf entry.object).toList

end Registry

end WidgetOutline
