import WidgetOutline.Registry.Basic
import WidgetOutline.Text.Quoted

namespace WidgetOutline

structure Hierarchy where
  registry : Registry
  nonempty : registry.entries ≠ []

namespace Hierarchy

def ofRegistry? (registry : Registry) : Option Hierarchy :=
  if h : registry.entries ≠ [] then some ⟨registry, h⟩ else none

def entries (hierarchy : Hierarchy) : List Entry := hierarchy.registry.entries

def size (hierarchy : Hierarchy) : Nat := hierarchy.registry.size

def first (hierarchy : Hierarchy) : ObjectId :=
  (hierarchy.registry.entries.head hierarchy.nonempty).object

def at? (hierarchy : Hierarchy) (name : String) : Except RegistryError ObjectId :=
  hierarchy.registry.lookup name

def paths (hierarchy : Hierarchy) : List String := hierarchy.entries.map (·.path)

def provenance? (hierarchy : Hierarchy) (path : String) : Option Provenance :=
  hierarchy.registry.provenanceOf? path

def dump (hierarchy : Hierarchy) (heap : Heap) : String := hierarchy.registry.dump heap

def summary (hierarchy : Hierarchy) : String :=
  "[" ++ ", ".intercalate (hierarchy.paths.map Text.quoted) ++ "]"

end Hierarchy

end WidgetOutline
