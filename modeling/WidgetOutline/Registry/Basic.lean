import WidgetOutline.Registry.Path
import WidgetOutline.Widget.Heap

/-!
# The registry

Every object of a hierarchy with its path, in the order of registration.  Names are unique in the
whole registry, not only among siblings, and no object is registered twice.  An index gives the
place of the entry that a name was registered for, and never a place where no entry is.
-/

namespace WidgetOutline

structure Provenance where
  line : Nat
  origin : String
  deriving DecidableEq

def Provenance.description (provenance : Provenance) : String :=
  s!"line {provenance.line} of {provenance.origin}"

structure Entry where
  path : String
  object : ObjectId
  provenance : Provenance
  deriving DecidableEq

namespace Entry

def depth (entry : Entry) : Nat := Path.depth entry.path

def name (entry : Entry) : String := Path.lastSegment entry.path

end Entry

inductive RegistryError where
  | duplicate (name path : String) (first again : Provenance)
  | notFound (suffix : String)
  | ambiguous (suffix : String) (paths : List String)
  | alreadyRegistered (path : String)
  | noParent (depth : Nat)
  deriving DecidableEq

def RegistryError.message : RegistryError → String
  | duplicate name path first again =>
    s!"The name <{name}> is used more than once. " ++
      "Names must be unique in the whole hierarchy. " ++
      s!"First used at {first.description}, used again for <{path}> at {again.description}."
  | notFound suffix => s!"Nothing in the hierarchy is called <{suffix}>."
  | ambiguous suffix paths =>
    s!"More than one item in the hierarchy ends with <{suffix}>: " ++ ", ".intercalate paths ++
      "."
  | alreadyRegistered path => s!"That object is already in the hierarchy, at <{path}>."
  | noParent depth => s!"Nothing at depth {depth} to act as parent."

structure Registry where
  entries : List Entry
  /-- The names that are taken, each with the place of its entry; the first one of a name counts. -/
  index : List (String × Nat)
  located : ∀ name place, index.lookup name = some place → place < entries.length
  deriving DecidableEq

namespace Registry

def empty : Registry where
  entries := []
  index := []
  located := by simp

def size (registry : Registry) : Nat := registry.entries.length

def find? (registry : Registry) (name : String) : Option Entry :=
  match taken : registry.index.lookup name with
  | some place => some (registry.entries.get ⟨place, registry.located name place taken⟩)
  | none => none

theorem find?_eq (registry : Registry) (name : String) :
    registry.find? name = (registry.index.lookup name).bind (registry.entries[·]?) := by
  unfold find?
  split
  · rename_i place taken
    have inside := registry.located name place taken
    simp only [taken, Option.bind_some, List.getElem?_eq_getElem inside, List.get_eq_getElem]
  · rename_i free
    rw [free, Option.bind_none]

def pathOf? (registry : Registry) (object : ObjectId) : Option String :=
  (registry.entries.find? (·.object == object)).map (·.path)

def latestAtDepth? (registry : Registry) (depth : Nat) : Option Entry :=
  registry.entries.reverse.find? (·.depth == depth)

def currentDepth (registry : Registry) : Nat :=
  (registry.entries.getLast?.map Entry.depth).getD 1

def lookup (registry : Registry) (suffix : String) : Except RegistryError ObjectId :=
  match registry.entries.filter (Path.matchesSuffix ·.path suffix) with
  | [] => .error (.notFound suffix)
  | [entry] => .ok entry.object
  | several => .error (.ambiguous suffix (several.map (·.path)))

def provenanceOf? (registry : Registry) (path : String) : Option Provenance :=
  (registry.entries.find? (·.path == path)).map (·.provenance)

def checkAvailable (registry : Registry) (object : ObjectId) (name path : String)
    (provenance : Provenance) : Except RegistryError Unit :=
  match registry.find? name with
  | some taken => .error (.duplicate name path taken.provenance provenance)
  | none =>
    match registry.pathOf? object with
    | some existing => .error (.alreadyRegistered existing)
    | none => .ok ()

def push (registry : Registry) (name : String) (entry : Entry) : Registry where
  entries := registry.entries ++ [entry]
  index := (name, registry.entries.length) :: registry.index
  located := by
    intro other place found
    rw [List.lookup_cons] at found
    rw [List.length_append, List.length_singleton]
    split at found
    · cases found
      exact Nat.lt_succ_self _
    · exact Nat.lt_succ_of_lt (registry.located other place found)

theorem entries_push (registry : Registry) (name : String) (entry : Entry) :
    (registry.push name entry).entries = registry.entries ++ [entry] := rfl

theorem lookup_push (registry : Registry) (name other : String) (entry : Entry) :
    (registry.push name entry).index.lookup other =
      if other = name then some registry.entries.length else registry.index.lookup other := by
  rw [push, List.lookup_cons]
  by_cases same : other = name
  · simp [same]
  · simp [same, beq_false_of_ne same]

theorem latestAtDepth?_push (registry : Registry) (name : String) (entry : Entry) (depth : Nat) :
    (registry.push name entry).latestAtDepth? depth =
      if entry.depth = depth then some entry else registry.latestAtDepth? depth := by
  rw [latestAtDepth?, entries_push, List.reverse_append, List.reverse_singleton,
    List.singleton_append, List.find?_cons]
  by_cases same : entry.depth = depth
  · simp [same]
  · simp [same, beq_false_of_ne same, latestAtDepth?]

theorem currentDepth_push (registry : Registry) (name : String) (entry : Entry) :
    (registry.push name entry).currentDepth = entry.depth := by
  rw [currentDepth, entries_push, List.getLast?_concat, Option.map_some, Option.getD_some]

def insert (registry : Registry) (object : ObjectId) (name path : String)
    (provenance : Provenance) : Except RegistryError Registry :=
  match registry.checkAvailable object name path provenance with
  | .error error => .error error
  | .ok () => .ok (registry.push name { path, object, provenance })

def registerTopLevel (registry : Registry) (object : ObjectId) (name : String)
    (provenance : Provenance) : Except RegistryError Registry :=
  registry.insert object name name provenance

def registerChild (registry : Registry) (object : ObjectId) (parentPath name : String)
    (provenance : Provenance) : Except RegistryError Registry :=
  registry.insert object name (Path.child parentPath name) provenance

def dumpGutter : Nat := 4

def padded (width : Nat) (text : String) : String :=
  text ++ String.ofList (List.replicate (width - text.length) ' ')

def dump (registry : Registry) (heap : Heap) : String :=
  let width := (registry.entries.map (·.path.length)).max?.getD 0 + dumpGutter
  String.join (registry.entries.map fun entry =>
    padded width entry.path ++ heap.classOf entry.object ++ "\n")

end Registry

end WidgetOutline
