import WidgetOutline.Build.Error
import WidgetOutline.Hierarchy
import WidgetOutline.Source
import WidgetOutline.Toolkit.Builtin

/-!
# Building

Builds the hierarchy that a source declares, line by line.  Indentation is checked first, then the
object of an item is supplied, its name is checked before its parent is touched, and after it is
attached it is registered below the parent.  The parent of a line is the last entry one level
above it.
-/

namespace WidgetOutline

structure Builder where
  toolkit : Toolkit
  finder : Finder

def Builder.builtin : Builder where
  toolkit := .builtin
  finder := .unsupported

structure Pass where
  scene : Scene
  registry : Registry
  stretchDepth : Option Nat

namespace Pass

def start (heap : Heap) : Pass where
  scene := .start heap
  registry := .empty
  stretchDepth := none

def withHeap (pass : Pass) (heap : Heap) : Pass :=
  { pass with scene := { pass.scene with heap } }

def checkDepth (pass : Pass) (depth : Nat) : Except BuildFault Unit :=
  if pass.stretchDepth.any (· < depth) then .error .stretchWithChildren
  else if pass.registry.currentDepth + 1 < depth then
    .error (.skippedLevel depth pass.registry.currentDepth)
  else .ok ()

def parentOf (pass : Pass) (depth : Nat) : Except BuildFault Entry :=
  match pass.registry.latestAtDepth? (depth - 1) with
  | some entry => .ok entry
  | none => .error (.registry (.noParent (depth - 1)))

def attachTo (pass : Pass) (child : Child) (name : String) (parent : ObjectId) :
    Except BuildFault Unit × Pass :=
  match attach child name parent pass.scene with
  | (.ok _, scene) => (.ok (), { pass with scene })
  | (.error error, scene) => (.error (.attach error), { pass with scene })

def register (pass : Pass) (object : ObjectId) (name path : String) (provenance : Provenance) :
    Except BuildFault Unit × Pass :=
  match pass.registry.insert object name path provenance with
  | .error error => (.error (.registry error), pass)
  | .ok registry =>
    let event := Event.registered path (pass.scene.heap.classOf object) provenance
    (.ok (), { pass with registry, scene := pass.scene.record event })

def placeBelow (pass : Pass) (parent : Entry) (object : ObjectId) (name : String)
    (provenance : Provenance) : Except BuildFault Unit × Pass :=
  let path := Path.child parent.path name
  match pass.registry.checkAvailable object name path provenance with
  | .error error => (.error (.registry error), pass)
  | .ok () =>
    match pass.attachTo (.object object) name parent.object with
    | (.error fault, after) => (.error fault, after)
    | (.ok (), after) => after.register object name path provenance

def place (pass : Pass) (depth : Nat) (object : ObjectId) (name : String)
    (provenance : Provenance) : Except BuildFault Unit × Pass :=
  if depth = 1 then pass.register object name name provenance
  else
    match pass.parentOf depth with
    | .error fault => (.error fault, pass)
    | .ok parent => pass.placeBelow parent object name provenance

def stretch (pass : Pass) (depth : Nat) : Except BuildFault Unit × Pass :=
  match pass.checkDepth depth with
  | .error fault => (.error fault, pass)
  | .ok () =>
    if depth = 1 then (.error .stretchAtTopLevel, pass)
    else
      match pass.parentOf depth with
      | .error fault => (.error fault, pass)
      | .ok parent =>
        match pass.attachTo .stretch stretchWord parent.object with
        | (.error fault, after) => (.error fault, after)
        | (.ok (), after) => (.ok (), { after with stretchDepth := some depth })

def item (pass : Pass) (builder : Builder) (declared : Item) (provenance : Provenance) :
    Except BuildFault Unit × Pass :=
  match pass.checkDepth declared.depth with
  | .error fault => (.error fault, pass)
  | .ok () =>
    let begun := { pass with stretchDepth := none }
    match supply builder.toolkit builder.finder declared.name declared.typeWord declared.text
      begun.scene.heap with
    | (.error error, heap) => (.error (.supply error), begun.withHeap heap)
    | (.ok object, heap) =>
      (begun.withHeap heap).place declared.depth object declared.name provenance

def line (pass : Pass) (builder : Builder) (provenance : Provenance) (text : List Char) :
    Except BuildFault Unit × Pass :=
  match readLine text with
  | .error error => (.error (.line error), pass)
  | .ok .blank => (.ok (), pass)
  | .ok .comment => (.ok (), pass)
  | .ok (.stretch indent) => pass.stretch (depthOf indent)
  | .ok (.item declared) => pass.item builder declared provenance

def lines (builder : Builder) (origin : String) (common number : Nat) :
    List (List Char) → Pass → Except BuildError Unit × Pass
  | [], pass => (.ok (), pass)
  | text :: later, pass =>
    match pass.line builder { line := number, origin } (outdent common text) with
    | (.ok (), after) => lines builder origin common (number + 1) later after
    | (.error fault, after) =>
      let place := { line := number, text := String.ofList (Text.trim text) }
      (.error { origin, place := some place, fault }, after)

end Pass

namespace Builder

structure Result where
  outcome : Except BuildError Hierarchy
  heap : Heap
  log : Array Event

def build (builder : Builder) (source origin : String) (heap : Heap) : Result :=
  let lines := Text.lines source.toList
  match Pass.lines builder origin (commonIndent lines) 1 lines (.start heap) with
  | (.error error, pass) =>
    { outcome := .error error, heap := pass.scene.heap, log := pass.scene.log }
  | (.ok (), pass) =>
    match Hierarchy.ofRegistry? pass.registry with
    | none =>
      { outcome := .error { origin, place := none, fault := .emptyInput }
        heap := pass.scene.heap
        log := pass.scene.log }
    | some hierarchy =>
      { outcome := .ok hierarchy
        heap := pass.scene.heap
        log := (pass.scene.record (.built hierarchy.size origin)).log }

end Builder

def build (source origin : String) : Builder.Result :=
  Builder.builtin.build source origin .empty

end WidgetOutline
