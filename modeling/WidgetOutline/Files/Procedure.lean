import WidgetOutline.Files.Tree

namespace WidgetOutline

inductive Procedure (α : Type) where
  | done (value : α)
  | read (path : String) (next : Except FileFault ByteArray → Procedure α)
  | makeDirectories (path : String) (next : Except FileFault Unit → Procedure α)
  | entryNames (path : String) (next : List String → Procedure α)
  | write (path : String) (content : ByteArray) (next : Except FileFault Unit → Procedure α)

namespace Procedure

variable {α : Type}

def readText (path : String) (next : Except FileFault String → Procedure α) : Procedure α :=
  .read path fun
    | .error fault => next (.error fault)
    | .ok content =>
      match String.fromUTF8? content with
      | some text => next (.ok text)
      | none => next (.error .notText)

def writeText (path text : String) (next : Except FileFault Unit → Procedure α) : Procedure α :=
  .write path text.toUTF8 next

def map {β : Type} (f : α → β) : Procedure α → Procedure β
  | done value => .done (f value)
  | read path next => .read path fun answer => (next answer).map f
  | makeDirectories path next => .makeDirectories path fun answer => (next answer).map f
  | entryNames path next => .entryNames path fun answer => (next answer).map f
  | write path content next => .write path content fun answer => (next answer).map f

def run (tree : FileTree) : Procedure α → α × FileTree
  | done value => (value, tree)
  | read path next => (next (tree.read path)).run tree
  | makeDirectories path next =>
    let (result, reached) := tree.makePath path
    (next result).run reached
  | entryNames path next => (next (tree.entryNames path)).run tree
  | write path content next =>
    match tree.write path content with
    | .ok written => (next (.ok ())).run written
    | .error fault => (next (.error fault)).run tree

end Procedure

end WidgetOutline
