import WidgetOutline.Files.Procedure

namespace WidgetOutline

def FileTree.readText (tree : FileTree) (path : String) : Except FileFault String :=
  match tree.read path with
  | .error fault => .error fault
  | .ok content =>
    match String.fromUTF8? content with
    | some text => .ok text
    | none => .error .notText

namespace Procedure

variable {α β : Type}

theorem run_map (f : α → β) (procedure : Procedure α) (tree : FileTree) :
    (procedure.map f).run tree = (f (procedure.run tree).1, (procedure.run tree).2) := by
  induction procedure generalizing tree with
  | done value => rfl
  | read path next ih => exact ih _ tree
  | makeDirectories path next ih => exact ih _ _
  | entryNames path next ih => exact ih _ tree
  | write path content next ih =>
    simp only [map, run]
    cases tree.write path content with
    | ok written => exact ih _ written
    | error fault => exact ih _ tree

theorem run_readText (path : String) (next : Except FileFault String → Procedure α)
    (tree : FileTree) :
    (∃ fault, (readText path next).run tree = (next (.error fault)).run tree) ∨
    ∃ content text, tree.read path = .ok content ∧ String.fromUTF8? content = some text ∧
      (readText path next).run tree = (next (.ok text)).run tree := by
  unfold readText
  rw [run]
  cases read : tree.read path with
  | error fault => exact .inl ⟨fault, rfl⟩
  | ok content =>
    dsimp only
    cases decoded : String.fromUTF8? content with
    | none => exact .inl ⟨.notText, rfl⟩
    | some text => exact .inr ⟨content, text, rfl, decoded, rfl⟩

end Procedure

end WidgetOutline
