import WidgetOutline.Build.Basic
import WidgetOutline.Proofs.Alignment.Aligned

namespace WidgetOutline
open Text

def BuildError.unquoted (error : BuildError) : BuildError :=
  { error with place := error.place.map fun place => { place with text := "" } }

/-- The result of a build, without the line that its error quotes. -/
def Builder.Result.unquoted (result : Builder.Result) : Builder.Result :=
  { result with outcome := result.outcome.mapError BuildError.unquoted }

theorem Pass.line_of_bare {text text' : List Char} {line line' : Line}
    (read : readLine text = .ok line) (read' : readLine text' = .ok line')
    (same : line'.bare = line.bare) (pass : Pass) (builder : Builder) (provenance : Provenance) :
    pass.line builder provenance text' = pass.line builder provenance text := by
  unfold Pass.line
  rw [read, read']
  cases line with
  | item declared =>
    cases line' with
    | item declared' =>
      have item : { declared' with lead := "" } = { declared with lead := "" } :=
        Line.item.inj same
      show pass.item builder { declared' with lead := "" } provenance = _
      rw [item]
      rfl
    | _ => cases same
  | _ =>
    cases line' <;> cases same
    rfl

def Pass.unquoted (result : Except BuildError Unit × Pass) : Except BuildError Unit × Pass :=
  (result.1.mapError BuildError.unquoted, result.2)

theorem Pass.lines_of_bare {builder : Builder} {origin : String} {common common' : Nat}
    {texts texts' : List (List Char)} {read read' : List Line}
    (reads : Reads (texts.map (outdent common)) read)
    (reads' : Reads (texts'.map (outdent common')) read')
    (same : read'.map Line.bare = read.map Line.bare) (number : Nat) (pass : Pass) :
    Pass.unquoted (Pass.lines builder origin common' number texts' pass) =
      Pass.unquoted (Pass.lines builder origin common number texts pass) := by
  induction texts generalizing texts' read read' number pass with
  | nil =>
    obtain rfl := List.forall₂_nil_left_iff.1 reads
    obtain rfl := List.map_eq_nil_iff.1 same
    rw [List.map_eq_nil_iff.1 (List.forall₂_nil_right_iff.1 reads')]
    rfl
  | cons text texts ih =>
    obtain ⟨line, read, first, later, rfl⟩ := List.forall₂_cons_left_iff.1 reads
    obtain ⟨line', read', rfl, sameFirst, sameLater⟩ := List.map_eq_cons_iff.1 same
    obtain ⟨outdented, rest, first', later', eq⟩ := List.forall₂_cons_right_iff.1 reads'
    obtain ⟨text', texts', rfl, rfl, rfl⟩ := List.map_eq_cons_iff.1 eq
    unfold Pass.lines
    rw [Pass.line_of_bare first first' sameFirst]
    cases pass.line builder { line := number, origin } (outdent common text) with
    | mk outcome after =>
      cases outcome with
      | ok _ => exact ih later later' sameLater (number + 1) after
      | error fault => rfl

theorem Pass.lines_append_blank {builder : Builder} {origin : String} {common : Nat}
    {text : List Char} (blank : readLine (outdent common text) = .ok .blank)
    (texts : List (List Char)) (number : Nat) (pass : Pass) :
    Pass.lines builder origin common number (texts ++ [text]) pass =
      Pass.lines builder origin common number texts pass := by
  induction texts generalizing number pass with
  | nil => simp [Pass.lines, Pass.line, blank]
  | cons first texts ih =>
    rw [List.cons_append, Pass.lines, Pass.lines]
    split
    · exact ih (number + 1) _
    · rfl

def Builder.finish (origin : String) : Except BuildError Unit × Pass → Builder.Result
  | (.error error, pass) =>
    { outcome := .error error, heap := pass.scene.heap, log := pass.scene.log }
  | (.ok (), pass) =>
    match Hierarchy.ofRegistry? pass.registry with
    | none =>
      { outcome := .error { origin, place := none, fault := .emptyInput }
        heap := pass.scene.heap
        log := pass.scene.log }
    | some hierarchy =>
      { outcome := .ok hierarchy
        heap := pass.scene.heap
        log := (pass.scene.record (.built hierarchy.size origin)).log }

theorem Builder.build_eq (builder : Builder) (source origin : String) (heap : Heap) :
    builder.build source origin heap = finish origin (Pass.lines builder origin
      (commonIndent (lines source.toList)) 1 (lines source.toList) (.start heap)) := by
  unfold Builder.build finish
  rfl

theorem Builder.finish_unquoted {origin : String} {a b : Except BuildError Unit × Pass}
    (same : Pass.unquoted a = Pass.unquoted b) :
    (finish origin a).unquoted = (finish origin b).unquoted := by
  obtain ⟨outcome, pass⟩ := a
  obtain ⟨outcome', pass'⟩ := b
  obtain ⟨outcomes, rfl⟩ := Prod.mk.inj same
  cases outcome <;> cases outcome'
  · simp only [Except.mapError, Except.error.injEq] at outcomes
    simp [finish, Result.unquoted, Except.mapError, outcomes]
  · cases outcomes
  · cases outcomes
  · rfl

theorem build_align {source out : String} {gutter : Nat}
    (aligned : align source gutter = .ok out) (builder : Builder) (origin : String)
    (heap : Heap) :
    (builder.build out origin heap).unquoted = (builder.build source origin heap).unquoted := by
  obtain ⟨written, ok, flush, split, -, -⟩ := align_ok_dedent aligned
  obtain ⟨-, read, read', reads, reads', same⟩ := alignLines_aligned ok
  rw [Builder.build_eq, Builder.build_eq]
  apply Builder.finish_unquoted
  rcases split with split | split
  · refine Pass.lines_of_bare reads ?_ same 1 (.start heap)
    rw [show (lines out.toList).map _ = dedent out.toList from rfl, flush, split]
    exact reads'
  · have blank : readLine (outdent (commonIndent (lines out.toList)) []) = .ok .blank := rfl
    rw [← Pass.lines_append_blank blank]
    refine Pass.lines_of_bare reads ?_ same 1 (.start heap)
    rw [List.map_append, show (lines out.toList).map _ = dedent out.toList from rfl, flush]
    exact split ▸ reads'

def unalignedSource : String :=
  "  row HBOX # r\r\n# c\n    é  LABEL(a # \\)) # t\r\n    <> \n  "

def alignedSource : String := "row  HBOX # r\n# c\n  é  LABEL(a # \\)) # t\n  <>\n"

theorem build_align_commented :
    align unalignedSource 2 = .ok alignedSource ∧
      (Builder.builtin.build alignedSource "ui" .empty).unquoted =
        (Builder.builtin.build unalignedSource "ui" .empty).unquoted :=
  have aligned : align unalignedSource 2 = .ok alignedSource := by decide +kernel
  ⟨aligned, build_align aligned Builder.builtin "ui" .empty⟩

end WidgetOutline
