import WidgetOutline.Proofs.Build.Places

namespace WidgetOutline
open Text

def significant (read : List Line) : List Line :=
  (read.filter (·.indent?.isSome)).map Line.bare

theorem significant_append (first rest : List Line) :
    significant (first ++ rest) = significant first ++ significant rest := by
  rw [significant, List.filter_append, List.map_append]
  rfl

theorem significant_cons_of_silent {line : Line} (silent : line.indent? = none)
    (read : List Line) : significant (line :: read) = significant read := by
  rw [significant, List.filter_cons_of_neg (by simp [silent]), significant]

theorem map_fst_significantAt (number : Nat) (read : List Line) :
    (significantAt number read).map Prod.fst = significant read := by
  induction read generalizing number with
  | nil => rfl
  | cons line later ih =>
    unfold significantAt
    cases indent : line.indent? with
    | none =>
      rw [significant_cons_of_silent indent]
      exact ih (number + 1)
    | some n =>
      rw [if_pos Option.isSome_some, List.map_cons, ih, significant, significant,
        List.filter_cons_of_pos (by simp [indent]), List.map_cons]

theorem significantAt_eq_nil {read : List Line} (none : significant read = []) (number : Nat) :
    significantAt number read = [] := by
  rwa [← map_fst_significantAt number, List.map_eq_nil_iff] at none

theorem significantAt_append (number : Nat) (first rest : List Line) :
    significantAt number (first ++ rest) =
      significantAt number first ++ significantAt (number + first.length) rest := by
  induction first generalizing number with
  | nil => rfl
  | cons line first ih =>
    rw [List.cons_append, significantAt, significantAt, ih, List.length_cons,
      Nat.add_right_comm number 1, ← Nat.add_assoc]
    split <;> rfl

theorem significant_of_bare {read read' : List Line}
    (same : read'.map Line.bare = read.map Line.bare) : significant read' = significant read := by
  have through : ∀ lines : List Line,
      significant lines = (lines.map Line.bare).filter (·.indent?.isSome) := by
    intro lines
    rw [List.filter_map]
    exact congrArg _ (List.filter_congr fun line _ => by simp [Line.indent?_bare])
  rw [through, same, through]

theorem commonIndent_of_significant {texts texts' : List (List Char)} {read read' : List Line}
    (reads : Reads texts read) (reads' : Reads texts' read')
    (same : significant read' = significant read) : commonIndent texts' = commonIndent texts := by
  have through : ∀ lines : List Line,
      lines.filterMap Line.indent? = (significant lines).filterMap Line.indent? := by
    intro lines
    rw [significant, List.filterMap_map, List.filterMap_filter]
    refine List.filterMap_congr fun line _ => ?_
    rw [Function.comp_apply, Line.indent?_bare]
    cases line.indent? <;> rfl
  rw [commonIndent_of_read reads, commonIndent_of_read reads', through, same, ← through]

theorem reads_of_silent {texts : List (List Char)} (silent : ∀ text ∈ texts, Silent text) :
    ∃ read, Reads texts read ∧ significant read = [] := by
  induction texts with
  | nil => exact ⟨[], .nil, rfl⟩
  | cons text texts ih =>
    obtain ⟨line, first, none⟩ := silent text List.mem_cons_self
    obtain ⟨read, reads, rest⟩ :=
      ih fun other member => silent other (List.mem_cons_of_mem _ member)
    exact ⟨line :: read, .cons first reads, (significant_cons_of_silent none read).trans rest⟩

theorem significant_eq_nil {texts : List (List Char)} {read : List Line} (reads : Reads texts read)
    (silent : ∀ text ∈ texts, Silent text) : significant read = [] := by
  induction reads with
  | nil => rfl
  | @cons text line texts read first _ ih =>
    obtain ⟨line', first', none⟩ := silent text List.mem_cons_self
    obtain rfl := Except.ok.inj (first.symm.trans first')
    rw [significant_cons_of_silent none]
    exact ih fun other member => silent other (List.mem_cons_of_mem _ member)

theorem significant_of_align {source out : String} {gutter : Nat}
    (aligned : align source gutter = .ok out) :
    ∃ read read', Reads (dedent source.toList) read ∧ Reads (lines out.toList) read' ∧
      significant read' = significant read ∧ commonIndent (lines out.toList) = 0 := by
  obtain ⟨written, ok, flush, split, -, -⟩ := align_ok_dedent aligned
  obtain ⟨-, read, read', reads, reads', same⟩ := alignLines_aligned ok
  have common : commonIndent (lines out.toList) = 0 := by
    rw [← flush]
    exact commonIndent_outdent _
  rcases split with split | split
  · exact ⟨read, read', reads, split ▸ reads', significant_of_bare same, common⟩
  · rw [← split] at reads'
    obtain ⟨earlier, last, rfl, readsEarlier, empty⟩ := reads_concat_iff.1 reads'
    have blank : significant [last] = [] := by
      cases empty
      rfl
    have whole := significant_of_bare same
    rw [significant_append, blank, List.append_nil] at whole
    exact ⟨read, earlier, reads, readsEarlier, whole, common⟩

namespace Builder

def Result.dump? (result : Result) : Option String :=
  result.outcome.toOption.map (·.dump result.heap)

theorem Result.dump?_unquoted (result : Result) : result.unquoted.dump? = result.dump? := by
  unfold dump? unquoted
  cases result.outcome <;> rfl

theorem Result.dump?_moved (result : Result) (shift : Nat → Nat) :
    (result.moved shift).dump? = result.dump? := by
  unfold dump? moved
  cases result.outcome with
  | error error => rfl
  | ok hierarchy => exact congrArg some (hierarchy.registry.dump_moved result.heap)

theorem dump?_of_significant {builder : Builder} {source source' origin : String} {heap : Heap}
    {read read' : List Line} (reads : Reads (dedent source.toList) read)
    (reads' : Reads (dedent source'.toList) read') (same : significant read = significant read') :
    (builder.build source origin heap).dump? = (builder.build source' origin heap).dump? := by
  have numbered : (significantAt 1 read).map (Prod.map id fun _ => 0) =
      (significantAt 1 read').map (Prod.map id fun _ => 0) := by
    have lines := congrArg (List.map fun line => (line, 0)) same
    rwa [← map_fst_significantAt 1, ← map_fst_significantAt 1, List.map_map, List.map_map] at lines
  have moved : ((builder.build source origin heap).moved fun _ => 0).unquoted =
      ((builder.build source' origin heap).moved fun _ => 0).unquoted :=
    build_moved reads reads' numbered
  have alike := congrArg Result.dump? moved
  rwa [Result.dump?_unquoted, Result.dump?_moved, Result.dump?_unquoted, Result.dump?_moved]
    at alike

end Builder

end WidgetOutline
