import WidgetOutline.Alignment
import WidgetOutline.Proofs.Source.Indentation
import WidgetOutline.Proofs.Text.Lines

namespace WidgetOutline
open Text

def Reads : List (List Char) → List Line → Prop :=
  List.Forall₂ fun text line => readLine text = .ok line

theorem exists_reads {texts : List (List Char)}
    (readable : ∀ text ∈ texts, ∃ line, readLine text = .ok line) : ∃ read, Reads texts read := by
  induction texts with
  | nil => exact ⟨[], .nil⟩
  | cons text later ih =>
    obtain ⟨line, first⟩ := readable text List.mem_cons_self
    obtain ⟨read, rest⟩ := ih fun other member => readable other (List.mem_cons_of_mem _ member)
    exact ⟨line :: read, .cons first rest⟩

theorem readLines_ok_iff {number : Nat} {texts : List (List Char)} {read : List Line} :
    readLines number texts = .ok read ↔ Reads texts read := by
  induction texts generalizing number read with
  | nil =>
    rw [readLines, Reads, List.forall₂_nil_left_iff, Except.ok.injEq]
    exact eq_comm
  | cons text later ih =>
    rw [readLines, Reads, List.forall₂_cons_left_iff]
    cases first : readLine text with
    | error cause => simp
    | ok line =>
      cases rest : readLines (number + 1) later with
      | error error =>
        have none : ∀ found, ¬Reads later found := fun found reads => by
          rw [ih.2 reads] at rest
          cases rest
        simp only [Except.map, reduceCtorEq, false_iff, not_exists, not_and]
        exact fun _ found _ reads => absurd reads (none found)
      | ok found =>
        have reads : ∀ other, Reads later other ↔ other = found := fun other => by
          rw [← ih, rest, Except.ok.injEq]
          exact eq_comm
        simp only [Except.map, Except.ok.injEq, exists_eq_left', exists_and_left]
        constructor
        · rintro rfl
          exact ⟨found, (reads found).2 rfl, rfl⟩
        · rintro ⟨other, holds, rfl⟩
          rw [(reads other).1 holds]

theorem reads_append_iff {texts later : List (List Char)} {read : List Line} :
    Reads (texts ++ later) read ↔ ∃ first rest, read = first ++ rest ∧
      Reads texts first ∧ Reads later rest := by
  constructor
  · intro reads
    induction texts generalizing read with
    | nil => exact ⟨[], read, rfl, .nil, reads⟩
    | cons text texts ih =>
      obtain ⟨line, more, ok, others, rfl⟩ := List.forall₂_cons_left_iff.1 reads
      obtain ⟨first, rest, rfl, readsFirst, readsRest⟩ := ih others
      exact ⟨line :: first, rest, rfl, .cons ok readsFirst, readsRest⟩
  · rintro ⟨first, rest, rfl, readsFirst, readsRest⟩
    exact List.rel_append readsFirst readsRest

theorem reads_concat_iff {texts : List (List Char)} {text : List Char} {read : List Line} :
    Reads (texts ++ [text]) read ↔ ∃ earlier last, read = earlier ++ [last] ∧
      Reads texts earlier ∧ readLine text = .ok last := by
  rw [reads_append_iff]
  constructor
  · rintro ⟨earlier, rest, rfl, reads, more⟩
    obtain ⟨last, rest, ok, none, rfl⟩ := List.forall₂_cons_left_iff.1 more
    obtain rfl := List.forall₂_nil_left_iff.1 none
    exact ⟨earlier, last, rfl, reads, ok⟩
  · rintro ⟨earlier, last, rfl, reads, ok⟩
    exact ⟨earlier, [last], rfl, reads, .cons ok .nil⟩

theorem alignLines_ok_iff {gutter : Nat} {texts aligned : List (List Char)} :
    alignLines gutter texts = .ok aligned ↔ ∃ read, Reads texts read ∧
      List.zipWith (alignLine (typeWordColumn gutter read)) texts read = aligned := by
  unfold alignLines
  cases read : readLines 1 texts with
  | error error =>
    simp only [bind, Except.bind, reduceCtorEq, false_iff, not_exists, not_and]
    intro found reads
    rw [readLines_ok_iff.2 reads] at read
    cases read
  | ok found =>
    have reads := readLines_ok_iff.1 read
    simp only [bind, Except.bind, pure, Except.pure, Except.ok.injEq]
    constructor
    · exact fun same => ⟨found, reads, same⟩
    · rintro ⟨other, reads', same⟩
      have unique := read.symm.trans (readLines_ok_iff.2 reads')
      rw [Except.ok.injEq] at unique
      rw [unique, same]

def Line.bare : Line → Line
  | item declared => item { declared with lead := "" }
  | line => line

theorem Line.extent?_bare (line : Line) : line.bare.extent? = line.extent? := by
  cases line <;> rfl

theorem Line.indent?_bare (line : Line) : line.bare.indent? = line.indent? := by
  cases line <;> rfl

theorem filterMap_of_bare {α : Type} {view : Line → Option α}
    (ignores : ∀ line, view line.bare = view line) {read read' : List Line}
    (same : read'.map Line.bare = read.map Line.bare) :
    read'.filterMap view = read.filterMap view := by
  have through : ∀ lines : List Line, (lines.map Line.bare).filterMap view =
      lines.filterMap view := by
    intro lines
    rw [List.filterMap_map]
    exact List.filterMap_congr fun line _ => ignores line
  rw [← through read', same, through read]

theorem typeWordColumn_of_bare (gutter : Nat) {read read' : List Line}
    (same : read'.map Line.bare = read.map Line.bare) :
    typeWordColumn gutter read' = typeWordColumn gutter read := by
  rw [typeWordColumn, filterMap_of_bare Line.extent?_bare same, typeWordColumn]

theorem extent_lt_typeWordColumn (gutter : Nat) {read : List Line} {line : Line} {extent : Nat}
    (member : line ∈ read) (wide : line.extent? = some extent) :
    extent < typeWordColumn gutter read := by
  have inExtents : extent ∈ read.filterMap Line.extent? := List.mem_filterMap.2 ⟨line, member, wide⟩
  cases widest : (read.filterMap Line.extent?).max? with
  | none => simp [List.max?_eq_none_iff.1 widest] at inExtents
  | some k =>
    have bound := (List.max?_eq_some_iff.1 widest).2 extent inExtents
    rw [typeWordColumn, widest, Option.getD_some]
    omega

theorem readLine_alignLine {text : List Char} {line : Line} {column : Nat}
    (read : readLine text = .ok line) (fits : ∀ extent ∈ line.extent?, extent < column) :
    ∃ line', readLine (alignLine column text line) = .ok line' ∧ line'.bare = line.bare ∧
      alignLine column (alignLine column text line) line' = alignLine column text line := by
  cases line with
  | item declared =>
    have positive : 0 < column - declared.extent := Nat.sub_pos_of_lt (fits _ rfl)
    obtain ⟨reread, letters⟩ := readLine_reflow read positive
    generalize front : List.replicate declared.indent ' ' ++ declared.name.toList ++
      List.replicate (column - declared.extent) ' ' = lead at reread
    have written : alignLine column text (.item declared) =
        lead ++ trimEnd (text.drop declared.lead.length) := by
      rw [alignLine, alignItem, front]
    refine ⟨.item { declared with lead := String.ofList lead }, ?_, rfl, ?_⟩
    · rw [written, ← trimEnd_append lead letters, readLine_trimEnd (no_tab_of_read reread), reread]
    · rw [written, alignLine, alignItem]
      simp only [Item.extent, String.length_ofList, List.drop_left, trimEnd_trimEnd]
      rw [← front, Item.extent]
  | _ => exact ⟨_, readLine_trimEnd (no_tab_of_read read) ▸ read, rfl, trimEnd_trimEnd text⟩

theorem mem_alignLine {text : List Char} {line : Line} {column : Nat}
    (read : readLine text = .ok line) {c : Char} (member : c ∈ alignLine column text line) :
    c = ' ' ∨ c ∈ text := by
  cases line with
  | item declared =>
    simp only [alignLine, alignItem, List.mem_append, List.mem_replicate] at member
    rcases member with ((space | inName) | space) | inRest
    · exact .inl space.2
    · exact .inr ((name_of_readLine read).2.2 inName)
    · exact .inl space.2
    · exact .inr (List.mem_of_mem_drop (mem_of_mem_trimEnd inRest))
  | _ => exact .inr (mem_of_mem_trimEnd member)

theorem tidy_alignLine {text : List Char} {line : Line} {column : Nat}
    (read : readLine text = .ok line) (noFeed : '\n' ∉ text)
    (fits : ∀ extent ∈ line.extent?, extent < column) : Tidy (alignLine column text line) := by
  refine ⟨fun feed => ?_, fun return_ => ?_⟩
  · rcases mem_alignLine read feed with space | member
    · exact absurd space (by decide)
    · exact noFeed member
  · -- Every aligned line is trimmed, and a carriage return is a blank.
    have trimmed : ∃ body, alignLine column text line = trimEnd body := by
      cases line with
      | item declared =>
        obtain ⟨-, letters⟩ := readLine_reflow read (Nat.sub_pos_of_lt (fits _ rfl))
        exact ⟨_, (trimEnd_append _ letters).symm⟩
      | _ => exact ⟨text, rfl⟩
    obtain ⟨body, eq⟩ := trimmed
    rw [eq] at return_
    exact absurd (not_blank_of_getLast?_trimEnd return_) (by decide)

theorem Reads.align {texts : List (List Char)} {read : List Line} (reads : Reads texts read)
    {column : Nat} (fits : ∀ line ∈ read, ∀ extent ∈ line.extent?, extent < column) :
    let aligned := List.zipWith (alignLine column) texts read
    ∃ read', Reads aligned read' ∧ read'.map Line.bare = read.map Line.bare ∧
      List.zipWith (alignLine column) aligned read' = aligned := by
  induction reads with
  | nil => exact ⟨[], .nil, rfl, rfl⟩
  | @cons text line texts read first _ ih =>
    obtain ⟨line', ok, same, stays⟩ := readLine_alignLine first (fits line List.mem_cons_self)
    obtain ⟨read', reads', same', stays'⟩ :=
      ih fun l member => fits l (List.mem_cons_of_mem _ member)
    refine ⟨line' :: read', .cons ok reads', ?_, ?_⟩
    · rw [List.map_cons, List.map_cons, same, same']
    · simp only [List.zipWith_cons_cons, stays, stays']

theorem alignLines_aligned {gutter : Nat} {texts aligned : List (List Char)}
    (ok : alignLines gutter texts = .ok aligned) :
    alignLines gutter aligned = .ok aligned ∧ ∃ read read', Reads texts read ∧
      Reads aligned read' ∧ read'.map Line.bare = read.map Line.bare := by
  obtain ⟨read, reads, rfl⟩ := alignLines_ok_iff.1 ok
  obtain ⟨read', reads', same, stays⟩ := reads.align fun line member extent wide =>
    extent_lt_typeWordColumn gutter member wide
  refine ⟨alignLines_ok_iff.2 ⟨read', reads', ?_⟩, read, read', reads, reads', same⟩
  rw [typeWordColumn_of_bare gutter same, stays]

theorem tidy_of_alignLines {gutter : Nat} {texts aligned : List (List Char)}
    (ok : alignLines gutter texts = .ok aligned) (noFeed : ∀ text ∈ texts, '\n' ∉ text) :
    ∀ line ∈ aligned, Tidy line := by
  obtain ⟨read, reads, rfl⟩ := alignLines_ok_iff.1 ok
  have fits : ∀ line ∈ read, ∀ extent ∈ line.extent?, extent < typeWordColumn gutter read :=
    fun line member extent wide => extent_lt_typeWordColumn gutter member wide
  generalize typeWordColumn gutter read = column at fits
  clear ok
  induction reads with
  | nil => simp
  | @cons text line texts read first _ ih =>
    simp only [List.zipWith_cons_cons, List.forall_mem_cons] at noFeed fits ⊢
    exact ⟨tidy_alignLine first noFeed.1 fits.1, ih noFeed.2 fits.2⟩

theorem alignLines_append_empty {gutter : Nat} {texts aligned : List (List Char)}
    (ok : alignLines gutter (texts ++ [[]]) = .ok (aligned ++ [[]])) :
    alignLines gutter texts = .ok aligned := by
  obtain ⟨read, reads, written⟩ := alignLines_ok_iff.1 ok
  obtain ⟨earlier, last, rfl, reads', ok'⟩ := reads_concat_iff.1 reads
  obtain rfl : last = .blank := by
    rw [show readLine [] = .ok .blank from rfl, Except.ok.injEq] at ok'
    exact ok'.symm
  refine alignLines_ok_iff.2 ⟨earlier, reads', ?_⟩
  have column : typeWordColumn gutter (earlier ++ [.blank]) = typeWordColumn gutter earlier := by
    rw [typeWordColumn, List.filterMap_append,
      show [Line.blank].filterMap Line.extent? = [] from rfl, List.append_nil, typeWordColumn]
  rw [column, List.zipWith_append reads'.length_eq, List.zipWith_cons_cons] at written
  exact List.append_inj_left' written rfl

theorem align_ok_iff {source out : String} {gutter : Nat} :
    align source gutter = .ok out ↔
      ∃ aligned, alignLines gutter (dedent source.toList) = .ok aligned ∧
        out.toList = joinLines aligned ++ finalFeed source.toList := by
  unfold align
  cases alignLines gutter (dedent source.toList) with
  | error error => simp [bind, Except.bind]
  | ok aligned =>
    simp [bind, Except.bind, pure, Except.pure, finalFeed, ← String.toList_inj, eq_comm]

theorem no_feed_dedent (source : List Char) : ∀ text ∈ dedent source, '\n' ∉ text := by
  intro text member feed
  obtain ⟨line, inLines, rfl⟩ := List.mem_map.1 member
  exact not_mem_of_mem_lines inLines (List.mem_of_mem_drop feed)

theorem commonIndent_of_bare {texts texts' : List (List Char)} {read read' : List Line}
    (reads : Reads texts read) (reads' : Reads texts' read')
    (same : read'.map Line.bare = read.map Line.bare) :
    commonIndent texts' = commonIndent texts := by
  rw [commonIndent_of_read reads, commonIndent_of_read reads',
    filterMap_of_bare Line.indent?_bare same]

theorem dedent_of_commonIndent_eq_zero {source : List Char}
    (flush : commonIndent (lines source) = 0) : dedent source = lines source := by
  have keeps : outdent 0 = id := by
    funext text
    simp [outdent]
  rw [dedent, flush, keeps, List.map_id]

theorem commonIndent_append_empty (texts : List (List Char)) :
    commonIndent (texts ++ [[]]) = commonIndent texts := by
  rw [commonIndent, List.filter_append, show [[]].filter isSignificant = [] from rfl,
    List.append_nil, commonIndent]

/-- The lines of an aligned source are the aligned lines, but for an empty last line without a line
feed; they are their own alignment, and the source is written from them. -/
theorem align_ok_dedent {source out : String} {gutter : Nat} (ok : align source gutter = .ok out) :
    ∃ aligned, alignLines gutter (dedent source.toList) = .ok aligned ∧
      dedent out.toList = lines out.toList ∧
      (lines out.toList = aligned ∨ lines out.toList ++ [[]] = aligned) ∧
      alignLines gutter (lines out.toList) = .ok (lines out.toList) ∧
      joinLines (lines out.toList) ++ finalFeed out.toList = out.toList := by
  obtain ⟨aligned, ok', text⟩ := align_ok_iff.1 ok
  obtain ⟨stays, read, read', reads, reads', same⟩ := alignLines_aligned ok'
  have feed : finalFeed source.toList = [] ∨ finalFeed source.toList = ['\n'] ∧ aligned ≠ [] := by
    by_cases last : source.toList.getLast? = some '\n'
    · refine .inr ⟨if_pos last, ?_⟩
      rintro rfl
      have count : (lines source.toList).length = 0 := by
        have := congrArg List.length same
        rw [List.length_map, List.length_map, ← reads.length_eq, ← reads'.length_eq, dedent,
          List.length_map] at this
        exact this.symm
      rw [lines_eq_nil_iff.1 (List.eq_nil_of_length_eq_zero count)] at last
      cases last
    · exact .inl (if_neg last)
  obtain ⟨split, written⟩ := join_lines_of_join (tidy_of_alignLines ok' (no_feed_dedent _)) feed
  rw [← text] at split written
  have flush : commonIndent aligned = 0 := by
    rw [commonIndent_of_bare reads reads' same]
    exact commonIndent_outdent _
  refine ⟨aligned, ok', ?_, split, ?_, written⟩
  · refine dedent_of_commonIndent_eq_zero ?_
    rcases split with split | split
    · rw [split, flush]
    · rw [← commonIndent_append_empty, split, flush]
  · rcases split with split | split
    · rw [split, stays]
    · exact alignLines_append_empty (split ▸ stays)

end WidgetOutline
