import WidgetOutline.Archive.Notice
import WidgetOutline.Proofs.Build.Significance

namespace WidgetOutline
open Text

namespace Notice

theorem cutAt?_eq_some {pattern text before after : List Char}
    (cut : cutAt? pattern text = some (before, after)) : text = before ++ pattern ++ after := by
  fun_induction cutAt? pattern text generalizing before with
  | case1 text found =>
    obtain ⟨rest, rfl⟩ := List.isPrefixOf_iff_prefix.1 found
    cases cut
    simp
  | case2 => cases cut
  | case3 c rest _ ih =>
    obtain ⟨⟨front, back⟩, cut', same⟩ := Option.map_eq_some_iff.1 cut
    cases same
    rw [ih cut']
    rfl

theorem around?_eq_some {text before after : List Char}
    (found : around? text = some (before, after)) :
    ∃ inner, text = before ++ (sentence.toList ++ inner ++ ending.toList) ++ after := by
  obtain ⟨⟨front, rest⟩, first, last⟩ := Option.bind_eq_some_iff.1 found
  obtain ⟨⟨inner, back⟩, second, same⟩ := Option.map_eq_some_iff.1 last
  cases same
  refine ⟨inner, ?_⟩
  rw [cutAt?_eq_some first, cutAt?_eq_some second]
  simp

def endedLines (text : List Char) : List Char := text.rdropWhile (· != '\n')

def openLine (text : List Char) : List Char := text.rtakeWhile (· != '\n')

def between (text before after : List Char) : List Char :=
  (text.take (text.length - after.length)).drop before.length

theorem between_eq (before inner after : List Char) :
    between (before ++ inner ++ after) before after = inner := by
  rw [between, List.take_left' (by simp; omega), List.drop_left]

def replaced (text : List Char) : List (List Char) :=
  match around? text with
  | some (before, after) =>
    lines (openLine before ++ between text before after ++ firstLine after)
  | none => []

def written (text : List Char) (directory : String) : List (List Char) :=
  match around? text with
  | some (before, after) =>
    lines (openLine before ++ (block directory).toList ++ firstLine after)
  | none => lines (block directory).toList

theorem lines_around (before : List Char) {notice : List Char}
    (last : notice.getLast? = some '#') (after : List Char) :
    lines (before ++ notice ++ after) = lines (endedLines before) ++
      lines (openLine before ++ notice ++ firstLine after) ++ (lines after).tail := by
  obtain ⟨front, rfl⟩ := List.getLast?_eq_some_iff.1 last
  have ends : endedLines before = [] ∨ (endedLines before).getLast? = some '\n' := by
    by_cases nonempty : endedLines before = []
    · exact .inl nonempty
    · have feed := List.rdropWhile_last_not (· != '\n') before nonempty
      refine .inr ?_
      rw [List.getLast?_eq_some_getLast nonempty]
      exact congrArg some (not_not.1 (mt bne_iff_ne.2 feed))
  have split : before = endedLines before ++ openLine before :=
    List.rdropWhile_append_rtakeWhile.symm
  have joined := lines_append_letter (c := '#') (openLine before ++ front) (by decide) (by decide)
    after
  conv_lhs => rw [split]
  rw [List.append_assoc, List.append_assoc, lines_append_of_feed ends, List.append_assoc]
  simp only [List.append_assoc, List.singleton_append] at joined ⊢
  rw [joined]

theorem block_toList (directory : String) : (block directory).toList = sentence.toList ++ '\n' ::
    ("# Previous versions can be found here:".toList ++ '\n' ::
      ('#' :: ' ' :: directory.toList ++ '\n' :: ending.toList)) := by
  simp [block]

theorem getLast?_append_ending (text : List Char) :
    (text ++ ending.toList).getLast? = some '#' :=
  List.getLast?_append_of_ne_nil text (by decide)

theorem lines_attachTo (text directory : String) :
    ∃ above below, lines text.toList = above ++ replaced text.toList ++ below ∧
      lines (attachTo text directory).toList =
        above ++ written text.toList directory ++ below := by
  have last : (block directory).toList.getLast? = some '#' := by
    rw [block, String.toList_append]
    exact getLast?_append_ending _
  unfold replaced written attachTo
  cases found : around? text.toList with
  | none =>
    have split := lines_around [] last ('\n' :: text.toList)
    exact ⟨[], lines text.toList, rfl,
      by simpa [endedLines, openLine, firstLine, lines] using split⟩
  | some cut =>
    obtain ⟨before, after⟩ := cut
    obtain ⟨inner, eq⟩ := around?_eq_some found
    refine ⟨lines (endedLines before), (lines after).tail, ?_, ?_⟩
    · dsimp only
      rw [eq, between_eq, ← lines_around before (getLast?_append_ending _) after]
    · rw [← lines_around before last after]
      simp

theorem silent_comment {rest : List Char} (noTab : '\t' ∉ rest) : Silent ('#' :: rest) := by
  obtain ⟨later, trimmed⟩ : ∃ later, trim ('#' :: rest) = '#' :: later := trim_head rfl
  refine silent_iff.2 ⟨by simp [noTab], ?_⟩
  rw [isSignificant, trimmed]
  rfl

theorem silent_lines_feed {line rest : List Char} (silent : Silent line) (noFeed : '\n' ∉ line)
    (later : ∀ other ∈ lines rest, Silent other) :
    ∀ other ∈ lines (line ++ '\n' :: rest), Silent other := by
  obtain ⟨kept, split, cut⟩ := lines_line_feed noFeed rest
  rw [split, List.forall_mem_cons]
  refine ⟨?_, later⟩
  rcases cut with rfl | rfl
  · exact silent
  · have blank : Blanks ['\r'] := by simp [Blanks, isBlank]
    rw [silent_iff, isSignificant_append_blanks kept blank] at silent
    exact silent_iff.2 ⟨fun tab => silent.1 (List.mem_append_left _ tab), silent.2⟩

theorem silent_lines_block {start close : List Char} {directory : String}
    (silent : Silent (start ++ sentence.toList)) (oneStart : '\n' ∉ start)
    (oneLine : '\n' ∉ directory.toList) (noTab : '\t' ∉ directory.toList)
    (oneClose : '\n' ∉ close) (noTabClose : '\t' ∉ close) :
    ∀ line ∈ lines (start ++ (block directory).toList ++ close), Silent line := by
  have first : '\n' ∉ start ++ sentence.toList := by
    rw [List.mem_append, not_or]
    exact ⟨oneStart, by decide⟩
  have second : Silent "# Previous versions can be found here:".toList := silent_comment (by decide)
  have third : Silent ('#' :: ' ' :: directory.toList) := silent_comment (by simpa using noTab)
  have last : Silent ('#' :: '#' :: close) := silent_comment (by simpa using noTabClose)
  have parts : start ++ (block directory).toList ++ close = start ++ sentence.toList ++ '\n' ::
      ("# Previous versions can be found here:".toList ++ '\n' ::
        ('#' :: ' ' :: directory.toList ++ '\n' :: ('#' :: '#' :: close))) := by
    simp [block_toList, ending]
  rw [parts]
  refine silent_lines_feed silent first (silent_lines_feed second (by decide)
    (silent_lines_feed third (by simpa using oneLine) ?_))
  rw [lines_singleton (by simpa using oneClose) (by simp)]
  simpa using last

theorem silent_written {text : List Char} {directory : String}
    (oneLine : '\n' ∉ directory.toList) (noTab : '\t' ∉ directory.toList)
    (silent : ∀ line ∈ replaced text, Silent line) :
    ∀ line ∈ written text directory, Silent line := by
  unfold written
  unfold replaced at silent
  cases found : around? text with
  | none =>
    have block := @silent_lines_block [] [] directory (silent_comment (by decide)) (by simp)
      oneLine noTab (by simp) (by simp)
    simpa using block
  | some cut =>
    obtain ⟨before, after⟩ := cut
    obtain ⟨inner, eq⟩ := around?_eq_some found
    dsimp only
    rw [found, eq] at silent
    simp only [between_eq] at silent
    have oneStart : '\n' ∉ openLine before := fun feed => by
      simpa using List.mem_rtakeWhile_imp feed
    have noTabs : '\t' ∉ openLine before ++ (sentence.toList ++ inner ++ ending.toList) ++
        firstLine after := by
      intro tab
      obtain ⟨line, inLines, inLine⟩ := exists_mem_lines tab (by decide) (by decide)
      exact (silent_iff.1 (silent line inLines)).1 inLine
    simp only [List.append_assoc, List.mem_append, not_or] at noTabs silent
    refine silent_lines_block (silent_iff.2 ⟨?_, ?_⟩) oneStart oneLine noTab
      (no_feed_firstLine after) noTabs.2.2.2.2
    · rw [List.mem_append, not_or]
      exact ⟨noTabs.1, noTabs.2.1⟩
    · -- The line that the earlier notice starts on starts the same way.
      have last : (openLine before ++ sentence.toList).getLast? = some '.' :=
        List.getLast?_append_of_ne_nil _ (by decide)
      have single : '\n' ∉ openLine before ++ sentence.toList := by
        rw [List.mem_append, not_or]
        exact ⟨oneStart, by decide⟩
      have letters : ¬Blanks (openLine before ++ sentence.toList) := fun blank =>
        absurd (blank '.' (List.mem_of_getLast? last)) (by decide)
      have first := append_firstLine_mem last (by decide) single
        (inner ++ (ending.toList ++ firstLine after))
      rw [List.append_assoc] at first
      rw [← isSignificant_append letters]
      exact (silent_iff.1 (silent _ first)).2

end Notice

open Notice in
/-- Overwriting a source with its aligned form and a notice does not change what it declares, if an
earlier notice runs through blank lines and comments only. -/
theorem dump_build_attachTo {builder : Builder} {source aligned directory origin : String}
    {gutter : Nat} {heap : Heap} (ok : align source gutter = .ok aligned)
    (oneLine : '\n' ∉ directory.toList) (noTab : '\t' ∉ directory.toList)
    (silent : ∀ line ∈ replaced aligned.toList, Silent line) :
    (builder.build (attachTo aligned directory) origin heap).dump? =
        (builder.build source origin heap).dump? ∧
      ∃ above below, lines aligned.toList = above ++ replaced aligned.toList ++ below ∧
        lines (attachTo aligned directory).toList =
          above ++ written aligned.toList directory ++ below := by
  obtain ⟨above, below, split, attached⟩ := lines_attachTo aligned directory
  refine ⟨?_, above, below, split, attached⟩
  obtain ⟨read, read', reads, reads', same, flush⟩ := significant_of_align ok
  rw [split] at reads' flush
  obtain ⟨_, readBelow, rfl, readsFront, readsBelow⟩ := reads_append_iff.1 reads'
  obtain ⟨readAbove, readReplaced, rfl, readsAbove, readsReplaced⟩ := reads_append_iff.1 readsFront
  obtain ⟨readWritten, readsWritten, none⟩ := reads_of_silent (silent_written oneLine noTab silent)
  have readsAttached : Reads (lines (attachTo aligned directory).toList)
      (readAbove ++ readWritten ++ readBelow) := by
    rw [attached, reads_append_iff]
    exact ⟨_, _, rfl, reads_append_iff.2 ⟨_, _, rfl, readsAbove, readsWritten⟩, readsBelow⟩
  -- Neither the lines of the earlier notice nor those of the new one are significant.
  have sameAttached : significant (readAbove ++ readWritten ++ readBelow) =
      significant (readAbove ++ readReplaced ++ readBelow) := by
    simp only [significant_append, none, significant_eq_nil readsReplaced silent]
  have flushAttached := commonIndent_of_significant reads' readsAttached sameAttached
  rw [flush] at flushAttached
  rw [← dedent_of_commonIndent_eq_zero flushAttached] at readsAttached
  exact Builder.dump?_of_significant readsAttached reads (sameAttached.trans same)

def archivedSource : String :=
  "# This file has been automatically re-formatted.\n" ++
  "# Previous versions can be found here:\n# old\n##\n  ok LABEL(go)\n"

def archivedAligned : String :=
  "# This file has been automatically re-formatted.\n" ++
  "# Previous versions can be found here:\n# old\n##\nok      LABEL(go)\n"

theorem dump_build_attachTo_again :
    align archivedSource 6 = .ok archivedAligned ∧
      (build archivedSource "ui").dump? = some "ok    QLabel\n" ∧
      (build (Notice.attachTo archivedAligned "new") "ui").dump? =
        (build archivedSource "ui").dump? := by
  have aligned : align archivedSource 6 = .ok archivedAligned := by decide +kernel
  have dump : (build archivedSource "ui").dump? = some "ok    QLabel\n" := by decide +kernel
  have same := @dump_build_attachTo .builtin archivedSource archivedAligned "new" "ui" 6 .empty
    aligned (by decide) (by decide) (by decide +kernel)
  exact ⟨aligned, dump, same.1⟩

def quotingSource : String := "a LABEL(# This file has been automatically re-formatted. ##)\n"

def quotingAligned : String :=
  "a      LABEL(# This file has been automatically re-formatted. ##)\n"

theorem not_dump_build_attachTo_quoting :
    align quotingSource 6 = .ok quotingAligned ∧
      (build quotingSource "ui").dump? = some "a    QLabel\n" ∧
      (build (Notice.attachTo quotingAligned "b") "ui").dump? = none := by
  decide +kernel

end WidgetOutline
