import WidgetOutline.Proofs.Line.Writing
import WidgetOutline.Proofs.Source.Indentation

namespace WidgetOutline
open Text

section

variable {comment : List Char} (starts : ∀ c ∈ comment.head?, c = commentMarker)

include starts

theorem not_isCode_of_comment : ∀ c ∈ comment.head?, isCode c = false := by
  intro c head
  rw [starts c head]
  rfl

theorem closesLine_append_comment (rest : List Char) :
    closesLine (rest ++ comment) = closesLine rest := by
  by_cases blank : Blanks rest
  · rw [closesLine_append blank starts, closesLine, trimStart_eq_nil_iff.2 blank]
  · obtain ⟨c, more, trimmed⟩ := List.exists_cons_of_ne_nil (mt trimStart_eq_nil_iff.1 blank)
    have trimmed' : trimStart (rest ++ comment) = c :: (more ++ comment) := by
      unfold trimStart at trimmed ⊢
      rw [List.dropWhile_append, trimmed]
      rfl
    rw [closesLine, closesLine, trimmed, trimmed']

theorem closedSpan_append_comment {escaped : Bool} {text span : List Char}
    (closed : closedSpan escaped text = some span) :
    closedSpan escaped (text ++ comment) = some span := by
  induction text generalizing escaped span with
  | nil => cases closed
  | cons c rest ih =>
    rw [List.cons_append, closedSpan, closesLine_append_comment starts]
    rw [closedSpan] at closed
    split at closed
    · rename_i closes
      rwa [if_pos closes]
    · rename_i open_
      obtain ⟨later, closed', rfl⟩ := Option.map_eq_some_iff.1 closed
      rw [if_neg open_, ih closed', Option.map_some]

theorem cutSpan_append_comment {line code : List Char} {span : Option (List Char)}
    (cut : cutSpan line = .ok (code, span)) : cutSpan (line ++ comment) = .ok (code, span) := by
  obtain ⟨tail, rfl, isCoded, stops, cutAt⟩ := cutSpan_ok cut
  rw [List.append_assoc]
  cases tail with
  | nil =>
    rw [List.nil_append, cutSpan_code_append isCoded (not_isCode_of_comment starts)]
    cases comment with
    | nil => exact cutAt
    | cons c more =>
      obtain rfl := starts c rfl
      rwa [cutAt_comment _ _ (by decide)]
  | cons c tail =>
    rw [List.cons_append, cutSpan_code_append isCoded (by simpa using stops)]
    by_cases paren : c = '('
    · subst paren
      unfold WidgetOutline.cutAt at cutAt ⊢
      cases closed : closedSpan false tail with
      | none => simp [closed] at cutAt
      | some inner => simpa [closed, closedSpan_append_comment starts closed] using cutAt
    · rwa [cutAt_comment _ _ paren, ← cutAt_comment _ tail paren]

theorem readCode_append_comment {line : List Char} {said : Line} (letters : ¬Blanks line)
    (read : readCode line = .ok said) : readCode (line ++ comment) = .ok said := by
  rw [readCode_eq] at read ⊢
  cases cut : cutSpan line with
  | error error =>
    rw [cut] at read
    cases read
  | ok parts =>
    rw [cut] at read
    rwa [cutSpan_append_comment starts cut, leadingSpaces_append letters]

end

theorem letters_of_isSignificant {text : List Char} (significant : isSignificant text = true) :
    ¬Blanks text := by
  intro blank
  rw [isSignificant, trim_eq_nil_iff.2 blank] at significant
  cases significant

theorem readLine_of_isSignificant {text : List Char} (noTab : '\t' ∉ text)
    (significant : isSignificant text = true) : readLine text = readCode text := by
  unfold isSignificant at significant
  unfold readLine
  rw [if_neg noTab]
  cases trimmed : trim text with
  | nil =>
    rw [trimmed] at significant
    cases significant
  | cons c rest =>
    rw [trimmed] at significant
    exact if_neg (by simpa using significant)

theorem isSignificant_comment {comment : List Char}
    (starts : ∀ c ∈ comment.head?, c = commentMarker) : isSignificant comment = false := by
  cases comment with
  | nil => rfl
  | cons c rest =>
    obtain rfl := starts c rfl
    have first : trimStart (commentMarker :: rest) = commentMarker :: rest :=
      List.dropWhile_cons_of_neg (by decide)
    obtain ⟨later, trimmed⟩ := trim_head first
    simp [isSignificant, trimmed]

section

variable {text : List Char} {margin : String}

theorem readLine_append_margin {said : Line} (read : readLine text = .ok said)
    (indented : said.indent?.isSome = true) (isMargin : IsMargin margin) :
    readLine (text ++ margin.toList) = .ok said := by
  obtain ⟨⟨space, comment, parts, blank, starts⟩, noTab⟩ := isMargin
  rw [parts, List.mem_append, not_or] at noTab
  -- The blanks before the comment belong to the line.
  rw [← readLine_append_blanks text blank noTab.1] at read
  rw [parts, ← List.append_assoc]
  have noTab' := no_tab_of_read read
  have significant := (readLine_indent read).1
  rw [indented] at significant
  have letters := letters_of_isSignificant significant
  rw [readLine_of_isSignificant noTab' significant] at read
  rw [readLine_of_isSignificant (by simp_all) (by rwa [isSignificant_append letters])]
  exact readCode_append_comment starts letters read

theorem isSignificant_append_margin (isMargin : IsMargin margin) (text : List Char) :
    isSignificant (text ++ margin.toList) = isSignificant text := by
  by_cases letters : Blanks text
  · obtain ⟨⟨space, comment, parts, blank, starts⟩, -⟩ := isMargin
    have blank' := blanks_append.2 ⟨letters, blank⟩
    rw [parts, ← List.append_assoc, isSignificant, trim_of_blanks_append blank', ← isSignificant,
      isSignificant_comment starts, isSignificant, trim_eq_nil_iff.2 letters]
  · exact isSignificant_append letters _

theorem Silent.append_margin (silent : Silent text) (isMargin : IsMargin margin) :
    Silent (text ++ margin.toList) := by
  obtain ⟨noTab, insignificant⟩ := silent_iff.1 silent
  refine silent_iff.2 ⟨by simp [noTab, isMargin.noTab], ?_⟩
  rw [isSignificant_append_margin isMargin, insignificant]

theorem isMargin_iff_silent : IsMargin margin ↔ Silent margin.toList := by
  constructor
  · intro isMargin
    have empty : Silent [] := ⟨.blank, rfl, rfl⟩
    exact empty.append_margin isMargin
  · intro silent
    obtain ⟨noTab, insignificant⟩ := silent_iff.1 silent
    refine ⟨⟨margin.toList.takeWhile isBlank, trimStart margin.toList, ?_, blanks_takeWhile _, ?_⟩,
      noTab⟩
    · exact (margin_append_trimStart _).symm
    · intro c head
      cases trimmed : trimStart margin.toList with
      | nil => simp [trimmed] at head
      | cons first rest =>
        obtain ⟨later, trimmed'⟩ := trim_head trimmed
        obtain rfl : first = c := by simpa [trimmed] using head
        simpa [isSignificant, trimmed'] using insignificant

instance (margin : String) : Decidable (IsMargin margin) :=
  decidable_of_iff _ isMargin_iff_silent.symm

end

end WidgetOutline
