import WidgetOutline.Text.Lines
import Mathlib.Tactic

namespace WidgetOutline.Text

def Tidy (line : List Char) : Prop := '\n' ∉ line ∧ line.getLast? ≠ some '\r'

def finalFeed (text : List Char) : List Char := if text.getLast? = some '\n' then ['\n'] else []

theorem lines_eq_nil_iff {text : List Char} : lines text = [] ↔ text = [] := by
  constructor
  · intro none
    fun_cases lines text <;> simp_all [lines]
  · rintro rfl
    rfl

theorem exists_mem_lines {text : List Char} {c : Char} (member : c ∈ text) (notFeed : c ≠ '\n')
    (notReturn : c ≠ '\r') : ∃ line ∈ lines text, c ∈ line := by
  fun_induction lines text with
  | case1 => cases member
  | case2 rest ih =>
    obtain ⟨line, inLines, inLine⟩ := ih (by simpa [notFeed] using member)
    exact ⟨line, List.mem_cons_of_mem _ inLines, inLine⟩
  | case3 rest ih =>
    obtain ⟨line, inLines, inLine⟩ := ih (by simpa [notFeed, notReturn] using member)
    exact ⟨line, List.mem_cons_of_mem _ inLines, inLine⟩
  | case4 d rest _ _ none ih =>
    rcases List.mem_cons.1 member with rfl | later
    · exact ⟨[c], List.mem_cons_self, List.mem_cons_self⟩
    · obtain ⟨line, inLines, -⟩ := ih later
      rw [none] at inLines
      cases inLines
  | case5 d rest _ _ first later split ih =>
    rcases List.mem_cons.1 member with rfl | after
    · exact ⟨_, List.mem_cons_self, List.mem_cons_self⟩
    · obtain ⟨line, inLines, inLine⟩ := ih after
      rw [split] at inLines
      rcases List.mem_cons.1 inLines with rfl | inLater
      · exact ⟨_, List.mem_cons_self, List.mem_cons_of_mem d inLine⟩
      · exact ⟨line, List.mem_cons_of_mem _ inLater, inLine⟩

theorem lines_append_feed {line : List Char} (tidy : Tidy line) (rest : List Char) :
    lines (line ++ '\n' :: rest) = line :: lines rest := by
  induction line with
  | nil => rfl
  | cons c line ih =>
    obtain ⟨noFeed, noReturn⟩ := tidy
    rw [List.mem_cons, not_or] at noFeed
    have tail : lines (line ++ '\n' :: rest) = line :: lines rest := by
      cases line with
      | nil => rfl
      | cons d line => exact ih ⟨noFeed.2, by simpa using noReturn⟩
    rw [List.cons_append, lines, tail]
    · exact fun feed => noFeed.1 feed.symm
    · intro after return_ same
      -- A carriage return right before the line feed would be the last character of the line.
      cases line with
      | nil => simp [return_] at noReturn
      | cons d line => exact noFeed.2 (by simp_all)

theorem lines_singleton {line : List Char} (noFeed : '\n' ∉ line) (nonempty : line ≠ []) :
    lines line = [line] := by
  induction line with
  | nil => exact absurd rfl nonempty
  | cons c line ih =>
    rw [List.mem_cons, not_or] at noFeed
    rw [lines]
    · cases line with
      | nil => rfl
      | cons d line => rw [ih noFeed.2 (by simp)]
    · exact fun feed => noFeed.1 feed.symm
    · intro after _ same
      exact noFeed.2 (by simp [same])

theorem lines_cons {c : Char} {rest : List Char} (notFeed : c ≠ '\n')
    (notReturn : c = '\r' → rest.head? ≠ some '\n') :
    lines (c :: rest) = match lines rest with
      | [] => [[c]]
      | line :: later => (c :: line) :: later := by
  have notBoth : ∀ after, c = '\r' → rest = '\n' :: after → False := by
    rintro after return_ rfl
    exact notReturn return_ rfl
  cases split : lines rest with
  | nil =>
    rw [lines, split]
    · exact notFeed
    · exact notBoth
  | cons line later =>
    rw [lines, split]
    · exact notFeed
    · exact notBoth

theorem lines_cons_append {text front : List Char} {more : List (List Char)}
    (split : lines text = lines front ++ more) (nonempty : front ≠ [])
    (head : text.head? = front.head?) (c : Char) :
    lines (c :: text) = lines (c :: front) ++ more := by
  by_cases feed : c = '\n'
  · subst feed
    rw [lines, lines, split, List.cons_append]
  · by_cases return_ : c = '\r' ∧ front.head? = some '\n'
    · -- The carriage return belongs to the line feed after it and is in no line.
      obtain ⟨rfl, feeds⟩ := return_
      obtain ⟨front, rfl⟩ := List.head?_eq_some_iff.1 feeds
      obtain ⟨text, rfl⟩ := List.head?_eq_some_iff.1 (head.trans feeds)
      rw [lines, lines] at split
      rw [lines, lines, split]
    · have notReturn : c = '\r' → front.head? ≠ some '\n' := fun same feeds =>
        return_ ⟨same, feeds⟩
      rw [lines_cons feed notReturn, lines_cons feed (head ▸ notReturn), split]
      cases first : lines front with
      | nil => exact absurd (lines_eq_nil_iff.1 first) nonempty
      | cons line later => rfl

theorem lines_append_of_feed {text : List Char} (ends : text = [] ∨ text.getLast? = some '\n')
    (rest : List Char) : lines (text ++ rest) = lines text ++ lines rest := by
  induction text with
  | nil => rfl
  | cons c text ih =>
    by_cases single : text = []
    · subst single
      obtain rfl : c = '\n' := by simpa using ends
      rfl
    · have ends' : text.getLast? = some '\n' := by
        rw [← List.getLast?_cons_of_ne_nil single]
        simpa using ends
      refine lines_cons_append (ih (.inr ends')) single ?_ c
      exact List.head?_append_of_ne_nil text single

def firstLine (text : List Char) : List Char := (lines text).headD []

theorem no_feed_firstLine (text : List Char) : '\n' ∉ firstLine text := by
  unfold firstLine
  cases split : lines text with
  | nil => exact List.not_mem_nil
  | cons first later =>
    have member : first ∈ lines text := by simp [split]
    exact not_mem_of_mem_lines member

theorem lines_append_letter (text : List Char) {c : Char} (notFeed : c ≠ '\n')
    (notReturn : c ≠ '\r') (rest : List Char) :
    lines (text ++ c :: rest) = lines (text ++ c :: firstLine rest) ++ (lines rest).tail := by
  induction text with
  | nil =>
    have single : '\n' ∉ c :: firstLine rest := by
      rw [List.mem_cons, not_or]
      exact ⟨notFeed.symm, no_feed_firstLine rest⟩
    rw [List.nil_append, List.nil_append, lines_cons notFeed (absurd · notReturn),
      lines_singleton single (by simp), firstLine]
    cases lines rest <;> rfl
  | cons d text ih =>
    refine lines_cons_append ih (by simp) ?_ d
    cases text <;> rfl

theorem append_firstLine_mem {line : List Char} {c : Char} (last : line.getLast? = some c)
    (notReturn : c ≠ '\r') (noFeed : '\n' ∉ line) (rest : List Char) :
    line ++ firstLine rest ∈ lines (line ++ rest) := by
  obtain ⟨front, rfl⟩ := List.getLast?_eq_some_iff.1 last
  have notFeed : c ≠ '\n' := by
    rintro rfl
    simp at noFeed
  have single : '\n' ∉ front ++ [c] ++ firstLine rest := by
    rw [List.mem_append, not_or]
    exact ⟨noFeed, no_feed_firstLine rest⟩
  simp only [List.append_assoc, List.singleton_append] at single ⊢
  rw [lines_append_letter front notFeed notReturn, lines_singleton single (by simp)]
  exact List.mem_cons_self

theorem lines_line_feed {line : List Char} (noFeed : '\n' ∉ line) (rest : List Char) :
    ∃ kept, lines (line ++ '\n' :: rest) = kept :: lines rest ∧
      (line = kept ∨ line = kept ++ ['\r']) := by
  induction line with
  | nil => exact ⟨[], rfl, .inl rfl⟩
  | cons c line ih =>
    rw [List.mem_cons, not_or] at noFeed
    obtain ⟨kept, split, cut⟩ := ih noFeed.2
    by_cases return_ : c = '\r' ∧ line = []
    · obtain ⟨rfl, rfl⟩ := return_
      exact ⟨[], rfl, .inr rfl⟩
    · refine ⟨c :: kept, ?_, ?_⟩
      · rw [List.cons_append, lines_cons (Ne.symm noFeed.1), split]
        rintro rfl feed
        cases line with
        | nil => exact return_ ⟨rfl, rfl⟩
        | cons d line => exact noFeed.2 (by simp_all)
      · rcases cut with rfl | rfl
        · exact .inl rfl
        · exact .inr rfl

theorem joinLines_cons (line : List Char) {later : List (List Char)} (nonempty : later ≠ []) :
    joinLines (line :: later) = line ++ '\n' :: joinLines later := by
  cases later with
  | nil => exact absurd rfl nonempty
  | cons next later => rfl

theorem joinLines_append_empty {written : List (List Char)} (nonempty : written ≠ []) :
    joinLines (written ++ [[]]) = joinLines written ++ ['\n'] := by
  induction written with
  | nil => exact absurd rfl nonempty
  | cons line later ih =>
    cases later with
    | nil => rfl
    | cons next later =>
      rw [List.cons_append, joinLines_cons line (by simp), ih (by simp),
        joinLines_cons line (by simp), List.append_assoc, List.cons_append]

theorem lines_join_feed {written : List (List Char)} (tidy : ∀ line ∈ written, Tidy line)
    (nonempty : written ≠ []) : lines (joinLines written ++ ['\n']) = written := by
  induction written with
  | nil => exact absurd rfl nonempty
  | cons line later ih =>
    have first := tidy line List.mem_cons_self
    cases later with
    | nil => exact lines_append_feed first []
    | cons next later =>
      rw [joinLines_cons line (by simp), List.append_assoc, List.cons_append,
        lines_append_feed first, ih (fun l member => tidy l (List.mem_cons_of_mem _ member))
          (by simp)]

theorem lines_join {written : List (List Char)} {last : List Char}
    (tidy : ∀ line ∈ written ++ [last], Tidy line) (nonempty : last ≠ []) :
    lines (joinLines (written ++ [last])) = written ++ [last] ∧
      finalFeed (joinLines (written ++ [last])) = [] := by
  induction written with
  | nil =>
    obtain ⟨noFeed, -⟩ := tidy last (by simp)
    refine ⟨lines_singleton noFeed nonempty, if_neg fun feed => noFeed ?_⟩
    exact List.mem_of_getLast? feed
  | cons line later ih =>
    have first := tidy line (by simp)
    obtain ⟨split, final⟩ := ih fun l member => tidy l (List.mem_cons_of_mem _ member)
    have more : joinLines (later ++ [last]) ≠ [] := by
      intro empty
      rw [empty] at split
      simp [lines] at split
    rw [List.cons_append, joinLines_cons line (by simp)]
    refine ⟨by rw [lines_append_feed first, split], ?_⟩
    unfold finalFeed at final ⊢
    rw [List.getLast?_append_of_ne_nil _ (by simp), List.getLast?_cons_of_ne_nil more]
    exact final

/-- A text written from tidy lines is written again from the lines that are read from it, which
are the same but for an empty last line without a line feed. -/
theorem join_lines_of_join {written : List (List Char)} {feed : List Char}
    (tidy : ∀ line ∈ written, Tidy line) (ends : feed = [] ∨ feed = ['\n'] ∧ written ≠ []) :
    let text := joinLines written ++ feed
    (lines text = written ∨ lines text ++ [[]] = written) ∧
      joinLines (lines text) ++ finalFeed text = text := by
  intro text
  rcases ends with rfl | ⟨rfl, nonempty⟩
  · rcases List.eq_nil_or_concat written with rfl | ⟨earlier, last, rfl⟩
    · exact ⟨.inl rfl, rfl⟩
    · simp only [List.concat_eq_append] at tidy
      simp only [text, List.concat_eq_append, List.append_nil]
      by_cases empty : last = []
      · subst empty
        by_cases single : earlier = []
        · subst single
          exact ⟨.inr rfl, rfl⟩
        · have split := lines_join_feed (fun l member => tidy l (by simp [member])) single
          rw [joinLines_append_empty single, split]
          exact ⟨.inr rfl, by simp [finalFeed]⟩
      · obtain ⟨split, final⟩ := lines_join tidy empty
        rw [split, final, List.append_nil]
        exact ⟨.inl rfl, rfl⟩
  · have split := lines_join_feed tidy nonempty
    simp only [text]
    rw [split]
    exact ⟨.inl rfl, by simp [finalFeed]⟩

end WidgetOutline.Text
