import WidgetOutline.Text.Blank
import Mathlib.Data.List.DropRight

namespace WidgetOutline.Text

def Blanks (text : List Char) : Prop := ∀ c ∈ text, isBlank c = true

def IsWord (text : List Char) : Prop := text ≠ [] ∧ ∀ c ∈ text, isBlank c = false

theorem blanks_append {a b : List Char} : Blanks (a ++ b) ↔ Blanks a ∧ Blanks b := by
  simp [Blanks, or_imp, forall_and]

theorem blanks_spaces (n : Nat) : Blanks (List.replicate n ' ') := by
  intro c member
  rw [List.eq_of_mem_replicate member]
  decide

theorem IsWord.head {word : List Char} (solid : IsWord word) :
    ∃ c rest, word = c :: rest ∧ isBlank c = false := by
  cases word with
  | nil => exact absurd rfl solid.1
  | cons c rest => exact ⟨c, rest, rfl, solid.2 c List.mem_cons_self⟩

theorem takeWhile_append_stop {α : Type} {p : α → Bool} {a b : List α}
    (all : ∀ x ∈ a, p x = true) (stops : ∀ x ∈ b.head?, p x = false) :
    (a ++ b).takeWhile p = a ∧ (a ++ b).dropWhile p = b := by
  rw [List.takeWhile_append_of_pos all, List.dropWhile_append_of_pos all]
  cases b with
  | nil => simp
  | cons x b => simp [stops x rfl]

theorem trimStart_append_of_blanks {a : List Char} (blank : Blanks a) (b : List Char) :
    trimStart (a ++ b) = trimStart b :=
  List.dropWhile_append_of_pos blank

theorem trimStart_eq_nil_iff {text : List Char} : trimStart text = [] ↔ Blanks text := by
  simp [trimStart, Blanks]

theorem trimStart_append_blanks {a b : List Char} (blank : Blanks b) :
    trimStart (a ++ b) = if trimStart a = [] then [] else trimStart a ++ b := by
  have none : b.dropWhile isBlank = [] := trimStart_eq_nil_iff.2 blank
  unfold trimStart
  rw [List.dropWhile_append, none]
  by_cases empty : a.dropWhile isBlank = [] <;> simp [empty]

theorem trimStart_word {word : List Char} (solid : IsWord word) (rest : List Char) :
    trimStart (word ++ rest) = word ++ rest := by
  obtain ⟨c, later, rfl, letter⟩ := solid.head
  simp [trimStart, letter]

theorem margin_append_trimStart (text : List Char) :
    text.takeWhile isBlank ++ trimStart text = text :=
  List.takeWhile_append_dropWhile

theorem blanks_takeWhile (text : List Char) : Blanks (text.takeWhile isBlank) :=
  fun _ member => List.mem_takeWhile_imp member

theorem trimEnd_append_blanks (a : List Char) {b : List Char} (blank : Blanks b) :
    trimEnd (a ++ b) = trimEnd a := by
  unfold trimEnd
  rw [List.reverse_append, List.dropWhile_append_of_pos]
  simpa [Blanks] using blank

theorem exists_append_trimEnd (text : List Char) :
    ∃ blanks, Blanks blanks ∧ text = trimEnd text ++ blanks :=
  ⟨text.rtakeWhile isBlank, fun _ => List.mem_rtakeWhile_imp,
    List.rdropWhile_append_rtakeWhile.symm⟩

theorem trimEnd_eq_nil_iff {text : List Char} : trimEnd text = [] ↔ Blanks text :=
  List.rdropWhile_eq_nil_iff

theorem trimEnd_trimEnd (text : List Char) : trimEnd (trimEnd text) = trimEnd text :=
  List.rdropWhile_idempotent isBlank text

theorem trimEnd_append {b : List Char} (a : List Char) (letters : ¬Blanks b) :
    trimEnd (a ++ b) = a ++ trimEnd b := by
  have kept : (b.reverse.dropWhile isBlank).isEmpty = false := by
    simpa [Blanks] using letters
  simp [trimEnd, List.dropWhile_append, kept]

theorem mem_of_mem_trimEnd {text : List Char} {c : Char} (member : c ∈ trimEnd text) : c ∈ text :=
  (List.rdropWhile_prefix isBlank text).subset member

theorem not_blank_of_getLast?_trimEnd {text : List Char} {c : Char}
    (last : (trimEnd text).getLast? = some c) : isBlank c = false := by
  have letters : trimEnd text ≠ [] := by
    intro empty
    simp [empty] at last
  have notBlank := List.rdropWhile_last_not isBlank text letters
  rw [List.getLast?_eq_some_getLast letters, Option.some.injEq] at last
  rw [← last]
  exact Bool.eq_false_iff.2 notBlank

theorem trim_append_blanks (a : List Char) {b : List Char} (blank : Blanks b) :
    trim (a ++ b) = trim a := by
  unfold trim
  rw [trimStart_append_blanks blank]
  split
  · simp [*]
  · exact trimEnd_append_blanks _ blank

theorem trim_of_blanks_append {a : List Char} (blank : Blanks a) (b : List Char) :
    trim (a ++ b) = trim b := by
  rw [trim, trimStart_append_of_blanks blank, trim]

theorem trim_eq_nil_iff {text : List Char} : trim text = [] ↔ Blanks text := by
  rw [trim, trimEnd_eq_nil_iff]
  conv_rhs => rw [← margin_append_trimStart text, blanks_append]
  exact ⟨fun blank => ⟨blanks_takeWhile text, blank⟩, And.right⟩

theorem trim_head {text rest : List Char} {c : Char} (trimmed : trimStart text = c :: rest) :
    ∃ later, trim text = c :: later := by
  have letter := not_blank_of_trimStart trimmed
  have letters : ¬Blanks [c] := by simp [Blanks, letter]
  rw [trim, trimmed]
  by_cases blank : Blanks rest
  · refine ⟨[], ?_⟩
    rw [← List.singleton_append, trimEnd_append_blanks _ blank]
    simp [trimEnd, letter]
  · exact ⟨trimEnd rest, trimEnd_append [c] blank⟩

def EndsWord (rest : List Char) : Prop := ∀ c ∈ rest.head?, isBlank c = true

theorem Blanks.endsWord {text : List Char} (blank : Blanks text) : EndsWord text :=
  fun c head => blank c (List.mem_of_mem_head? head)

theorem endsWord_append {a : List Char} (b : List Char) (blank : Blanks a) (nonempty : a ≠ []) :
    EndsWord (a ++ b) := by
  intro c head
  rw [List.head?_append_of_ne_nil a nonempty] at head
  exact blank c (List.mem_of_mem_head? head)

theorem words_eq_of_trimStart {text : List Char} :
    words text = match trimStart text with
      | [] => []
      | c :: rest => firstWord (c :: rest) :: words (afterFirstWord (c :: rest)) := by
  rw [words]
  split <;> rename_i trimmed <;> simp [trimmed]

theorem words_eq_nil_iff {text : List Char} : words text = [] ↔ Blanks text := by
  rw [words_eq_of_trimStart, ← trimStart_eq_nil_iff]
  split <;> simp [*]

theorem words_of_blanks_append {a : List Char} (blank : Blanks a) (b : List Char) :
    words (a ++ b) = words b := by
  rw [words_eq_of_trimStart, trimStart_append_of_blanks blank, ← words_eq_of_trimStart]

theorem firstWord_append {word rest : List Char} (solid : IsWord word) (ends : EndsWord rest) :
    firstWord (word ++ rest) = word ∧ afterFirstWord (word ++ rest) = rest :=
  takeWhile_append_stop (by simpa using solid.2) fun c head => by simpa using ends c head

theorem words_word_append {word rest : List Char} (solid : IsWord word) (ends : EndsWord rest) :
    words (word ++ rest) = word :: words rest := by
  obtain ⟨first, after⟩ := firstWord_append solid ends
  have trimmed := trimStart_word solid rest
  obtain ⟨c, later, rfl, -⟩ := solid.head
  rw [List.cons_append] at trimmed first after ⊢
  rw [words_eq_of_trimStart, trimmed]
  simp only [first, after]

theorem words_cons_iff {text word : List Char} {later : List (List Char)} :
    words text = word :: later ↔ ∃ margin rest, text = margin ++ (word ++ rest) ∧
      Blanks margin ∧ IsWord word ∧ EndsWord rest ∧ words rest = later := by
  constructor
  · intro cut
    rw [words_eq_of_trimStart] at cut
    split at cut
    · cases cut
    · rename_i c rest trimmed
      rw [List.cons.injEq] at cut
      obtain ⟨rfl, rfl⟩ := cut
      refine ⟨text.takeWhile isBlank, afterFirstWord (c :: rest), ?_, blanks_takeWhile text, ?_,
        ?_, rfl⟩
      · rw [firstWord, afterFirstWord, List.takeWhile_append_dropWhile, ← trimmed,
          margin_append_trimStart]
      · exact ⟨by simp [firstWord, not_blank_of_trimStart trimmed],
          fun d member => by simpa using List.mem_takeWhile_imp member⟩
      · intro d head
        have := List.head?_dropWhile_not (!isBlank ·) (c :: rest)
        rw [show (c :: rest).dropWhile (!isBlank ·) = afterFirstWord (c :: rest) from rfl,
          Option.mem_def.1 head] at this
        simpa using this
  · rintro ⟨margin, rest, rfl, blank, solid, ends, rfl⟩
    rw [words_of_blanks_append blank, words_word_append solid ends]

theorem words_append_blanks (a : List Char) {b : List Char} (blank : Blanks b) :
    words (a ++ b) = words a := by
  generalize cut : words a = found
  induction found generalizing a with
  | nil => exact words_eq_nil_iff.2 (blanks_append.2 ⟨words_eq_nil_iff.1 cut, blank⟩)
  | cons word later ih =>
    obtain ⟨margin, rest, rfl, margined, solid, ends, rfl⟩ := words_cons_iff.1 cut
    refine words_cons_iff.2 ⟨margin, rest ++ b, by simp, margined, solid, ?_, ih rest rfl⟩
    cases rest with
    | nil => exact blank.endsWord
    | cons c rest => exact ends

theorem words_pair_iff {text first second : List Char} :
    words text = [first, second] ↔ ∃ margin gap space,
      text = margin ++ first ++ gap ++ second ++ space ∧ Blanks margin ∧ IsWord first ∧
        Blanks gap ∧ gap ≠ [] ∧ IsWord second ∧ Blanks space := by
  constructor
  · intro cut
    obtain ⟨margin, rest, rfl, margined, solid, ends, cut⟩ := words_cons_iff.1 cut
    obtain ⟨gap, space, rfl, gapped, solid', -, cut⟩ := words_cons_iff.1 cut
    refine ⟨margin, gap, space, by simp, margined, solid, gapped, ?_, solid',
      words_eq_nil_iff.1 cut⟩
    rintro rfl
    -- Without a gap the first word would go on.
    obtain ⟨c, word, rfl, letter⟩ := solid'.head
    simpa [letter] using ends c rfl
  · rintro ⟨margin, gap, space, rfl, margined, solid, gapped, nonempty, solid', spaced⟩
    simp only [List.append_assoc]
    rw [words_of_blanks_append margined,
      words_word_append solid (endsWord_append _ gapped nonempty),
      words_of_blanks_append gapped, words_word_append solid' spaced.endsWord,
      words_eq_nil_iff.2 spaced]

end WidgetOutline.Text
