import WidgetOutline.Proofs.Text.Blank
import WidgetOutline.Proofs.Text.Lines

namespace WidgetOutline.Text

def letters (text : List Char) : List Char := text.filter (!isBlank ·)

theorem letters_append (a b : List Char) : letters (a ++ b) = letters a ++ letters b :=
  List.filter_append ..

theorem letters_eq_nil_iff {text : List Char} : letters text = [] ↔ Blanks text := by
  simp [letters, Blanks]

theorem letters_cons (c : Char) (rest : List Char) :
    letters (c :: rest) = letters [c] ++ letters rest :=
  letters_append [c] rest

theorem letters_cons_of_blank {c : Char} (blank : isBlank c = true) (rest : List Char) :
    letters (c :: rest) = letters rest :=
  List.filter_cons_of_neg (by simp [blank])

theorem letters_blanks_append {a : List Char} (blank : Blanks a) (b : List Char) :
    letters (a ++ b) = letters b := by
  rw [letters_append, letters_eq_nil_iff.2 blank, List.nil_append]

theorem letters_append_blanks (a : List Char) {b : List Char} (blank : Blanks b) :
    letters (a ++ b) = letters a := by
  rw [letters_append, letters_eq_nil_iff.2 blank, List.append_nil]

theorem letters_trimEnd (text : List Char) : letters (trimEnd text) = letters text := by
  obtain ⟨blanks, blank, split⟩ := exists_append_trimEnd text
  conv_rhs => rw [split, letters_append_blanks _ blank]

theorem letters_lines (text : List Char) : (lines text).flatMap letters = letters text := by
  fun_induction lines text with
  | case1 => rfl
  | case2 rest ih =>
    rw [letters_cons_of_blank (by decide), ← ih]
    rfl
  | case3 rest ih =>
    rw [letters_cons_of_blank (by decide), letters_cons_of_blank (by decide), ← ih]
    rfl
  | case4 c rest _ _ none ih =>
    rw [letters_cons, ← ih, none]
    simp
  | case5 c rest _ _ line later split ih =>
    rw [letters_cons, ← ih, split, List.flatMap_cons, List.flatMap_cons, letters_cons c line,
      List.append_assoc]

end WidgetOutline.Text
