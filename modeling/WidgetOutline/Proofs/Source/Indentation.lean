import WidgetOutline.Source
import WidgetOutline.Proofs.Line.Reading

namespace WidgetOutline
open Text

theorem readWords_indent {indent : Nat} {code : List Char} {span : Option (List Char)} {line : Line}
    (read : readWords indent code span = .ok line) : line.indent? = some indent := by
  unfold readWords at read
  split at read
  · split at read
    · cases read
    · split at read <;> cases read
      rfl
  · rename_i name word _
    cases made : readItem indent code span name word with
    | error error => simp [made, Except.map] at read
    | ok item =>
      simp only [made, Except.map, Except.ok.injEq] at read
      obtain ⟨-, -, -, typeWord, text, -, -, rfl⟩ := readItem_ok_iff.1 made
      rw [← read, Line.indent?]
  · cases read

theorem readLine_indent {text : List Char} {line : Line} (read : readLine text = .ok line) :
    isSignificant text = line.indent?.isSome ∧
      ∀ indent ∈ line.indent?, leadingSpaces text = indent ∧ indent % indentStep = 0 := by
  unfold readLine at read
  split at read
  · cases read
  · unfold isSignificant
    cases trimmed : trim text with
    | nil =>
      rw [trimmed] at read
      cases read
      simp [Line.indent?]
    | cons c rest =>
      rw [trimmed] at read
      dsimp only at read
      split at read
      · rename_i comment
        cases read
        simp [comment, Line.indent?]
      · rename_i notComment
        rw [readCode_eq] at read
        split at read
        · cases read
        · split at read
          · cases read
          · rename_i even
            rw [readWords_indent read]
            simpa [notComment] using even

def Silent (text : List Char) : Prop := ∃ line, readLine text = .ok line ∧ line.indent? = none

theorem silent_iff {text : List Char} :
    Silent text ↔ '\t' ∉ text ∧ isSignificant text = false := by
  constructor
  · rintro ⟨line, read, silent⟩
    refine ⟨no_tab_of_read read, ?_⟩
    rw [(readLine_indent read).1, silent]
    rfl
  · rintro ⟨noTab, insignificant⟩
    unfold isSignificant at insignificant
    unfold Silent readLine
    rw [if_neg noTab]
    cases trimmed : trim text with
    | nil => exact ⟨.blank, rfl, rfl⟩
    | cons c rest =>
      rw [trimmed] at insignificant
      exact ⟨.comment, if_pos (by simpa using insignificant), rfl⟩

instance (text : List Char) : Decidable (Silent text) := decidable_of_iff _ silent_iff.symm

theorem isSignificant_append_blanks (text : List Char) {blanks : List Char}
    (blank : Blanks blanks) : isSignificant (text ++ blanks) = isSignificant text := by
  rw [isSignificant, trim_append_blanks text blank, isSignificant]

theorem isSignificant_append {text : List Char} (letters : ¬Blanks text) (rest : List Char) :
    isSignificant (text ++ rest) = isSignificant text := by
  obtain ⟨c, more, trimmed⟩ := List.exists_cons_of_ne_nil (mt trimStart_eq_nil_iff.1 letters)
  have trimmed' : trimStart (text ++ rest) = c :: (more ++ rest) := by
    unfold trimStart at trimmed ⊢
    rw [List.dropWhile_append, trimmed]
    rfl
  obtain ⟨later, first⟩ := trim_head trimmed
  obtain ⟨later', first'⟩ := trim_head trimmed'
  rw [isSignificant, isSignificant, first, first']

theorem leadingSpaces_spaces_append (n : Nat) (text : List Char) :
    leadingSpaces (List.replicate n ' ' ++ text) = n + leadingSpaces text := by
  unfold leadingSpaces
  rw [List.takeWhile_append_of_pos (by simp +contextual), List.length_append,
    List.length_replicate]

theorem spaces_append_dropWhile (text : List Char) :
    List.replicate (leadingSpaces text) ' ' ++ text.dropWhile (· == ' ') = text := by
  have front : text.takeWhile (· == ' ') = List.replicate (leadingSpaces text) ' ' :=
    List.eq_replicate_iff.2 ⟨rfl, fun c member => by simpa using List.mem_takeWhile_imp member⟩
  rw [← front, List.takeWhile_append_dropWhile]

theorem spaces_append_outdent (common : Nat) (text : List Char) :
    List.replicate (min (leadingSpaces text) common) ' ' ++ outdent common text = text := by
  have parts := spaces_append_dropWhile text
  have bound := Nat.min_le_left (leadingSpaces text) common
  unfold outdent
  generalize min (leadingSpaces text) common = removed at bound ⊢
  rw [← Nat.add_sub_cancel' bound, ← List.replicate_append_replicate, List.append_assoc] at parts
  have front : text.take removed = List.replicate removed ' ' := by
    rw [← parts]
    exact List.take_left' (List.length_replicate ..)
  rw [← front, List.take_append_drop]

theorem leadingSpaces_outdent (common : Nat) (text : List Char) :
    leadingSpaces (outdent common text) = leadingSpaces text - common := by
  have total := leadingSpaces_spaces_append (min (leadingSpaces text) common) (outdent common text)
  rw [spaces_append_outdent] at total
  omega

theorem isSignificant_outdent (common : Nat) (text : List Char) :
    isSignificant (outdent common text) = isSignificant text := by
  have trimmed := trim_of_blanks_append (blanks_spaces (min (leadingSpaces text) common))
    (outdent common text)
  rw [spaces_append_outdent] at trimmed
  rw [isSignificant, isSignificant, trimmed]

theorem no_tab_outdent_iff {common : Nat} {text : List Char} :
    '\t' ∉ outdent common text ↔ '\t' ∉ text := by
  conv_rhs => rw [← spaces_append_outdent common text]
  simp

theorem Silent.outdent {text : List Char} (silent : Silent text) (common : Nat) :
    Silent (outdent common text) := by
  rw [silent_iff, isSignificant_outdent, no_tab_outdent_iff]
  exact silent_iff.1 silent

theorem commonIndent_eq_zero_iff {source : List (List Char)} :
    commonIndent source = 0 ↔
      source.filter isSignificant = [] ∨ ∃ text ∈ source.filter isSignificant,
        leadingSpaces text = 0 := by
  unfold commonIndent
  cases least : ((source.filter isSignificant).map leadingSpaces).min? with
  | none =>
    rw [List.min?_eq_none_iff, List.map_eq_nil_iff] at least
    simp [least]
  | some k =>
    obtain ⟨member, bound⟩ := List.min?_eq_some_iff.1 least
    obtain ⟨text, member', rfl⟩ := List.mem_map.1 member
    have nonempty := List.ne_nil_of_mem member'
    simp only [Option.getD_some, nonempty, false_or]
    constructor
    · exact fun zero => ⟨text, member', zero⟩
    · rintro ⟨other, otherMember, zero⟩
      have := bound _ (List.mem_map_of_mem otherMember)
      omega

theorem commonIndent_outdent (source : List (List Char)) :
    commonIndent (source.map (outdent (commonIndent source))) = 0 := by
  rw [commonIndent_eq_zero_iff, List.filter_map]
  simp only [Function.comp_def, isSignificant_outdent, List.map_eq_nil_iff, List.mem_map]
  cases least : ((source.filter isSignificant).map leadingSpaces).min? with
  | none =>
    rw [List.min?_eq_none_iff, List.map_eq_nil_iff] at least
    exact .inl least
  | some k =>
    obtain ⟨member, -⟩ := List.min?_eq_some_iff.1 least
    obtain ⟨text, member', rfl⟩ := List.mem_map.1 member
    refine .inr ⟨_, ⟨text, member', rfl⟩, ?_⟩
    rw [leadingSpaces_outdent, commonIndent, least, Option.getD_some, Nat.sub_self]

theorem commonIndent_of_read {source : List (List Char)} {read : List Line}
    (reads : List.Forall₂ (fun text line => readLine text = .ok line) source read) :
    commonIndent source = (read.filterMap Line.indent?).min?.getD 0 := by
  have indents : (source.filter isSignificant).map leadingSpaces = read.filterMap Line.indent? := by
    induction reads with
    | nil => rfl
    | @cons text line _ _ ok _ ih =>
      obtain ⟨significant, spaces⟩ := readLine_indent ok
      cases indent : line.indent? with
      | none => simp [significant, indent, ih]
      | some n => simp [significant, indent, ih, (spaces n indent).1]
  rw [commonIndent, indents]

end WidgetOutline
