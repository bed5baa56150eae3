import WidgetOutline.Proofs.Source.Margin

namespace WidgetOutline
open Text

/-- A closing parenthesis stands before every opening one and before any comment. -/
def Stray (line : List Char) : Prop :=
  ∃ front back, line = front ++ ')' :: back ∧ ∀ c ∈ front, isCode c = true

def Opens (line : List Char) : Prop :=
  ∃ front back, line = front ++ '(' :: back ∧ ∀ c ∈ front, isCode c = true

theorem stray_iff {line : List Char} : Stray line ↔ ')' ∈ line.takeWhile isCode := by
  constructor
  · rintro ⟨front, back, rfl, coded⟩
    rw [List.takeWhile_append_of_pos coded, List.takeWhile_cons_of_pos rfl]
    simp
  · intro member
    obtain ⟨front, rest, split⟩ := List.append_of_mem member
    refine ⟨front, rest ++ line.dropWhile isCode, ?_, fun c inFront => ?_⟩
    · rw [← List.cons_append, ← List.append_assoc, ← split, List.takeWhile_append_dropWhile]
    · have inCode : c ∈ line.takeWhile isCode := by
        rw [split]
        exact List.mem_append_left _ inFront
      exact List.mem_takeWhile_imp inCode

theorem opens_iff {line : List Char} : Opens line ↔ (line.dropWhile isCode).head? = some '(' := by
  constructor
  · rintro ⟨front, back, rfl, coded⟩
    rw [List.dropWhile_append_of_pos coded, List.dropWhile_cons_of_neg (by decide)]
    rfl
  · intro head
    obtain ⟨inner, split⟩ := List.head?_eq_some_iff.1 head
    refine ⟨line.takeWhile isCode, inner, ?_, fun _ => List.mem_takeWhile_imp⟩
    rw [← split, List.takeWhile_append_dropWhile]

instance (line : List Char) : Decidable (Stray line) := decidable_of_iff _ stray_iff.symm

instance (line : List Char) : Decidable (Opens line) := decidable_of_iff _ opens_iff.symm

theorem isSignificant_of_code {text : List Char} (letters : ¬Blanks text)
    (coded : ∀ c ∈ text, isCode c = true) : isSignificant text = true := by
  obtain ⟨c, rest, trimmed⟩ := List.exists_cons_of_ne_nil (mt trimStart_eq_nil_iff.1 letters)
  obtain ⟨later, start⟩ := trim_head trimmed
  have member : c ∈ trimStart text := trimmed ▸ List.mem_cons_self
  have notComment := coded c ((List.dropWhile_sublist _).subset member)
  simp only [isCode, Bool.and_eq_true] at notComment
  rw [isSignificant, start]
  exact notComment.2

theorem Stray.isSignificant {line : List Char} (stray : Stray line) :
    isSignificant line = true := by
  obtain ⟨front, back, rfl, coded⟩ := stray
  have letters : ¬Blanks (front ++ [')']) := fun blank =>
    ne_close_of_blank (blank ')' (by simp)) rfl
  rw [List.append_cons, isSignificant_append letters]
  apply isSignificant_of_code letters
  intro c member
  rcases List.mem_append.1 member with inFront | close
  · exact coded c inFront
  · rw [List.mem_singleton.1 close]
    rfl

theorem cutSpan_stray {line : List Char} (stray : Stray line) (shut : ¬Opens line) :
    cutSpan line = .error .unopened := by
  rw [opens_iff] at shut
  rw [cutSpan_eq]
  unfold cutAt
  split
  · rename_i opened
    rw [opened] at shut
    exact absurd rfl shut
  · exact if_pos (stray_iff.1 stray)

theorem readLine_stray {line : List Char} (stray : Stray line) (shut : ¬Opens line) :
    readLine line = .error (if '\t' ∈ line then .tab else .unopened) := by
  by_cases tab : '\t' ∈ line
  · rw [readLine, if_pos tab, if_pos tab]
  · rw [readLine_of_isSignificant tab stray.isSignificant, readCode_eq, cutSpan_stray stray shut,
      if_neg tab]

theorem words_of_stretch {indent indent' : Nat} {code : List Char} {span : Option (List Char)}
    (read : readWords indent code span = .ok (.stretch indent')) :
    words code = [stretchWord.toList] := by
  unfold readWords at read
  match found : words code with
  | [] => simp [found] at read
  | [word] =>
    simp only [found, List.map_cons, List.map_nil] at read
    split at read
    · cases read
    · rename_i stretch
      rw [← not_not.1 stretch, String.toList_ofList]
  | [first, second] =>
    simp only [found, List.map_cons, List.map_nil] at read
    cases made : readItem indent code span (String.ofList first) (String.ofList second) <;>
      simp [made, Except.map] at read
  | _ :: _ :: _ :: _ => simp [found] at read

theorem noClose_of_stretch {code : List Char} (found : words code = [stretchWord.toList]) :
    ')' ∉ code := by
  obtain ⟨margin, rest, rfl, margined, -, -, none⟩ := words_cons_iff.1 found
  have noClose : ∀ {blanks : List Char}, Blanks blanks → ')' ∉ blanks :=
    fun blank member => ne_close_of_blank (blank _ member) rfl
  simp [stretchWord, noClose margined, noClose (words_eq_nil_iff.1 none)]

theorem not_stray_of_stretch {line : List Char} {indent : Nat}
    (read : readLine line = .ok (.stretch indent)) : ¬Stray line := by
  intro stray
  rw [readLine_of_isSignificant (no_tab_of_read read) stray.isSignificant, readCode_eq] at read
  split at read
  · cases read
  · rename_i code span cut
    split at read
    · cases read
    · have close := stray_iff.1 stray
      rw [← code_eq_of_cutAt cut] at close
      exact noClose_of_stretch (words_of_stretch read) close

theorem stray_of_item {line : List Char} {item : Item} (read : readLine line = .ok (.item item)) :
    ')' ∈ item.name.toList ∨ ')' ∈ item.typeWord.written.toList ↔ Stray line := by
  obtain ⟨pieces, span, declares⟩ := exists_declares read
  have whole : line = pieces.code ++ pieces.tail := by
    simp [declares.whole, ItemPieces.code, ItemPieces.rest]
  rw [stray_iff, whole, (takeWhile_append_stop pieces.isCode_of_mem_code pieces.stops).1,
    pieces.close_mem_code, declares.name, declares.word]

/-- A line with a stray parenthesis is refused where none opens after it, and is an item if it is
read at all.  Exactly the items from such lines hold one in their names or type-words. -/
theorem stray_close (line : List Char) :
    (Stray line → ¬Opens line →
      readLine line = .error (if '\t' ∈ line then .tab else .unopened)) ∧
    (Stray line → ∀ said, readLine line = .ok said → ∃ item, said = .item item) ∧
    (∀ item, readLine line = .ok (.item item) →
      (')' ∈ item.name.toList ∨ ')' ∈ item.typeWord.written.toList ↔ Stray line)) := by
  refine ⟨readLine_stray, fun stray said read => ?_, fun item => stray_of_item⟩
  have significant := (readLine_indent read).1
  rw [stray.isSignificant] at significant
  cases said with
  | item declared => exact ⟨declared, rfl⟩
  | stretch indent => exact absurd stray (not_stray_of_stretch read)
  | blank => cases significant
  | comment => cases significant

theorem stray_close_before :
    let refused := "  a) QLabel # (x)".toList
    let read := "  a) QLabel (x)".toList
    let item : Item := { indent := 2, name := "a)", typeWord := .toolkitClass "QLabel",
                         text := some "x", lead := "  a) " }
    (Stray refused ∧ ¬Opens refused ∧
      readLine refused = .error (if '\t' ∈ refused then .tab else .unopened)) ∧
    (Stray read ∧ readLine read = .ok (.item item) ∧ (∃ item', Line.item item = .item item') ∧
      (')' ∈ item.name.toList ∨ ')' ∈ item.typeWord.written.toList ↔ Stray read)) := by
  intro refused read item
  have stray : Stray refused := by decide
  have shut : ¬Opens refused := by decide
  have stray' : Stray read := by decide
  have ok : readLine read = .ok (.item item) := by decide +kernel
  exact ⟨⟨stray, shut, (stray_close refused).1 stray shut⟩, stray', ok,
    (stray_close read).2.1 stray' _ ok, (stray_close read).2.2 item ok⟩

theorem not_refused_of_stray :
    ¬∀ line, Stray line → (∀ item, readLine line ≠ .ok (.item item)) ∧
      ∀ indent, readLine line ≠ .ok (.stretch indent) := by
  intro claim
  have ok : readLine "a) LABEL(x)".toList = .ok (.item
      { indent := 0, name := "a)", typeWord := .keyword .label, text := some "x",
        lead := "a) " }) := by decide +kernel
  exact (claim _ (by decide)).1 _ ok

end WidgetOutline
