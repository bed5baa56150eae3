import WidgetOutline.Proofs.Source.Margin

namespace WidgetOutline
open Text

theorem Escape.decode_eq_ok_nil_iff (text : List Char) : decode text = .ok [] ↔ text = [] := by
  constructor
  · intro ok
    obtain ⟨tokens, -, written, denoted⟩ := spells_of_decode ok
    rw [written, List.map_eq_nil_iff.1 denoted.symm, List.flatMap_nil]
  · rintro rfl
    rw [decode]

/-- What the parentheses of a line hold is shown decoded; nothing is shown if they are empty. -/
def Shows : Option String → Option String → Prop
  | none, text => text = none
  | some span, text => ∃ decoded, Escape.decode span.toList = .ok decoded ∧
      text = if span = "" then none else some (String.ofList decoded)

theorem shows_of_displayText {span : Option (List Char)} {text : Option String}
    (shown : displayText span = .ok text) : Shows (span.map String.ofList) text := by
  cases span with
  | none =>
    cases shown
    rfl
  | some span =>
    rw [displayText, decodeText] at shown
    cases ok : Escape.decode span with
    | error malformed =>
      rw [ok] at shown
      cases shown
    | ok decoded =>
      rw [ok] at shown
      cases shown
      refine ⟨decoded, by rw [String.toList_ofList, ok], ?_⟩
      have empty : decoded = [] ↔ span = [] := by
        rw [← Escape.decode_eq_ok_nil_iff span, ok, Except.ok.injEq]
      simp [empty]

def enclosed : Option String → String
  | none => ""
  | some span => "(" ++ span ++ ")"

theorem closesLine_eq (rest : List Char) : closesLine rest = !isSignificant rest := by
  unfold closesLine isSignificant
  cases trimmed : trimStart rest with
  | nil =>
    rw [trim_eq_nil_iff.2 (trimStart_eq_nil_iff.1 trimmed)]
    rfl
  | cons c more =>
    obtain ⟨later, start⟩ := trim_head trimmed
    rw [start]
    simp [bne]

theorem parts_of_closedSpan {escaped : Bool} {text span : List Char}
    (closed : closedSpan escaped text = some span) :
    ∃ rest, text = span ++ ')' :: rest ∧ closesLine rest = true := by
  induction text generalizing escaped span with
  | nil => cases closed
  | cons c text ih =>
    rw [closedSpan] at closed
    split at closed
    · rename_i closes
      cases closed
      exact ⟨text, by rw [closes.1]; rfl, closes.2.2⟩
    · obtain ⟨later, closed', rfl⟩ := Option.map_eq_some_iff.1 closed
      obtain ⟨rest, rfl, closes⟩ := ih closed'
      exact ⟨rest, rfl, closes⟩

theorem parts_of_cutAt {code tail : List Char} {span : Option (List Char)}
    (stops : ∀ c ∈ tail.head?, isCode c = false) (cut : cutAt code tail = .ok (code, span)) :
    ∃ rest, tail = (enclosed (span.map String.ofList)).toList ++ rest ∧
      closesLine rest = true := by
  unfold cutAt at cut
  split at cut
  · rename_i inner
    split at cut
    · rename_i found closed
      cases cut
      obtain ⟨rest, rfl, closes⟩ := parts_of_closedSpan closed
      exact ⟨rest, by simp [enclosed], closes⟩
    · cases cut
  · rename_i noParen
    split at cut
    · cases cut
    · -- Without parentheses the code ends at the comment or with the line.
      cases cut
      have noSpace : Blanks [] := by simp [Blanks]
      refine ⟨tail, by simp [enclosed], closesLine_append noSpace ?_⟩
      intro c head
      obtain ⟨more, rfl⟩ := List.head?_eq_some_iff.1 head
      have notParen : c ≠ '(' := fun paren => noParen more (by rw [paren])
      simpa [isCode, notParen] using stops c rfl

structure Item.Spelling (item : Item) (line : String) where
  margin : String
  gap : String
  space : String
  span : Option String
  ending : String
  parts : line = margin ++ item.name ++ gap ++ item.typeWord.written ++ space ++ enclosed span ++
    ending
  margined : Blanks margin.toList
  named : IsCodeWord item.name
  gapped : IsGap gap
  typed : IsCodeWord item.typeWord.written
  spaced : Blanks space.toList
  ends : IsMargin ending
  shows : Shows span item.text

theorem ItemPieces.Declares.exists_spelling {pieces : ItemPieces} {line : String}
    {span : Option (List Char)} {item : Item} (declares : pieces.Declares line.toList span item)
    (noTab : '\t' ∉ line.toList) :
    ∃ spelling : item.Spelling line, item.lead = spelling.margin ++ item.name ++ spelling.gap := by
  obtain ⟨ending, tail, closes⟩ := parts_of_cutAt pieces.stops declares.cut
  have whole := declares.whole
  rw [ItemPieces.rest, tail] at whole
  rw [whole] at noTab
  simp only [ItemPieces.lead, List.mem_append, not_or] at noTab
  have gapped : IsGap (String.ofList pieces.gap) := by
    refine ⟨?_, ?_, ?_⟩
    · rw [String.toList_ofList]
      exact pieces.gapped
    · simpa [← String.toList_inj] using pieces.separated
    · rw [String.toList_ofList]
      exact noTab.1.2
  have ends : IsMargin (String.ofList ending) := by
    rw [isMargin_iff_silent, silent_iff, String.toList_ofList]
    rw [closesLine_eq, Bool.not_eq_true'] at closes
    exact ⟨noTab.2.2.2, closes⟩
  refine ⟨{ margin := String.ofList pieces.margin
            gap := String.ofList pieces.gap
            space := String.ofList pieces.space
            span := span.map String.ofList
            ending := String.ofList ending
            parts := by
              simp [← String.toList_inj, whole, ItemPieces.lead, declares.name, declares.word]
            margined := by rw [String.toList_ofList]; exact pieces.margined
            named := declares.isCodeWord.1
            gapped
            typed := declares.isCodeWord.2
            spaced := by rw [String.toList_ofList]; exact pieces.spaced
            ends
            shows := shows_of_displayText declares.shown }, ?_⟩
  simp [← String.toList_inj, declares.lead, ItemPieces.lead, declares.name]

theorem parts_of_read {line : String} {item : Item} (read : Line.read line = .ok (.item item)) :
    ∃ spelling : item.Spelling line,
      item.typeColumn = (spelling.margin ++ item.name ++ spelling.gap).utf8ByteSize ∧
      String.Pos.Raw.IsValid line ⟨item.typeColumn⟩ ∧
      item.indent = leadingSpaces line.toList ∧ item.indent % 2 = 0 ∧ '.' ∉ item.name.toList := by
  obtain ⟨pieces, span, declares⟩ := exists_declares read
  obtain ⟨spelling, lead⟩ := declares.exists_spelling (no_tab_of_read read)
  refine ⟨spelling, by rw [Item.typeColumn, lead], ?_, declares.indent, declares.even,
    declares.undotted⟩
  refine String.Pos.Raw.isValid_iff_exists_append.2 ⟨item.lead,
    item.typeWord.written ++ spelling.space ++ enclosed spelling.span ++ spelling.ending, ?_, rfl⟩
  rw [lead]
  conv_lhs => rw [spelling.parts]
  simp only [String.append_assoc]

theorem parts_of_read_repeated :
    let line := "  é\u3000 é (é\\)) # (é)"
    let item : Item := { indent := 2, name := "é", typeWord := .toolkitClass "é",
                         text := some "é)", lead := "  é\u3000 " }
    Line.read line = .ok (.item item) ∧
      ∃ spelling : item.Spelling line,
        item.typeColumn = (spelling.margin ++ item.name ++ spelling.gap).utf8ByteSize ∧
        String.Pos.Raw.IsValid line ⟨item.typeColumn⟩ ∧
        item.indent = leadingSpaces line.toList ∧ item.indent % 2 = 0 ∧
        '.' ∉ item.name.toList := by
  intro line item
  have read : Line.read line = .ok (.item item) := by decide +kernel
  exact ⟨read, parts_of_read read⟩

end WidgetOutline
