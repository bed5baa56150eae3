import WidgetOutline.Proofs.Line.Escape
import WidgetOutline.Proofs.Line.Reading

namespace WidgetOutline
open Text

namespace Escape

def escaped (c : Char) : List Char :=
  if c = '\n' then ['\\', 'n']
  else if c = '\t' then ['\\', 't']
  else if c = '\\' ∨ c = '(' ∨ c = ')' ∨ c = '#' then ['\\', c]
  else [c]

def encode (text : List Char) : List Char := text.flatMap escaped

def written (text : String) : String := String.ofList (encode text.toList)

theorem escaped_cases (c : Char) :
    (∃ mark, escaped c = ['\\', mark] ∧ mark ≠ '\t' ∧
      ∀ rest, next (mark :: rest) = .ok (c, rest)) ∨
      escaped c = [c] ∧ c ≠ '\\' ∧ c ≠ ')' ∧ c ≠ '\t' := by
  unfold escaped
  split
  · rename_i feed
    exact .inl ⟨'n', rfl, by decide, fun _ => feed ▸ rfl⟩
  · split
    · rename_i tab
      exact .inl ⟨'t', rfl, by decide, fun _ => tab ▸ rfl⟩
    · rename_i noTab
      split
      · rename_i special
        refine .inl ⟨c, rfl, noTab, fun rest => ?_⟩
        rcases special with rfl | rfl | rfl | rfl <;> rfl
      · rename_i plain
        simp only [not_or] at plain
        exact .inr ⟨rfl, plain.1, plain.2.2.1, noTab⟩

theorem decode_escaped_append (c : Char) (rest : List Char) :
    decode (escaped c ++ rest) = (decode rest).map (c :: ·) := by
  rcases escaped_cases c with ⟨mark, eq, -, denotes⟩ | ⟨eq, plain, -, -⟩
  · rw [eq]
    exact decode_escape_ok (denotes rest)
  · rw [eq, List.singleton_append, decode, if_neg plain]

theorem decode_encode (text : List Char) : decode (encode text) = .ok text := by
  induction text with
  | nil => simp [encode, decode]
  | cons c text ih =>
    unfold encode at ih ⊢
    rw [List.flatMap_cons, decode_escaped_append, ih]
    rfl

theorem no_tab_encode (text : List Char) : '\t' ∉ encode text := by
  intro tab
  obtain ⟨c, -, member⟩ := List.mem_flatMap.1 tab
  rcases escaped_cases c with ⟨mark, eq, noTab, -⟩ | ⟨eq, -, -, noTab⟩
  · simp [eq, noTab.symm] at member
  · exact noTab (List.mem_singleton.1 (eq ▸ member)).symm

end Escape

theorem closedSpan_escape (mark : Char) (rest : List Char) :
    closedSpan false ('\\' :: mark :: rest) =
      (closedSpan false rest).map (['\\', mark] ++ ·) := by
  have backslash : closedSpan false ('\\' :: mark :: rest) =
      (closedSpan true (mark :: rest)).map ('\\' :: ·) := rfl
  rw [backslash, closedSpan, if_neg (by simp), Bool.not_true, Bool.and_false, Option.map_map]
  rfl

theorem closedSpan_plain {c : Char} (noEscape : c ≠ '\\') (noClose : c ≠ ')') (rest : List Char) :
    closedSpan false (c :: rest) = (closedSpan false rest).map (c :: ·) := by
  rw [closedSpan, if_neg fun closes => noClose closes.1, beq_false_of_ne noEscape, Bool.false_and]

theorem closedSpan_escaped_append (c : Char) (rest : List Char) :
    closedSpan false (Escape.escaped c ++ rest) =
      (closedSpan false rest).map (Escape.escaped c ++ ·) := by
  rcases Escape.escaped_cases c with ⟨mark, eq, -, -⟩ | ⟨eq, noEscape, noClose, -⟩
  · rw [eq]
    exact closedSpan_escape mark rest
  · rw [eq]
    exact closedSpan_plain noEscape noClose rest

theorem closedSpan_encode (text : List Char) {tail : List Char} (closes : closesLine tail = true) :
    closedSpan false (Escape.encode text ++ ')' :: tail) = some (Escape.encode text) := by
  induction text with
  | nil => simp [Escape.encode, closedSpan, closes]
  | cons c text ih =>
    unfold Escape.encode at ih ⊢
    rw [List.flatMap_cons, List.append_assoc, closedSpan_escaped_append, ih]
    rfl

structure IsItemWord (word : String) : Prop where
  solid : IsWord word.toList
  plain : ∀ c ∈ word.toList, c ≠ '(' ∧ c ≠ ')' ∧ c ≠ '#'
  notStretch : word ≠ stretchWord

structure IsCodeWord (word : String) : Prop where
  solid : IsWord word.toList
  coded : ∀ c ∈ word.toList, isCode c = true
  notStretch : word ≠ stretchWord

theorem IsItemWord.isCodeWord {word : String} (itemWord : IsItemWord word) : IsCodeWord word where
  solid := itemWord.solid
  coded c member := by simp [isCode, commentMarker, itemWord.plain c member]
  notStretch := itemWord.notStretch

structure IsGap (gap : String) : Prop where
  blank : Blanks gap.toList
  nonempty : gap ≠ ""
  noTab : '\t' ∉ gap.toList

/-- May end an item line: blanks, and a comment after them at most. -/
structure IsMargin (margin : String) : Prop where
  parts : ∃ space comment, margin.toList = space ++ comment ∧ Blanks space ∧
    ∀ c ∈ comment.head?, c = commentMarker
  noTab : '\t' ∉ margin.toList

theorem closesLine_append {space comment : List Char} (blank : Blanks space)
    (starts : ∀ c ∈ comment.head?, c = commentMarker) : closesLine (space ++ comment) = true := by
  rw [closesLine, trimStart_append_of_blanks blank]
  cases comment with
  | nil => rfl
  | cons c rest =>
    obtain rfl := starts c rfl
    rfl

theorem cutAt_span (code text : List Char) {margin : List Char}
    (closes : closesLine margin = true) :
    cutAt code ('(' :: (Escape.encode text ++ ')' :: margin)) =
      .ok (code, some (Escape.encode text)) := by
  rw [cutAt, closedSpan_encode text closes]

theorem cutAt_margin {code comment : List Char} (noClose : ')' ∉ code)
    (starts : ∀ c ∈ comment.head?, c = commentMarker) :
    cutAt code comment = .ok (code, none) := by
  have bare : cutAt code [] = .ok (code, none) := if_neg noClose
  cases comment with
  | nil => exact bare
  | cons c rest =>
    obtain rfl := starts c rfl
    rw [cutAt_comment _ _ (by decide), bare]

def spaces (n : Nat) : String := String.ofList (List.replicate n ' ')

theorem TypeWord.read_ok {word : String} (marked : word ≠ "?") :
    ∃ typeWord, TypeWord.read word = .ok typeWord := by
  unfold TypeWord.read
  split
  · rename_i eq
    exact absurd (String.toList_inj.1 eq) marked
  · exact ⟨_, rfl⟩
  · cases Keyword.ofWord? word with
    | some shorthand => exact ⟨_, rfl⟩
    | none => exact ⟨_, rfl⟩

theorem displayText_encode (text : String) :
    displayText (some (Escape.encode text.toList)) =
      .ok (if text = "" then none else some text) := by
  by_cases empty : text = "" <;>
    simp [displayText, decodeText, Escape.decode_encode, empty, bind, Except.bind, pure,
      Except.pure]

theorem no_tab_of_isWord {text : List Char} (solid : IsWord text) : '\t' ∉ text := by
  intro tab
  exact absurd (solid.2 _ tab) (by decide)

section Written

variable {indent : Nat} {name word gap : String} (named : IsCodeWord name)
  (typed : IsCodeWord word) (gapped : IsGap gap) {space tail : List Char} (spaced : Blanks space)
  (stops : ∀ c ∈ tail.head?, isCode c = false)

include named typed in
theorem isCode_of_mem_words : ∀ c ∈ name.toList ++ word.toList, isCode c = true := by
  intro c member
  rcases List.mem_append.1 member with inName | inWord
  · exact named.coded c inName
  · exact typed.coded c inWord

def writtenPieces (indent : Nat) : ItemPieces where
  margin := List.replicate indent ' '
  name := name.toList
  gap := gap.toList
  word := word.toList
  space
  tail
  margined := blanks_spaces indent
  named := named.solid
  gapped := gapped.blank
  separated := fun empty => gapped.nonempty (String.toList_eq_nil_iff.1 empty)
  typed := typed.solid
  spaced
  coded := isCode_of_mem_words named typed
  stops

include named typed gapped spaced stops in
theorem readLine_written {typeWord : TypeWord} {span : Option (List Char)} {text : Option String}
    (even : indent % 2 = 0) (undotted : '.' ∉ name.toList) (noTab : '\t' ∉ space ++ tail)
    (read : TypeWord.read word = .ok typeWord)
    (cut : ∀ code, (')' ∈ code → ')' ∈ name.toList ∨ ')' ∈ word.toList) →
      cutAt code tail = .ok (code, span))
    (shown : displayText span = .ok text) :
    Line.read (spaces indent ++ name ++ gap ++ word ++ String.ofList (space ++ tail)) =
      .ok (.item { indent, name, typeWord, text, lead := spaces indent ++ name ++ gap }) := by
  let pieces := writtenPieces named typed gapped spaced stops indent
  have line : (spaces indent ++ name ++ gap ++ word ++ String.ofList (space ++ tail)).toList =
      pieces.lead ++ pieces.rest := by
    simp [pieces, writtenPieces, ItemPieces.lead, ItemPieces.rest, spaces]
  have lead : String.ofList pieces.lead = spaces indent ++ name ++ gap := by
    simp [pieces, writtenPieces, ItemPieces.lead, spaces, ← String.toList_inj]
  have noTab' : '\t' ∉ pieces.lead ++ pieces.rest := by
    simp only [pieces, writtenPieces, ItemPieces.lead, ItemPieces.rest, List.mem_append, not_or,
      List.mem_replicate] at noTab ⊢
    have inName := no_tab_of_isWord named.solid
    have inWord := no_tab_of_isWord typed.solid
    exact ⟨⟨⟨by simp, inName⟩, gapped.noTab⟩, ⟨inWord, noTab.1⟩, noTab.2⟩
  rw [Line.read, line, pieces.readLine_iff, pieces.leadingSpaces_of_margin rfl]
  refine ⟨noTab', even, span, cut _ pieces.close_mem_code.1, ?_⟩
  rw [pieces.readItem_iff, lead]
  refine ⟨?_, ?_, ?_, typeWord, text, ?_, shown, ?_⟩ <;>
    simp only [pieces, writtenPieces, String.ofList_toList]
  · exact named.notStretch
  · exact typed.notStretch
  · exact undotted
  · exact read

end Written

theorem ItemPieces.Declares.isCodeWord {pieces : ItemPieces} {line : List Char}
    {span : Option (List Char)} {item : Item} (declares : pieces.Declares line span item) :
    IsCodeWord item.name ∧ IsCodeWord item.typeWord.written where
  left :=
    { solid := declares.name ▸ pieces.named
      coded := fun c member => pieces.coded c (List.mem_append_left _ (declares.name ▸ member))
      notStretch := declares.notStretch.1 }
  right :=
    { solid := declares.word ▸ pieces.typed
      coded := fun c member => pieces.coded c (List.mem_append_right _ (declares.word ▸ member))
      notStretch := declares.notStretch.2 }

theorem isCodeWord_of_readLine {line : List Char} {item : Item}
    (read : readLine line = .ok (.item item)) : IsCodeWord item.name := by
  obtain ⟨pieces, span, declares⟩ := exists_declares read
  exact declares.isCodeWord.1

theorem read_written_empty {indent : Nat} {name word : String} {typeWord : TypeWord}
    (even : indent % 2 = 0) (named : IsCodeWord name) (undotted : '.' ∉ name.toList)
    (typed : IsCodeWord word) (read : TypeWord.read word = .ok typeWord) :
    Line.read (spaces indent ++ name ++ " " ++ word ++ "()") =
      .ok (.item { indent, name, typeWord, text := none, lead := spaces indent ++ name ++ " " }) := by
  have gapped : IsGap " " := ⟨by simp [Blanks, isBlank], by decide, by decide⟩
  have cut (code : List Char) : cutAt code ['(', ')'] = .ok (code, some []) :=
    cutAt_span code [] rfl
  have shown : displayText (some []) = .ok none := displayText_encode ""
  have whole : "()" = String.ofList ([] ++ ['(', ')']) := by simp
  rw [whole]
  exact readLine_written named typed gapped (by simp [Blanks]) (by simp [isCode]) even undotted
    (by simp) read (fun code _ => cut code) shown

theorem read_written {indent : Nat} {name word gap margin : String} (even : indent % 2 = 0)
    (named : IsItemWord name) (undotted : '.' ∉ name.toList) (typed : IsItemWord word)
    (marked : word ≠ "?") (gapped : IsGap gap) (ends : IsMargin margin) (text : String) :
    ∃ item : Item, item.indent = indent ∧ item.name = name ∧
      TypeWord.read word = .ok item.typeWord ∧
      item.text = (if text = "" then none else some text) ∧
      item.typeColumn = (spaces indent ++ name ++ gap).utf8ByteSize ∧
      Line.read (spaces indent ++ name ++ gap ++ word ++ "(" ++ Escape.written text ++ ")" ++
        margin) = .ok (.item item) ∧
      Line.read (spaces indent ++ name ++ gap ++ word ++ margin) =
        .ok (.item { item with text := none }) := by
  obtain ⟨typeWord, read⟩ := TypeWord.read_ok marked
  obtain ⟨space, comment, parts, spaced, starts⟩ := ends.parts
  have noTab := ends.noTab
  refine ⟨{ indent, name, typeWord, text := if text = "" then none else some text,
            lead := spaces indent ++ name ++ gap }, rfl, rfl, read, rfl, rfl, ?_, ?_⟩
  · have whole : spaces indent ++ name ++ gap ++ word ++ "(" ++ Escape.written text ++ ")" ++
        margin = spaces indent ++ name ++ gap ++ word ++
          String.ofList ([] ++ '(' :: (Escape.encode text.toList ++ ')' :: margin.toList)) := by
      simp [← String.toList_inj, Escape.written]
    have closes : closesLine margin.toList = true := parts ▸ closesLine_append spaced starts
    rw [whole]
    refine readLine_written named.isCodeWord typed.isCodeWord gapped (by simp [Blanks])
      (by simp [isCode]) even undotted ?_ read (fun code _ => cutAt_span code text.toList closes)
      (displayText_encode text)
    simpa [Escape.no_tab_encode] using noTab
  · have whole : margin = String.ofList (space ++ comment) := by
      rw [← parts, String.ofList_toList]
    rw [parts] at noTab
    rw [whole]
    refine readLine_written named.isCodeWord typed.isCodeWord gapped spaced ?_ even undotted noTab
      read (fun code closes => cutAt_margin (fun close => ?_) starts) rfl
    · intro c head
      rw [starts c head]
      rfl
    · rcases closes close with inName | inWord
      · exact (named.plain _ inName).2.1 rfl
      · exact (typed.plain _ inWord).2.1 rfl

theorem read_written_escapes :
    (spaces 2 ++ "é" ++ "\u3000 " ++ "?QLabel" ++ "(" ++ Escape.written "\\)#\n" ++ ")" ++
          " # (x)" = "  é\u3000 ?QLabel(\\\\\\)\\#\\n) # (x)") ∧
      ∃ item : Item, item.indent = 2 ∧ item.name = "é" ∧
        TypeWord.read "?QLabel" = .ok item.typeWord ∧ item.text = some "\\)#\n" ∧
        item.typeColumn = (spaces 2 ++ "é" ++ "\u3000 ").utf8ByteSize ∧
        Line.read (spaces 2 ++ "é" ++ "\u3000 " ++ "?QLabel" ++ "(" ++ Escape.written "\\)#\n" ++
          ")" ++ " # (x)") = .ok (.item item) ∧
        Line.read (spaces 2 ++ "é" ++ "\u3000 " ++ "?QLabel" ++ " # (x)") =
          .ok (.item { item with text := none }) := by
  have named : IsItemWord "é" := ⟨⟨by decide, by simp [isBlank]⟩, by simp, by decide⟩
  have typed : IsItemWord "?QLabel" := ⟨⟨by decide, by simp [isBlank]⟩, by simp, by decide⟩
  have gapped : IsGap "\u3000 " := ⟨by simp [Blanks, isBlank], by decide, by decide⟩
  have ends : IsMargin " # (x)" :=
    ⟨⟨[' '], "# (x)".toList, rfl, by simp [Blanks, isBlank], by simp [commentMarker]⟩, by decide⟩
  exact ⟨by decide +kernel, read_written (by decide) named (by decide) typed (by decide) gapped ends
    "\\)#\n"⟩

end WidgetOutline
