import WidgetOutline.Proofs.Alignment.Aligned
import WidgetOutline.Proofs.Text.Letters
import Mathlib.Order.Bounds.Defs

namespace WidgetOutline
open Text

def reaches (gutter : Nat) (read : List Line) : Set Nat :=
  {column | ∃ item, Line.item item ∈ read ∧
    column = item.indent + item.name.length + max gutter 1}

theorem typeWordColumn_isGreatest (gutter : Nat) {read : List Line} {item : Item}
    (member : Line.item item ∈ read) :
    IsGreatest (reaches gutter read) (typeWordColumn gutter read) := by
  have extents : ∀ {item}, Line.item item ∈ read → item.extent ∈ read.filterMap Line.extent? :=
    fun member => List.mem_filterMap.2 ⟨_, member, rfl⟩
  cases widest : (read.filterMap Line.extent?).max? with
  | none =>
    have inExtents := extents member
    simp [List.max?_eq_none_iff.1 widest] at inExtents
  | some k =>
    obtain ⟨inExtents, bound⟩ := List.max?_eq_some_iff.1 widest
    have column : typeWordColumn gutter read = k + max gutter 1 := by
      rw [typeWordColumn, widest, Option.getD_some]
    rw [column]
    constructor
    · obtain ⟨line, inRead, wide⟩ := List.mem_filterMap.1 inExtents
      cases line with
      | item declared =>
        cases wide
        exact ⟨declared, inRead, rfl⟩
      | _ => cases wide
    · rintro _ ⟨other, inRead, rfl⟩
      exact Nat.add_le_add_right (bound _ (extents inRead)) _

theorem prefix_trimEnd {word : List Char} (solid : IsWord word) (rest : List Char) :
    word <+: trimEnd (word ++ rest) := by
  by_cases blank : Blanks rest
  · have kept : trimEnd word = word := List.rdropWhile_eq_self_iff.2 fun nonempty => by
      simp [solid.2 _ (List.getLast_mem nonempty)]
    rw [trimEnd_append_blanks word blank, kept]
  · rw [trimEnd_append word blank]
    exact List.prefix_append ..

/-- The item line has other blanks before its type-word, which stands in the column, and from there
on is as before. -/
structure Item.Moved (item : Item) (column : Nat) (text written lead rest : List Char) : Prop where
  parts : text = item.lead.toList ++ rest
  kept : written = lead ++ trimEnd rest
  typed : item.typeWord.written.toList <+: trimEnd rest
  placed : lead.length = column
  spaced : lead = List.replicate item.indent ' ' ++ item.name.toList ++
    List.replicate (column - item.extent) ' '
  read : readLine written = .ok (.item { item with lead := String.ofList lead })

def Line.WrittenAs (column : Nat) (text written : List Char) : Line → Prop
  | item declared => ∃ lead rest, declared.Moved column text written lead rest
  | _ => written = trimEnd text

theorem writtenAs_alignLine {text : List Char} {line : Line} {column : Nat}
    (read : readLine text = .ok line) (fits : ∀ extent ∈ line.extent?, extent < column) :
    line.WrittenAs column text (alignLine column text line) := by
  cases line with
  | item declared =>
    have wide : declared.extent < column := fits _ rfl
    obtain ⟨reread, letters⟩ := readLine_reflow read (Nat.sub_pos_of_lt wide)
    obtain ⟨pieces, span, declares⟩ := exists_declares read
    have rest : text.drop declared.lead.length = pieces.rest := by
      rw [declares.whole, ← String.length_toList, declares.lead, List.drop_left]
    rw [rest] at reread letters
    refine ⟨_, pieces.rest, ?_, ?_, ?_, ?_, rfl, ?_⟩
    · rw [declares.whole, declares.lead]
    · rw [alignLine, alignItem, rest]
    · rw [ItemPieces.rest, List.append_assoc, declares.word]
      exact prefix_trimEnd pieces.typed _
    · simp only [List.length_append, List.length_replicate, String.length_toList]
      unfold Item.extent at wide ⊢
      omega
    · rw [alignLine, alignItem, rest, ← trimEnd_append _ letters,
        readLine_trimEnd (no_tab_of_read reread), reread]
  | _ => rfl

theorem letters_leads {line : List Char} {item : Item} (read : readLine line = .ok (.item item)) :
    letters item.lead.toList = letters item.name.toList := by
  obtain ⟨pieces, span, declares⟩ := exists_declares read
  rw [declares.lead, declares.name, ItemPieces.lead, letters_append_blanks _ pieces.gapped,
    letters_blanks_append pieces.margined]

theorem letters_writtenAs {text written : List Char} {line : Line} {column : Nat}
    (read : readLine text = .ok line) (as : line.WrittenAs column text written) :
    letters written = letters text := by
  cases line with
  | item declared =>
    obtain ⟨lead, rest, moved⟩ := as
    rw [moved.kept, moved.parts, letters_append, letters_append, letters_trimEnd,
      letters_leads read, moved.spaced, letters_append_blanks _ (blanks_spaces _),
      letters_blanks_append (blanks_spaces _)]
  | _ =>
    obtain rfl : written = trimEnd text := as
    exact letters_trimEnd text

theorem letters_outdent (common : Nat) (text : List Char) :
    letters (outdent common text) = letters text := by
  -- What is taken away is spaces.
  conv_rhs => rw [← spaces_append_outdent common text, letters_blanks_append (blanks_spaces _)]

theorem letters_dedent (source : List Char) :
    (dedent source).flatMap letters = letters source := by
  rw [dedent, List.flatMap_map, ← letters_lines source]
  simp only [letters_outdent]

theorem Reads.letters_align {texts : List (List Char)} {read : List Line}
    (reads : Reads texts read) {column : Nat}
    (fits : ∀ line ∈ read, ∀ extent ∈ line.extent?, extent < column) :
    (List.zipWith (alignLine column) texts read).flatMap letters = texts.flatMap letters := by
  induction reads with
  | nil => rfl
  | @cons text line texts read first _ ih =>
    rw [List.forall_mem_cons] at fits
    rw [List.zipWith_cons_cons, List.flatMap_cons, List.flatMap_cons, ih fits.2,
      letters_writtenAs first (writtenAs_alignLine first fits.1)]

theorem Reads.writtenAs_align {texts : List (List Char)} {read : List Line}
    (reads : Reads texts read) {column : Nat}
    (fits : ∀ line ∈ read, ∀ extent ∈ line.extent?, extent < column) {i : Nat} {text : List Char}
    {line : Line} (atText : texts[i]? = some text) (atRead : read[i]? = some line) :
    line.WrittenAs column text ((List.zipWith (alignLine column) texts read)[i]?.getD []) := by
  have written : (List.zipWith (alignLine column) texts read)[i]? =
      some (alignLine column text line) := by
    rw [List.getElem?_zipWith, atText, atRead]
  rw [written, Option.getD_some]
  apply writtenAs_alignLine _ (fits line (List.mem_of_getElem? atRead))
  obtain ⟨inTexts, rfl⟩ := List.getElem?_eq_some_iff.1 atText
  obtain ⟨inRead, rfl⟩ := List.getElem?_eq_some_iff.1 atRead
  exact (List.forall₂_iff_get.1 reads).2 i inTexts inRead

theorem alike_of_split {found written : List (List Char)}
    (split : found = written ∨ found ++ [[]] = written) :
    (∀ i : Nat, found[i]?.getD [] = written[i]?.getD []) ∧ found.length ≤ written.length ∧
      found.flatMap letters = written.flatMap letters := by
  rcases split with rfl | rfl
  · exact ⟨fun _ => rfl, le_refl _, rfl⟩
  · refine ⟨fun i => ?_, by simp, by simp [letters]⟩
    rcases Nat.lt_trichotomy i found.length with before | rfl | after
    · rw [List.getElem?_append_left before]
    · simp
    · rw [List.getElem?_eq_none (by omega), List.getElem?_eq_none (by simpa using after)]

structure Aligned (gutter : Nat) (source out : List Char) (read : List Line) (column : Nat) :
    Prop where
  reads : Reads (dedent source) read
  greatest : ∀ item, Line.item item ∈ read → IsGreatest (reaches gutter read) column
  written : ∀ (i : Nat) text line, (dedent source)[i]? = some text → read[i]? = some line →
    line.WrittenAs column text ((lines out)[i]?.getD [])
  count : (lines out).length ≤ (lines source).length
  letters : letters out = letters source

theorem column_of_align {source out : String} {gutter : Nat}
    (aligned : align source gutter = .ok out) :
    ∃ read column, Aligned gutter source.toList out.toList read column := by
  obtain ⟨written, ok, -, split, -, -⟩ := align_ok_dedent aligned
  obtain ⟨read, reads, rfl⟩ := alignLines_ok_iff.1 ok
  have fits : ∀ line ∈ read, ∀ extent ∈ line.extent?, extent < typeWordColumn gutter read :=
    fun line member extent wide => extent_lt_typeWordColumn gutter member wide
  obtain ⟨alike, shorter, sameLetters⟩ := alike_of_split split
  refine ⟨read, typeWordColumn gutter read,
    { reads
      greatest := fun item => typeWordColumn_isGreatest gutter
      written := ?_
      count := ?_
      letters := ?_ }⟩
  · intro i text line atText atRead
    rw [alike i]
    exact reads.writtenAs_align fits atText atRead
  · calc (lines out.toList).length
        ≤ (List.zipWith _ (dedent source.toList) read).length := shorter
      _ ≤ (dedent source.toList).length := by simp
      _ = (lines source.toList).length := List.length_map _
  · rw [← letters_lines, sameLetters, reads.letters_align fits, letters_dedent]

theorem column_of_align_wide :
    let source := "  été  VBOX\r\n# note \n    <>\u3000\n    bb\u3000LABEL(x\\)) # y \n  \r"
    let out := "été      VBOX\n# note\n  <>\n  bb     LABEL(x\\)) # y\n"
    align source 5 = .ok out ∧ ∃ read column, Aligned 5 source.toList out.toList read column := by
  intro source out
  have aligned : align source 5 = .ok out := by decide +kernel
  exact ⟨aligned, column_of_align aligned⟩

end WidgetOutline
