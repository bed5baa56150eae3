import WidgetOutline.Proofs.Source.Indentation

namespace WidgetOutline
open Text

theorem commonIndent_le {source : List (List Char)} {line : List Char} (member : line ∈ source)
    (significant : isSignificant line = true) : commonIndent source ≤ leadingSpaces line := by
  apply List.min?_getD_le_of_mem
  exact List.mem_map_of_mem (List.mem_filter.2 ⟨member, significant⟩)

theorem isSignificant_iff_read {text : List Char} (noTab : '\t' ∉ text) :
    isSignificant text = true ↔ readLine text ≠ .ok .blank ∧ readLine text ≠ .ok .comment := by
  constructor
  · intro significant
    have loud : ¬Silent text := fun silent => by simp [silent_iff.1 silent] at significant
    exact ⟨fun read => loud ⟨.blank, read, rfl⟩, fun read => loud ⟨.comment, read, rfl⟩⟩
  · rintro ⟨notBlank, notComment⟩
    by_contra insignificant
    obtain ⟨line, read, silent⟩ := silent_iff.2 ⟨noTab, by simpa using insignificant⟩
    cases line with
    | blank => exact notBlank read
    | comment => exact notComment read
    | stretch => cases silent
    | item => cases silent

/-- What is left of a line is the line without some of its leading spaces: so many if it is
significant, and of any other line no more than it has. -/
def IsOutdented (common : Nat) (line left : List Char) : Prop :=
  let removed := if isSignificant line then common else min common (leadingSpaces line)
  line = List.replicate removed ' ' ++ left

theorem isOutdented_of_mem {source : List (List Char)} {line : List Char} (member : line ∈ source) :
    IsOutdented (commonIndent source) line (outdent (commonIndent source) line) := by
  have parts := spaces_append_outdent (commonIndent source) line
  unfold IsOutdented
  split
  · rename_i significant
    rw [Nat.min_eq_right (commonIndent_le member significant)] at parts
    exact parts.symm
  · rw [Nat.min_comm]
    exact parts.symm

theorem exists_flush {source : List (List Char)} {line : List Char} (member : line ∈ source)
    (significant : isSignificant line = true) :
    ∃ flush ∈ source, isSignificant flush = true ∧
      leadingSpaces (outdent (commonIndent source) flush) = 0 := by
  rcases commonIndent_eq_zero_iff.1 (commonIndent_outdent source) with none | ⟨left, inLeft, zero⟩
  · have inLeft := List.mem_filter.2 ⟨List.mem_map_of_mem (f := outdent (commonIndent source)) member,
      (isSignificant_outdent _ _).trans significant⟩
    rw [none] at inLeft
    cases inLeft
  · obtain ⟨inMap, significant'⟩ := List.mem_filter.1 inLeft
    obtain ⟨flush, member', rfl⟩ := List.mem_map.1 inMap
    exact ⟨flush, member', (isSignificant_outdent _ _).symm.trans significant', zero⟩

theorem indents_of_dedent (source : List Char) :
    (dedent source).length = (lines source).length ∧ ∃ common,
      let pairs := (lines source).zip (dedent source)
      (∀ pair ∈ pairs, IsOutdented common pair.1 pair.2) ∧
      (∀ pair ∈ pairs, ∀ other ∈ pairs, isSignificant pair.1 → isSignificant other.1 →
        (leadingSpaces pair.2 : Int) - leadingSpaces other.2 =
          leadingSpaces pair.1 - leadingSpaces other.1) ∧
      ((∃ line ∈ lines source, isSignificant line) →
        ∃ pair ∈ pairs, isSignificant pair.1 ∧ leadingSpaces pair.2 = 0) ∧
      ∀ pair ∈ pairs, '\t' ∉ pair.1 →
        (isSignificant pair.1 ↔
          readLine pair.2 ≠ .ok .blank ∧ readLine pair.2 ≠ .ok .comment) := by
  have paired : (lines source).zip (dedent source) =
      (lines source).map fun line => (line, outdent (commonIndent (lines source)) line) := by
    rw [dedent, ← List.zip_map', List.map_id']
  refine ⟨List.length_map _, commonIndent (lines source), ?_⟩
  simp only [paired, List.forall_mem_map]
  refine ⟨fun line => isOutdented_of_mem, ?differences, ?flush, ?read⟩
  case differences =>
    intro line member other member' significant significant'
    have bound := commonIndent_le member significant
    have bound' := commonIndent_le member' significant'
    rw [leadingSpaces_outdent, leadingSpaces_outdent]
    omega
  case flush =>
    rintro ⟨line, member, significant⟩
    obtain ⟨flush, member', significant', zero⟩ := exists_flush member significant
    exact ⟨_, List.mem_map_of_mem member', significant', zero⟩
  case read =>
    intro line _ noTab
    rw [← isSignificant_outdent (commonIndent (lines source))]
    exact isSignificant_iff_read (no_tab_outdent_iff.2 noTab)

def slanted : List Char := "  \n    page WIDGET\n # low\n      # high\n      row HBOX\n".toList

theorem indents_of_dedent_slanted :
    (dedent slanted).map String.ofList = ["", "page WIDGET", "# low", "  # high", "  row HBOX"] ∧
      (∃ line ∈ lines slanted, isSignificant line) ∧
      (∃ pair ∈ (lines slanted).zip (dedent slanted),
        isSignificant pair.1 ∧ leadingSpaces pair.2 = 0) ∧
      ∀ pair ∈ (lines slanted).zip (dedent slanted), '\t' ∉ pair.1 →
        (isSignificant pair.1 ↔
          readLine pair.2 ≠ .ok .blank ∧ readLine pair.2 ≠ .ok .comment) := by
  have significant : ∃ line ∈ lines slanted, isSignificant line := by decide
  obtain ⟨-, common, -, -, flush, read⟩ := indents_of_dedent slanted
  exact ⟨by decide, significant, flush significant, read⟩

end WidgetOutline
