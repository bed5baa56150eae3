import WidgetOutline.Proofs.Build.Significance
import WidgetOutline.Proofs.Source.Margin

namespace WidgetOutline
open Text

/-- What is added to the lines of a source, by their numbers; what is added below the last line is
above the number after it. -/
structure Layout where
  width : Nat
  margin : Nat → String
  above : Nat → List String

namespace Layout

def relay (layout : Layout) (number : Nat) : List (List Char) → List (List Char)
  | [] => (layout.above number).map String.toList
  | line :: later => (layout.above number).map String.toList ++
      (List.replicate layout.width ' ' ++ (line ++ (layout.margin number).toList)) ::
        layout.relay (number + 1) later

def shift (layout : Layout) : Nat → Nat
  | 0 => 0
  | number + 1 => layout.shift number + (layout.above (number + 1)).length + 1

/-- Only margins are added, after the lines and as lines of their own. -/
structure Harmless (layout : Layout) : Prop where
  margin : ∀ number, IsMargin (layout.margin number)
  above : ∀ number, ∀ text ∈ layout.above number, IsMargin text

variable {layout : Layout} {texts : List (List Char)} {text : List Char} {margin : String}

theorem isSignificant_margined (isMargin : IsMargin margin) (width : Nat) (text : List Char) :
    isSignificant (List.replicate width ' ' ++ (text ++ margin.toList)) = isSignificant text := by
  rw [isSignificant, trim_of_blanks_append (blanks_spaces width), ← isSignificant,
    isSignificant_append_margin isMargin]

theorem min?_map_add (width : Nat) (numbers : List Nat) :
    (numbers.map (width + ·)).min? = numbers.min?.map (width + ·) := by
  cases least : numbers.min? with
  | none =>
    rw [List.min?_eq_none_iff] at least
    subst least
    rfl
  | some k =>
    obtain ⟨member, bound⟩ := List.min?_eq_some_iff.1 least
    rw [Option.map_some, List.min?_eq_some_iff]
    refine ⟨List.mem_map_of_mem member, ?_⟩
    rintro _ inMap
    obtain ⟨number, inNumbers, rfl⟩ := List.mem_map.1 inMap
    exact Nat.add_le_add_left (bound number inNumbers) width

theorem indents_relay (harmless : layout.Harmless) (number : Nat) :
    ((layout.relay number texts).filter isSignificant).map leadingSpaces =
      ((texts.filter isSignificant).map leadingSpaces).map (layout.width + ·) := by
  have none (number : Nat) :
      ((layout.above number).map String.toList).filter isSignificant = [] := by
    rw [List.filter_eq_nil_iff]
    rintro _ member
    obtain ⟨text, inAbove, rfl⟩ := List.mem_map.1 member
    simp [(silent_iff.1 (isMargin_iff_silent.1 (harmless.above number text inAbove))).2]
  induction texts generalizing number with
  | nil => rw [relay, none]; rfl
  | cons text later ih =>
    have kept := isSignificant_margined (harmless.margin number) layout.width text
    rw [relay, List.filter_append, none, List.nil_append]
    by_cases significant : isSignificant text = true
    · have letters := letters_of_isSignificant significant
      rw [List.filter_cons_of_pos (kept.trans significant), List.filter_cons_of_pos significant,
        List.map_cons, List.map_cons, List.map_cons, ih, leadingSpaces_spaces_append,
        leadingSpaces_append letters]
    · rw [List.filter_cons_of_neg (kept ▸ significant), List.filter_cons_of_neg significant, ih]

theorem commonIndent_relay (harmless : layout.Harmless) (number : Nat)
    (significant : ∃ text ∈ texts, isSignificant text = true) :
    commonIndent (layout.relay number texts) = layout.width + commonIndent texts := by
  rw [commonIndent, commonIndent, indents_relay harmless, min?_map_add]
  cases least : ((texts.filter isSignificant).map leadingSpaces).min? with
  | none =>
    obtain ⟨text, member, significant⟩ := significant
    rw [List.min?_eq_none_iff, List.map_eq_nil_iff, List.filter_eq_nil_iff] at least
    exact absurd significant (least text member)
  | some k => rfl

theorem outdent_margined (significant : isSignificant text = true) (width common : Nat)
    (margin : List Char) :
    outdent (width + common) (List.replicate width ' ' ++ (text ++ margin)) =
      outdent common text ++ margin := by
  have bound : min (leadingSpaces text) common ≤ text.length :=
    (Nat.min_le_left ..).trans (List.takeWhile_prefix _).length_le
  unfold outdent
  rw [leadingSpaces_spaces_append, leadingSpaces_append (letters_of_isSignificant significant),
    Nat.add_min_add_left, ← List.drop_drop, List.drop_left' (List.length_replicate ..),
    List.drop_append_of_le_length bound]

theorem readLine_margined {width common common' : Nat} {said : Line} (isMargin : IsMargin margin)
    (read : readLine (outdent common text) = .ok said)
    (shifted : isSignificant text = true → common' = width + common) :
    ∃ said', readLine (outdent common' (List.replicate width ' ' ++ (text ++ margin.toList))) =
        .ok said' ∧ (said' = said ∨ said'.indent? = none ∧ said.indent? = none) := by
  have kept := (readLine_indent read).1
  rw [isSignificant_outdent] at kept
  cases indent : said.indent? with
  | some n =>
    rw [indent] at kept
    refine ⟨said, ?_, .inl rfl⟩
    rw [shifted kept, outdent_margined kept]
    exact readLine_append_margin read (by rw [indent]; rfl) isMargin
  | none =>
    rw [indent] at kept
    have noTab := no_tab_outdent_iff.1 (no_tab_of_read read)
    have silent : Silent (List.replicate width ' ' ++ (text ++ margin.toList)) := by
      refine silent_iff.2 ⟨by simp [noTab, isMargin.noTab], ?_⟩
      rw [isSignificant_margined isMargin, kept]
      rfl
    obtain ⟨said', read', none⟩ := silent.outdent common'
    exact ⟨said', read', .inr ⟨none, rfl⟩⟩

theorem reads_above (harmless : layout.Harmless) (number common : Nat) :
    ∃ read, Reads (((layout.above number).map String.toList).map (outdent common)) read ∧
      significant read = [] := by
  apply reads_of_silent
  intro _ member
  obtain ⟨_, inAbove, rfl⟩ := List.mem_map.1 member
  obtain ⟨text, added, rfl⟩ := List.mem_map.1 inAbove
  exact (isMargin_iff_silent.1 (harmless.above number text added)).outdent common

theorem significantAt_relay (harmless : layout.Harmless) {common common' : Nat}
    {read : List Line} (reads : Reads (texts.map (outdent common)) read)
    (shifted : (∃ text ∈ texts, isSignificant text = true) → common' = layout.width + common)
    (number : Nat) :
    ∃ read', Reads ((layout.relay (number + 1) texts).map (outdent common')) read' ∧
      significantAt (layout.shift number + 1) read' =
        (significantAt (number + 1) read).map (Prod.map id layout.shift) := by
  induction texts generalizing number read with
  | nil =>
    obtain rfl := List.forall₂_nil_left_iff.1 reads
    obtain ⟨read', reads', none⟩ := reads_above harmless (number + 1) common'
    exact ⟨read', reads', significantAt_eq_nil none _⟩
  | cons text later ih =>
    obtain ⟨said, read, first, rest, rfl⟩ := List.forall₂_cons_left_iff.1 reads
    obtain ⟨above, readsAbove, none⟩ := reads_above harmless (number + 1) common'
    obtain ⟨said', first', same⟩ := readLine_margined (harmless.margin (number + 1)) first
      fun significant => shifted ⟨text, List.mem_cons_self, significant⟩
    obtain ⟨read', rest', numbered⟩ := ih rest
      (fun ⟨other, member, significant⟩ =>
        shifted ⟨other, List.mem_cons_of_mem _ member, significant⟩) (number + 1)
    have place : layout.shift number + 1 + above.length = layout.shift (number + 1) := by
      rw [← readsAbove.length_eq, List.length_map, List.length_map, shift]
      omega
    refine ⟨above ++ said' :: read', ?_, ?_⟩
    · rw [relay, List.map_append, List.map_cons, reads_append_iff]
      exact ⟨above, said' :: read', rfl, readsAbove, .cons first' rest'⟩
    · rw [significantAt_append, significantAt_eq_nil none, List.nil_append, place, significantAt,
        significantAt, numbered]
      rcases same with rfl | ⟨silent', silent⟩
      · cases said'.indent? <;> rfl
      · rw [silent', silent]
        rfl

end Layout

theorem build_relay {source source' : String} {layout : Layout}
    (readable : ∀ text ∈ dedent source.toList, ∃ line, readLine text = .ok line)
    (harmless : layout.Harmless)
    (relaid : lines source'.toList = layout.relay 1 (lines source.toList)) (builder : Builder)
    (origin : String) (heap : Heap) :
    (builder.build source' origin heap).unquoted =
      ((builder.build source origin heap).moved layout.shift).unquoted := by
  have shifted : (∃ text ∈ lines source.toList, isSignificant text = true) →
      commonIndent (lines source'.toList) =
        layout.width + commonIndent (lines source.toList) := by
    rw [relaid]
    exact Layout.commonIndent_relay harmless 1
  obtain ⟨read, reads⟩ := exists_reads readable
  obtain ⟨read', reads', same⟩ := Layout.significantAt_relay harmless reads shifted 0
  rw [← relaid] at reads'
  rw [Builder.build_eq_follow reads', Builder.build_moved_eq reads, ← same]
  rfl

def plainSource : String := "a WIDGET\n  b LABEL(x)\n# c\n  <>"

def airyLayout : Layout where
  width := 2
  margin number := if number = 2 then "  # y) (" else ""
  above number := if number = 1 then ["# d", " #"] else if number = 4 then [" "] else []

def airySource : String := "# d\n #\r\n  a WIDGET\n    b LABEL(x)  # y) (\n  # c\n \n    <>\n"

theorem build_relay_airy :
    (∀ text ∈ dedent plainSource.toList, ∃ line, readLine text = .ok line) ∧
      airyLayout.Harmless ∧
      lines airySource.toList = airyLayout.relay 1 (lines plainSource.toList) ∧
      (Builder.builtin.build airySource "ui" .empty).unquoted =
        ((Builder.builtin.build plainSource "ui" .empty).moved airyLayout.shift).unquoted := by
  have readable : ∀ text ∈ dedent plainSource.toList, ∃ line, readLine text = .ok line := by
    have all : ∀ text ∈ dedent plainSource.toList, (readLine text).isOk = true := by decide +kernel
    intro text member
    have ok := all text member
    cases read : readLine text with
    | ok line => exact ⟨line, rfl⟩
    | error error => simp [read, Except.isOk, Except.toBool] at ok
  have harmless : airyLayout.Harmless := by
    constructor
    · intro number
      unfold airyLayout
      dsimp only
      split <;> decide +kernel
    · intro number
      unfold airyLayout
      dsimp only
      split
      · decide +kernel
      · split <;> decide +kernel
  have relaid : lines airySource.toList = airyLayout.relay 1 (lines plainSource.toList) := by
    decide +kernel
  exact ⟨readable, harmless, relaid, build_relay readable harmless relaid .builtin "ui" .empty⟩

end WidgetOutline
