import WidgetOutline.Line.Reader
import WidgetOutline.Proofs.Text.Blank
import Mathlib.Tactic

namespace WidgetOutline
open Text

/-! ## The steps of reading -/

def readWords (indent : Nat) (code : List Char) (span : Option (List Char)) :
    Except LineError Line :=
  match (words code).map String.ofList with
  | [word] =>
    if word ≠ stretchWord then .error (.wordCount 1)
    else if span.isSome then .error .misusedStretch
    else .ok (.stretch indent)
  | [name, word] => (readItem indent code span name word).map .item
  | others => .error (.wordCount others.length)

theorem readCode_eq (line : List Char) :
    readCode line = match cutSpan line with
      | .error error => .error error
      | .ok (code, span) =>
        if leadingSpaces line % indentStep ≠ 0 then .error (.indent (leadingSpaces line))
        else readWords (leadingSpaces line) code span := by
  unfold readCode
  cases cutSpan line with
  | error error => rfl
  | ok cut =>
    obtain ⟨code, span⟩ := cut
    by_cases even : leadingSpaces line % indentStep = 0
    · simp only [bind, Except.bind, pure, Except.pure, even, ne_eq, not_true_eq_false, if_false,
        readWords]
      rcases (words code).map String.ofList with _ | ⟨name, _ | ⟨word, _ | ⟨third, more⟩⟩⟩
      · rfl
      · by_cases stretch : name = stretchWord <;> cases span <;> simp [stretch] <;> rfl
      · dsimp only
        cases readItem (leadingSpaces line) code span name word <;> rfl
      · rfl
    · simp [bind, Except.bind, even, throw, throwThe, MonadExceptOf.throw]

theorem readItem_ok_iff {indent : Nat} {code : List Char} {span : Option (List Char)}
    {name word : String} {item : Item} :
    readItem indent code span name word = .ok item ↔
      name ≠ stretchWord ∧ word ≠ stretchWord ∧ '.' ∉ name.toList ∧
        ∃ typeWord text, TypeWord.read word = .ok typeWord ∧ displayText span = .ok text ∧
          item = { indent, name, typeWord, text,
                   lead := String.ofList (leadOf indent code name.toList word.toList) } := by
  unfold readItem
  by_cases stretch : name = stretchWord ∨ word = stretchWord
  · rcases stretch with rfl | rfl <;> simp [bind, Except.bind, throw, throwThe, MonadExceptOf.throw]
  · rw [not_or] at stretch
    by_cases dotted : '.' ∈ name.toList
    · simp [stretch, dotted, bind, Except.bind, throw, throwThe, MonadExceptOf.throw]
    · cases TypeWord.read word <;> cases displayText span <;>
        simp [stretch, dotted, bind, Except.bind, pure, Except.pure, eq_comm]

/-! ## Blanks at the end -/

theorem isCode_of_blank {c : Char} (blank : isBlank c = true) : isCode c = true := by
  by_contra notCode
  simp only [isCode, Bool.and_eq_true, bne_iff_ne, ne_eq, not_and, not_not] at notCode
  by_cases open_ : c = '('
  · simp [open_, isBlank] at blank
  · simp [notCode open_, commentMarker, isBlank] at blank

theorem ne_close_of_blank {c : Char} (blank : isBlank c = true) : c ≠ ')' := by
  rintro rfl
  simp [isBlank] at blank

theorem ne_space_of_letter {c : Char} (letter : isBlank c = false) : c ≠ ' ' := by
  rintro rfl
  simp [isBlank] at letter

theorem closesLine_append_blanks (rest : List Char) {blanks : List Char} (blank : Blanks blanks) :
    closesLine (rest ++ blanks) = closesLine rest := by
  unfold closesLine
  rw [trimStart_append_blanks blank]
  cases trimStart rest <;> rfl

theorem closedSpan_eq_none {text : List Char} (open_ : ')' ∉ text) (escaped : Bool) :
    closedSpan escaped text = none := by
  induction text generalizing escaped with
  | nil => rfl
  | cons c rest ih =>
    rw [List.mem_cons, not_or] at open_
    simp [closedSpan, Ne.symm open_.1, ih open_.2]

theorem closedSpan_append_blanks (text : List Char) {blanks : List Char} (blank : Blanks blanks)
    (escaped : Bool) : closedSpan escaped (text ++ blanks) = closedSpan escaped text := by
  induction text generalizing escaped with
  | nil => exact closedSpan_eq_none (fun member => ne_close_of_blank (blank _ member) rfl) escaped
  | cons c rest ih =>
    simp only [List.cons_append, closedSpan, closesLine_append_blanks rest blank, ih]

def cutAt (code : List Char) : List Char → Except LineError (List Char × Option (List Char))
  | '(' :: inner =>
    match closedSpan false inner with
    | some span => .ok (code, some span)
    | none => .error .unclosed
  | _ => if ')' ∈ code then .error .unopened else .ok (code, none)

theorem cutSpan_eq (line : List Char) :
    cutSpan line = cutAt (line.takeWhile isCode) (line.dropWhile isCode) := rfl

theorem cutAt_comment (code tail : List Char) {c : Char} (comment : c ≠ '(') :
    cutAt code (c :: tail) = cutAt code [] := by
  unfold cutAt
  split
  · simp_all
  · rfl

theorem cutSpan_code_append {code : List Char} (isCoded : ∀ c ∈ code, isCode c = true)
    {tail : List Char} (stops : ∀ c ∈ tail.head?, isCode c = false) :
    cutSpan (code ++ tail) = cutAt code tail := by
  obtain ⟨taken, dropped⟩ := takeWhile_append_stop isCoded stops
  rw [cutSpan_eq, taken, dropped]

theorem exists_code (line : List Char) :
    ∃ code tail, line = code ++ tail ∧ (∀ c ∈ code, isCode c = true) ∧
      ∀ c ∈ tail.head?, isCode c = false := by
  refine ⟨line.takeWhile isCode, line.dropWhile isCode, List.takeWhile_append_dropWhile.symm,
    fun _ => List.mem_takeWhile_imp, fun c head => ?_⟩
  have := List.head?_dropWhile_not isCode line
  rw [Option.mem_def.1 head] at this
  simpa using this

theorem code_of_blanks {blanks : List Char} (blank : Blanks blanks) :
    ∀ c ∈ blanks, isCode c = true :=
  fun c member => isCode_of_blank (blank c member)

theorem cutSpan_append_blanks (line : List Char) {blanks : List Char} (blank : Blanks blanks) :
    ∃ more, Blanks more ∧ cutSpan (line ++ blanks) =
      (cutSpan line).map fun cut => (cut.1 ++ more, cut.2) := by
  obtain ⟨code, tail, rfl, isCoded, stops⟩ := exists_code line
  have noClose : ')' ∉ blanks := fun member => ne_close_of_blank (blank _ member) rfl
  rw [cutSpan_code_append isCoded stops]
  cases tail with
  | nil =>
    refine ⟨blanks, blank, ?_⟩
    have whole : ∀ c ∈ code ++ blanks, isCode c = true := by
      simpa [or_imp, forall_and] using And.intro isCoded (code_of_blanks blank)
    rw [List.append_nil, ← List.append_nil (code ++ blanks), cutSpan_code_append whole (by simp)]
    by_cases close : ')' ∈ code <;> simp [cutAt, close, noClose, Except.map]
  | cons c tail =>
    refine ⟨[], by simp [Blanks], ?_⟩
    rw [List.append_assoc, List.cons_append, cutSpan_code_append isCoded (by simpa using stops)]
    by_cases paren : c = '('
    · subst paren
      simp only [cutAt, closedSpan_append_blanks tail blank]
      cases closedSpan false tail <;> simp [Except.map]
    · rw [cutAt_comment _ _ paren, cutAt_comment _ _ paren]
      by_cases close : ')' ∈ code <;> simp [cutAt, close, Except.map]

theorem firstOffset?_blanks_append {blanks word : List Char} (blank : Blanks blanks)
    (solid : IsWord word) (rest : List Char) :
    firstOffset? word (blanks ++ word ++ rest) = some blanks.length := by
  induction blanks with
  | nil =>
    rw [firstOffset?.eq_def, if_pos (by simp)]
    rfl
  | cons c blanks ih =>
    obtain ⟨first, later⟩ := List.forall_mem_cons.1 blank
    obtain ⟨d, more, same, letter⟩ := solid.head
    have notHere : ¬word.isPrefixOf (c :: blanks ++ word ++ rest) := by
      rw [same, List.cons_append, List.cons_append, List.isPrefixOf_cons_cons, Bool.and_eq_true]
      rintro ⟨head, -⟩
      rw [eq_of_beq head, first] at letter
      cases letter
    rw [firstOffset?.eq_def, if_neg notHere]
    simp only [List.cons_append, ih later, Option.map_some, List.length_cons]

/-- No other place of the name or of the type-word is found, as a blank starts neither of them. -/
theorem leadOf_pair {margin first gap second : List Char} (margined : Blanks margin)
    (solid : IsWord first) (gapped : Blanks gap) (solid' : IsWord second) (indent : Nat)
    (rest : List Char) :
    leadOf indent (margin ++ first ++ gap ++ second ++ rest) first second =
      margin ++ first ++ gap := by
  have name := firstOffset?_blanks_append margined solid (gap ++ second ++ rest)
  have word := firstOffset?_blanks_append gapped solid' rest
  have code : margin ++ first ++ gap ++ second ++ rest =
      margin ++ first ++ (gap ++ second ++ rest) := by
    simp only [List.append_assoc]
  rw [leadOf, code, name, Option.getD_some, ← List.length_append,
    List.drop_left, word, Option.getD_some, ← List.length_append, ← code,
    List.append_assoc _ second rest, List.take_left]

theorem leadOf_append_blanks {code first second : List Char} (pair : words code = [first, second])
    (indent : Nat) (more : List Char) :
    leadOf indent (code ++ more) first second = leadOf indent code first second := by
  obtain ⟨margin, gap, space, rfl, margined, solid, gapped, -, solid', -⟩ :=
    words_pair_iff.1 pair
  rw [List.append_assoc _ space more, leadOf_pair margined solid gapped solid',
    leadOf_pair margined solid gapped solid']

theorem readItem_append_blanks {indent : Nat} {code first second : List Char}
    (pair : words code = [first, second]) (span : Option (List Char)) (more : List Char) :
    readItem indent (code ++ more) span (String.ofList first) (String.ofList second) =
      readItem indent code span (String.ofList first) (String.ofList second) := by
  unfold readItem
  simp only [String.toList_ofList, leadOf_append_blanks pair]

theorem readWords_append_blanks (indent : Nat) (code : List Char) (span : Option (List Char))
    {more : List Char} (blank : Blanks more) :
    readWords indent (code ++ more) span = readWords indent code span := by
  unfold readWords
  rw [words_append_blanks code blank]
  match found : words code with
  | [] => rfl
  | [_] => rfl
  | [first, second] => simp only [List.map_cons, List.map_nil, readItem_append_blanks found]
  | _ :: _ :: _ :: _ => rfl

theorem leadingSpaces_append {line : List Char} (letters : ¬Blanks line) (rest : List Char) :
    leadingSpaces (line ++ rest) = leadingSpaces line := by
  have stops : (line.takeWhile (· == ' ')).length ≠ line.length := by
    intro whole
    have all := List.takeWhile_eq_self_iff.1 ((List.takeWhile_prefix _).eq_of_length whole)
    refine letters fun c member => ?_
    rw [eq_of_beq (all c member)]
    decide
  simp only [leadingSpaces, List.takeWhile_append, stops, if_false]

theorem readCode_append_blanks {line blanks : List Char} (letters : ¬Blanks line)
    (blank : Blanks blanks) : readCode (line ++ blanks) = readCode line := by
  obtain ⟨more, blank', cut⟩ := cutSpan_append_blanks line blank
  rw [readCode_eq, readCode_eq, cut, leadingSpaces_append letters]
  cases cutSpan line with
  | error error => rfl
  | ok parts => simp only [Except.map, readWords_append_blanks _ _ _ blank']

theorem readLine_append_blanks (line : List Char) {blanks : List Char} (blank : Blanks blanks)
    (noTab : '\t' ∉ blanks) : readLine (line ++ blanks) = readLine line := by
  unfold readLine
  simp only [List.mem_append, noTab, or_false, trim_append_blanks line blank]
  split
  · rfl
  · split
    · rfl
    · rename_i trimmed
      have letters : ¬Blanks line := by
        rw [← trim_eq_nil_iff, trimmed]
        simp
      simp only [readCode_append_blanks letters blank]

theorem no_tab_of_read {text : List Char} {line : Line} (read : readLine text = .ok line) :
    '\t' ∉ text := by
  intro tab
  simp [readLine, tab] at read

theorem readLine_trimEnd {line : List Char} (noTab : '\t' ∉ line) :
    readLine (trimEnd line) = readLine line := by
  obtain ⟨blanks, blank, split⟩ := exists_append_trimEnd line
  conv_rhs => rw [split]
  refine (readLine_append_blanks _ blank fun member => noTab ?_).symm
  rw [split]
  exact List.mem_append_right _ member

/-! ## Items -/

theorem readWords_item {indent : Nat} {code : List Char} {span : Option (List Char)} {item : Item}
    (read : readWords indent code span = .ok (.item item)) :
    ∃ first second, words code = [first, second] ∧
      readItem indent code span (String.ofList first) (String.ofList second) = .ok item := by
  unfold readWords at read
  match found : words code with
  | [] => simp [found] at read
  | [_] =>
    simp only [found, List.map_cons, List.map_nil] at read
    split at read
    · cases read
    · split at read <;> cases read
  | [first, second] =>
    simp only [found, List.map_cons, List.map_nil] at read
    cases made : readItem indent code span (String.ofList first) (String.ofList second) with
    | error error => simp [made, Except.map] at read
    | ok made' =>
      simp only [made, Except.map, Except.ok.injEq, Line.item.injEq] at read
      exact ⟨first, second, rfl, read ▸ made⟩
  | _ :: _ :: _ :: _ => simp [found] at read

theorem exists_letter_of_words {text word : List Char} {later : List (List Char)}
    (found : words text = word :: later) : ∃ c rest, trimStart text = c :: rest ∧ c ∈ text := by
  rw [words_eq_of_trimStart] at found
  cases trimmed : trimStart text with
  | nil => simp [trimmed] at found
  | cons c rest =>
    have member : c ∈ trimStart text := trimmed ▸ List.mem_cons_self
    exact ⟨c, rest, rfl, (List.dropWhile_sublist _).subset member⟩

theorem code_eq_of_cutAt {code code' tail : List Char} {span : Option (List Char)}
    (cut : cutAt code tail = .ok (code', span)) : code' = code := by
  unfold cutAt at cut
  split at cut <;> split at cut <;> cases cut <;> rfl

theorem cutSpan_ok {line code : List Char} {span : Option (List Char)}
    (cut : cutSpan line = .ok (code, span)) :
    ∃ tail, line = code ++ tail ∧ (∀ c ∈ code, isCode c = true) ∧
      (∀ c ∈ tail.head?, isCode c = false) ∧ cutAt code tail = .ok (code, span) := by
  obtain ⟨code', tail, rfl, isCoded, stops⟩ := exists_code line
  rw [cutSpan_code_append isCoded stops] at cut
  obtain rfl := code_eq_of_cutAt cut
  exact ⟨tail, rfl, isCoded, stops, cut⟩

theorem readLine_item_iff {line : List Char} {item : Item} :
    readLine line = .ok (.item item) ↔ '\t' ∉ line ∧ ∃ code span first second,
      cutSpan line = .ok (code, span) ∧ words code = [first, second] ∧
        leadingSpaces line % indentStep = 0 ∧
        readItem (leadingSpaces line) code span (String.ofList first) (String.ofList second) =
          .ok item := by
  constructor
  · intro read
    unfold readLine at read
    split at read
    · cases read
    · rename_i noTab
      split at read
      · cases read
      · split at read
        · cases read
        · rw [readCode_eq] at read
          split at read
          · cases read
          · rename_i code span cut
            split at read
            · cases read
            · rename_i even
              obtain ⟨first, second, found, made⟩ := readWords_item read
              exact ⟨noTab, code, span, first, second, cut, found, not_not.1 even, made⟩
  · rintro ⟨noTab, code, span, first, second, cut, found, even, made⟩
    obtain ⟨tail, rfl, isCoded, -⟩ := cutSpan_ok cut
    -- The first letter of the line is that of its first word, which is code.
    obtain ⟨c, rest, trimmed, member⟩ := exists_letter_of_words found
    have trimmed' : trimStart (code ++ tail) = c :: (rest ++ tail) := by
      unfold trimStart at trimmed ⊢
      rw [List.dropWhile_append, trimmed]
      rfl
    obtain ⟨later, start⟩ := trim_head trimmed'
    have notComment : c ≠ commentMarker := by
      rintro rfl
      exact absurd (isCoded _ member) (by decide)
    simp only [readLine, noTab, if_false, start, notComment, readCode_eq, cut, even, ne_eq,
      not_true_eq_false, readWords, found, List.map_cons, List.map_nil, made, Except.map]

/-! ## Other blanks around the name -/

theorem cutAt_recode {code code' tail : List Char} {span : Option (List Char)}
    (closes : ')' ∈ code' → ')' ∈ code) (cut : cutAt code tail = .ok (code, span)) :
    cutAt code' tail = .ok (code', span) := by
  unfold cutAt at cut ⊢
  split at cut
  · split at cut
    · simp only [Except.ok.injEq, Prod.mk.injEq] at cut
      simp only [cut.2]
    · cases cut
  · split at cut
    · cases cut
    · rename_i open_
      simp only [Except.ok.injEq, Prod.mk.injEq] at cut
      simp only [mt closes open_, if_false, cut.2]

structure ItemPieces where
  margin : List Char
  name : List Char
  gap : List Char
  word : List Char
  space : List Char
  tail : List Char
  margined : Blanks margin
  named : IsWord name
  gapped : Blanks gap
  separated : gap ≠ []
  typed : IsWord word
  spaced : Blanks space
  coded : ∀ c ∈ name ++ word, isCode c = true
  stops : ∀ c ∈ tail.head?, isCode c = false

namespace ItemPieces

def lead (pieces : ItemPieces) : List Char := pieces.margin ++ pieces.name ++ pieces.gap

def code (pieces : ItemPieces) : List Char := pieces.lead ++ pieces.word ++ pieces.space

def rest (pieces : ItemPieces) : List Char := pieces.word ++ pieces.space ++ pieces.tail

theorem words_code (pieces : ItemPieces) : words pieces.code = [pieces.name, pieces.word] :=
  words_pair_iff.2 ⟨_, _, _, rfl, pieces.margined, pieces.named, pieces.gapped, pieces.separated,
    pieces.typed, pieces.spaced⟩

theorem readItem_iff (pieces : ItemPieces) {indent : Nat} {span : Option (List Char)}
    {item : Item} :
    readItem indent pieces.code span (String.ofList pieces.name) (String.ofList pieces.word) =
        .ok item ↔
      String.ofList pieces.name ≠ stretchWord ∧ String.ofList pieces.word ≠ stretchWord ∧
        '.' ∉ pieces.name ∧ ∃ typeWord text,
          TypeWord.read (String.ofList pieces.word) = .ok typeWord ∧
            displayText span = .ok text ∧
              item = { indent, name := String.ofList pieces.name, typeWord, text,
                       lead := String.ofList pieces.lead } := by
  have lead : leadOf indent pieces.code pieces.name pieces.word = pieces.lead :=
    leadOf_pair pieces.margined pieces.named pieces.gapped pieces.typed indent _
  simp only [readItem_ok_iff, String.toList_ofList, lead]

theorem isCode_of_mem_code (pieces : ItemPieces) : ∀ c ∈ pieces.code, isCode c = true := by
  intro c member
  simp only [code, lead, List.mem_append] at member
  rcases member with (((member | member) | member) | member) | member
  · exact isCode_of_blank (pieces.margined c member)
  · exact pieces.coded c (List.mem_append_left _ member)
  · exact isCode_of_blank (pieces.gapped c member)
  · exact pieces.coded c (List.mem_append_right _ member)
  · exact isCode_of_blank (pieces.spaced c member)

theorem cutSpan_line (pieces : ItemPieces) :
    cutSpan (pieces.lead ++ pieces.rest) = cutAt pieces.code pieces.tail := by
  rw [← cutSpan_code_append pieces.isCode_of_mem_code pieces.stops]
  simp [code, rest]

theorem close_mem_code (pieces : ItemPieces) :
    ')' ∈ pieces.code ↔ ')' ∈ pieces.name ∨ ')' ∈ pieces.word := by
  have noClose : ∀ {blanks : List Char}, Blanks blanks → ')' ∉ blanks :=
    fun blank member => ne_close_of_blank (blank _ member) rfl
  simp [code, lead, noClose pieces.margined, noClose pieces.gapped, noClose pieces.spaced]

theorem not_blanks_rest (pieces : ItemPieces) : ¬Blanks pieces.rest := by
  obtain ⟨c, later, eq, letter⟩ := pieces.typed.head
  intro blank
  simpa [letter] using blank c (by simp [rest, eq])

theorem exists_of_words {line code first second : List Char} {span : Option (List Char)}
    (cut : cutSpan line = .ok (code, span)) (found : words code = [first, second]) :
    ∃ pieces : ItemPieces, line = pieces.lead ++ pieces.rest ∧ code = pieces.code ∧
      first = pieces.name ∧ second = pieces.word := by
  obtain ⟨tail, rfl, isCoded, stops, -⟩ := cutSpan_ok cut
  obtain ⟨margin, gap, space, rfl, margined, solid, gapped, nonempty, solid', spaced⟩ :=
    words_pair_iff.1 found
  refine ⟨{ margin, name := first, gap, word := second, space, tail, margined, named := solid,
            gapped, separated := nonempty, typed := solid', spaced, stops, coded := ?_ },
    ?_, rfl, rfl, rfl⟩
  · intro c member
    refine isCoded c ?_
    simp only [List.mem_append] at member ⊢
    tauto
  · simp [lead, rest]

theorem readLine_iff (pieces : ItemPieces) {item : Item} :
    readLine (pieces.lead ++ pieces.rest) = .ok (.item item) ↔
      '\t' ∉ pieces.lead ++ pieces.rest ∧
      leadingSpaces (pieces.lead ++ pieces.rest) % indentStep = 0 ∧
      ∃ span, cutAt pieces.code pieces.tail = .ok (pieces.code, span) ∧
        readItem (leadingSpaces (pieces.lead ++ pieces.rest)) pieces.code span
          (String.ofList pieces.name) (String.ofList pieces.word) = .ok item := by
  rw [readLine_item_iff, pieces.cutSpan_line]
  constructor
  · rintro ⟨noTab, code, span, first, second, cut, found, even, made⟩
    obtain rfl := code_eq_of_cutAt cut
    rw [pieces.words_code] at found
    cases found
    exact ⟨noTab, even, span, cut, made⟩
  · rintro ⟨noTab, even, span, cut, made⟩
    exact ⟨noTab, pieces.code, span, _, _, cut, pieces.words_code, even, made⟩

def respaced (pieces : ItemPieces) (indent : Nat) {pad : Nat} (positive : 0 < pad) : ItemPieces :=
  { pieces with
    margin := List.replicate indent ' '
    gap := List.replicate pad ' '
    margined := blanks_spaces indent
    gapped := blanks_spaces pad
    separated := by simp; omega }

theorem leadingSpaces_of_margin (pieces : ItemPieces) {indent : Nat}
    (spaced : pieces.margin = List.replicate indent ' ') :
    leadingSpaces (pieces.lead ++ pieces.rest) = indent := by
  obtain ⟨c, later, eq, letter⟩ := pieces.named.head
  have stops := ne_space_of_letter letter
  have parts := takeWhile_append_stop (p := (· == ' ')) (a := List.replicate indent ' ')
    (b := pieces.name ++ (pieces.gap ++ pieces.rest)) (by simp +contextual)
    (by simpa [eq] using stops)
  rw [leadingSpaces, lead, spaced, List.append_assoc, List.append_assoc]
  exact (congrArg List.length parts.1).trans (List.length_replicate ..)

end ItemPieces

structure ItemPieces.Declares (pieces : ItemPieces) (line : List Char) (span : Option (List Char))
    (item : Item) : Prop where
  whole : line = pieces.lead ++ pieces.rest
  name : item.name.toList = pieces.name
  word : item.typeWord.written.toList = pieces.word
  lead : item.lead.toList = pieces.lead
  cut : cutAt pieces.code pieces.tail = .ok (pieces.code, span)
  shown : displayText span = .ok item.text
  indent : item.indent = leadingSpaces line
  even : item.indent % indentStep = 0
  undotted : '.' ∉ item.name.toList
  notStretch : item.name ≠ stretchWord ∧ item.typeWord.written ≠ stretchWord

theorem exists_declares {line : List Char} {item : Item}
    (read : readLine line = .ok (.item item)) :
    ∃ (pieces : ItemPieces) (span : Option (List Char)), pieces.Declares line span item := by
  obtain ⟨-, code, span, first, second, cut, found, -, -⟩ := readLine_item_iff.1 read
  obtain ⟨pieces, rfl, rfl, rfl, rfl⟩ := ItemPieces.exists_of_words cut found
  obtain ⟨-, even, span, cut, made⟩ := pieces.readLine_iff.1 read
  obtain ⟨notStretch, notStretch', undotted, typeWord, text, typed, shown, rfl⟩ :=
    pieces.readItem_iff.1 made
  have written := TypeWord.written_of_read typed
  exact ⟨pieces, span,
    { whole := rfl
      name := String.toList_ofList
      word := by rw [written, String.toList_ofList]
      lead := String.toList_ofList
      cut
      shown
      indent := rfl
      even
      undotted := by rwa [String.toList_ofList]
      notStretch := ⟨notStretch, by rwa [written]⟩ }⟩

theorem name_of_readLine {line : List Char} {item : Item}
    (read : readLine line = .ok (.item item)) :
    IsWord item.name.toList ∧ '.' ∉ item.name.toList ∧ item.name.toList ⊆ line := by
  obtain ⟨pieces, span, declares⟩ := exists_declares read
  refine ⟨declares.name ▸ pieces.named, declares.undotted, fun c member => ?_⟩
  rw [declares.name] at member
  simp [declares.whole, ItemPieces.lead, member]

theorem readLine_reflow {line : List Char} {item : Item} (read : readLine line = .ok (.item item))
    {pad : Nat} (positive : 0 < pad) :
    let lead := List.replicate item.indent ' ' ++ item.name.toList ++ List.replicate pad ' '
    let rest := line.drop item.lead.length
    readLine (lead ++ rest) = .ok (.item { item with lead := String.ofList lead }) ∧
      ¬Blanks rest := by
  obtain ⟨-, code, span, first, second, cut, found, -, -⟩ := readLine_item_iff.1 read
  obtain ⟨pieces, rfl, rfl, rfl, rfl⟩ := ItemPieces.exists_of_words cut found
  obtain ⟨noTab, even, span, cut, made⟩ := pieces.readLine_iff.1 read
  obtain ⟨notStretch, notStretch', undotted, typeWord, text, typed, shown, rfl⟩ :=
    pieces.readItem_iff.1 made
  let respaced := pieces.respaced (leadingSpaces (pieces.lead ++ pieces.rest)) positive
  simp only [String.length_ofList, String.toList_ofList, List.drop_left]
  refine ⟨respaced.readLine_iff.2 ?_, pieces.not_blanks_rest⟩
  have spaces : leadingSpaces (respaced.lead ++ respaced.rest) =
      leadingSpaces (pieces.lead ++ pieces.rest) := respaced.leadingSpaces_of_margin rfl
  refine ⟨?_, spaces ▸ even, span, cutAt_recode ?_ cut, ?_⟩
  · simp only [ItemPieces.lead, List.mem_append, not_or] at noTab
    simp [respaced, ItemPieces.respaced, ItemPieces.lead, noTab]
    exact noTab.2
  · rw [respaced.close_mem_code, pieces.close_mem_code]
    exact id
  · rw [respaced.readItem_iff, spaces]
    exact ⟨notStretch, notStretch', undotted, typeWord, text, typed, shown, rfl⟩

end WidgetOutline
