import WidgetOutline.Proofs.Archive.Notice

/-!
# Replaced notices

The notice that was attached to a text is found again where it starts, and it is found whole exactly
if its directory holds no pair of comment markers.  Then attaching another notice puts it in the
place of the first one and leaves nothing of that behind (`Notice.attachTo_attachTo_iff`).
-/

namespace WidgetOutline.Notice

section

variable {α : Type} {pattern front back : List α} {c : α}

theorem infix_append_cons_iff (absent : c ∉ pattern) :
    pattern <:+: front ++ c :: back ↔ pattern <:+: front ∨ pattern <:+: back := by
  have first {part : List α} (within : part ⊆ pattern) (start : part <+: c :: back) :
      part = [] := by
    cases part with
    | nil => rfl
    | cons d rest =>
      obtain rfl : d = c := (List.cons_prefix_cons.1 start).1
      exact absurd (within (List.mem_cons_self ..)) absent
  constructor
  · intro occurs
    rcases List.infix_append_iff.1 occurs with inFront | inBack | ⟨left, right, rfl, ends, starts⟩
    · exact .inl inFront
    · rcases List.infix_cons_iff.1 inBack with start | later
      · rw [first (List.Subset.refl _) start]
        exact .inl (List.nil_infix ..)
      · exact .inr later
    · rw [first (List.subset_append_right _ _) starts, List.append_nil]
      exact .inl ends.isInfix
  · rintro (inFront | inBack)
    · exact inFront.trans (List.prefix_append ..).isInfix
    · exact inBack.trans ((List.suffix_cons ..).trans (List.suffix_append ..)).isInfix

end

variable {pattern before after : List Char}

theorem cutAt?_append_iff (nonempty : pattern ≠ []) (before after : List Char) :
    cutAt? pattern (before ++ pattern ++ after) = some (before, after) ↔
      ¬pattern <:+: before ++ pattern.dropLast := by
  have positive := List.length_pos_iff.2 nonempty
  induction before with
  | nil =>
    have short : ¬pattern <:+: pattern.dropLast := fun occurs => by
      have := occurs.length_le
      rw [List.length_dropLast] at this
      omega
    rw [cutAt?.eq_def]
    simp [short]
  | cons c before ih =>
    have whole : before ++ pattern ++ after =
        before ++ pattern.dropLast ++ (pattern.getLast nonempty :: after) := by
      conv_lhs => rw [← List.dropLast_append_getLast nonempty]
      simp
    have near : c :: (before ++ pattern.dropLast) <+: c :: (before ++ pattern ++ after) := by
      rw [whole]
      exact List.prefix_append (c :: (before ++ pattern.dropLast)) _
    -- An occurrence that starts here ends before the one after `before`.
    have reach : pattern <+: c :: (before ++ pattern ++ after) ↔
        pattern <+: c :: (before ++ pattern.dropLast) := by
      refine ⟨fun start => List.prefix_of_prefix_length_le start near ?_,
        fun start => start.trans near⟩
      simp only [List.length_cons, List.length_append, List.length_dropLast]
      omega
    rw [List.cons_append, List.cons_append, List.cons_append, List.infix_cons_iff, ← reach, not_or,
      cutAt?]
    by_cases start : pattern <+: c :: (before ++ pattern ++ after)
    · rw [if_pos (List.isPrefixOf_iff_prefix.2 start)]
      exact iff_of_false (by simp) fun none => none.1 start
    · rw [if_neg (mt List.isPrefixOf_iff_prefix.1 start), and_iff_right start]
      refine Iff.trans ?_ ih
      simp

theorem exists_cutAt? {pattern text : List Char} (occurs : pattern <:+: text) :
    ∃ before after, cutAt? pattern text = some (before, after) := by
  fun_induction cutAt? pattern text with
  | case1 text _ => exact ⟨[], _, rfl⟩
  | case2 noPrefix =>
    obtain rfl := List.eq_nil_of_infix_nil occurs
    exact absurd rfl noPrefix
  | case3 c rest noPrefix ih =>
    rcases List.infix_cons_iff.1 occurs with start | later
    · exact absurd (List.isPrefixOf_iff_prefix.2 start) noPrefix
    · obtain ⟨before, after, cut⟩ := ih later
      exact ⟨c :: before, after, by rw [cut]; rfl⟩

def lead : String := "\n# Previous versions can be found here:\n#"

def inside (directory : String) : List Char :=
  lead.toList ++ ' ' :: (directory.toList ++ ['\n'])

theorem block_eq (directory : String) :
    (block directory).toList = sentence.toList ++ inside directory ++ ending.toList := by
  have middle : "\n# Previous versions can be found here:\n# " = lead ++ " " := by decide +kernel
  rw [block, middle]
  simp [inside]

theorem ending_inside_iff (directory : String) :
    ending.toList <:+: inside directory ++ ending.toList.dropLast ↔
      ending.toList <:+: directory.toList := by
  have around : inside directory ++ ending.toList.dropLast =
      lead.toList ++ ' ' :: (directory.toList ++ '\n' :: ['#']) := by
    simp [inside, ending]
  have inLead : ¬ending.toList <:+: lead.toList := by decide +kernel
  have last : ¬ending.toList <:+: ['#'] := by decide
  rw [around, infix_append_cons_iff (by decide), infix_append_cons_iff (by decide)]
  simp only [inLead, last, false_or, or_false]

theorem around?_block (directory : String) (after : List Char)
    (first : ¬sentence.toList <:+: before ++ sentence.toList.dropLast) :
    ∃ rest, around? (before ++ (block directory).toList ++ after) = some (before, rest) ∧
      (rest = after ↔ ¬ending.toList <:+: directory.toList) := by
  have start : cutAt? sentence.toList (before ++ (block directory).toList ++ after) =
      some (before, inside directory ++ ending.toList ++ after) := by
    have cut := (cutAt?_append_iff (by decide) before
      (inside directory ++ ending.toList ++ after)).2 first
    rw [← cut, block_eq]
    simp only [List.append_assoc]
  have ends : ending.toList <:+: inside directory ++ ending.toList ++ after := ⟨_, _, rfl⟩
  obtain ⟨inner, rest, second⟩ := exists_cutAt? ends
  refine ⟨rest, ?_, ?_⟩
  · unfold around?
    rw [start, Option.bind_some]
    dsimp only
    rw [second]
    rfl
  · rw [← ending_inside_iff, ← cutAt?_append_iff (by decide) _ after, second]
    constructor
    · rintro rfl
      have same := cutAt?_eq_some second
      rw [List.append_cancel_right (List.append_cancel_right same)]
    · intro same
      exact (Prod.mk.inj (Option.some.inj same)).2

theorem not_occurs_of_around? {text : List Char} (found : around? text = some (before, after)) :
    ¬sentence.toList <:+: before ++ sentence.toList.dropLast := by
  obtain ⟨⟨front, rest⟩, cut, last⟩ := Option.bind_eq_some_iff.1 found
  obtain ⟨_, -, same⟩ := Option.map_eq_some_iff.1 last
  cases same
  rw [cutAt?_eq_some cut] at cut
  exact (cutAt?_append_iff (by decide) ..).1 cut

def opening (text : List Char) : List Char × List Char :=
  (around? text).getD ([], '\n' :: text)

theorem attachTo_toList (text directory : String) :
    (attachTo text directory).toList = (opening text.toList).1 ++ (block directory).toList ++
      (opening text.toList).2 := by
  unfold attachTo opening
  cases around? text.toList <;> simp

theorem not_occurs_opening (text : List Char) :
    ¬sentence.toList <:+: (opening text).1 ++ sentence.toList.dropLast := by
  unfold opening
  cases found : around? text with
  | none =>
    show ¬sentence.toList <:+: [] ++ sentence.toList.dropLast
    decide +kernel
  | some cut => exact not_occurs_of_around? found

/-- A second notice takes the place of the first one exactly if the directory of that holds no
pair of comment markers. -/
theorem attachTo_attachTo_iff (text first second : String) :
    attachTo (attachTo text first) second = attachTo text second ↔
      ¬ending.toList <:+: first.toList := by
  obtain ⟨rest, found, whole⟩ := around?_block first (opening text.toList).2
    (not_occurs_opening text.toList)
  rw [← attachTo_toList] at found
  have again : opening (attachTo text first).toList = ((opening text.toList).1, rest) := by
    unfold opening at found ⊢
    rw [found]
    rfl
  rw [← whole, ← String.toList_inj, attachTo_toList (attachTo text first), again,
    attachTo_toList text, List.append_cancel_left_eq]

theorem not_attachTo_attachTo_marked :
    ¬∀ text first second : String,
      attachTo (attachTo text first) second = attachTo text second := by
  intro claim
  have left : attachTo (attachTo "page WIDGET\n" "a##b") "c" ≠ attachTo "page WIDGET\n" "c" := by
    decide +kernel
  exact left (claim _ _ _)

end WidgetOutline.Notice
