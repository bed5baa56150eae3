import WidgetOutline.Proofs.Text.Bytes
import WidgetOutline.Proofs.Text.EditDistance
import WidgetOutline.Supply.Suggestion
import WidgetOutline.Toolkit.Builtin
import Mathlib.Algebra.Order.Field.Basic
import Mathlib.Data.Prod.Lex
import Mathlib.Data.Rat.Cast.Order
import Mathlib.Data.String.Basic

namespace WidgetOutline
open Text

/-- One less the share of the characters that have to be edited, without regard to case. -/
def similarity (wanted known : String) : ℚ :=
  let source := lowerCase wanted.toList
  let target := lowerCase known.toList
  let longest := max source.length target.length
  if longest = 0 then 1 else 1 - (editDistance source target : ℚ) / longest

def Precedes (wanted known other : String) : Prop :=
  similarity wanted other < similarity wanted known ∨
    similarity wanted known = similarity wanted other ∧ utf8Bytes known ≤ utf8Bytes other

def outranks (wanted known other : String) : Bool :=
  (Candidate.score wanted known).ranksBefore (Candidate.score wanted other)

section

variable {wanted known other : String}

theorem similarity_eq (wanted known : String) :
    similarity wanted known = 1 - ((Candidate.score wanted known).distance : ℚ) /
      (max (Candidate.score wanted known).longest 1 : ℕ) := by
  simp only [similarity, Candidate.score, head_distanceRow]
  split
  · rename_i empty
    obtain ⟨noSource, noTarget⟩ : lowerCase wanted.toList = [] ∧ lowerCase known.toList = [] := by
      simpa using empty
    simp [noSource, noTarget, editDistance]
  · rename_i nonempty
    rw [max_eq_left (Nat.one_le_iff_ne_zero.2 nonempty)]

theorem outranks_iff : outranks wanted known other = true ↔ Precedes wanted known other := by
  rw [Precedes, similarity_eq, similarity_eq, utf8Bytes_le_iff]
  have positive (longest : Nat) : (0 : ℚ) < (max longest 1 : ℕ) := by
    exact_mod_cast Nat.lt_of_lt_of_le Nat.one_pos (Nat.le_max_right longest 1)
  rw [sub_lt_sub_iff_left, sub_right_inj, div_lt_div_iff₀ (positive _) (positive _),
    div_eq_div_iff (positive _).ne' (positive _).ne']
  unfold outranks Candidate.ranksBefore
  simp only [Bool.or_eq_true, Bool.and_eq_true, decide_eq_true_eq]
  norm_cast

theorem precedes_iff : Precedes wanted known other ↔
    toLex (-similarity wanted known, known) ≤ toLex (-similarity wanted other, other) := by
  rw [Prod.Lex.toLex_le_toLex, neg_lt_neg_iff, neg_inj, Precedes, utf8Bytes_le_iff]

theorem precedes_total (wanted known other : String) :
    Precedes wanted known other ∨ Precedes wanted other known := by
  rw [precedes_iff, precedes_iff]
  exact le_total _ _

theorem Precedes.trans {last : String} (first : Precedes wanted known other)
    (second : Precedes wanted other last) : Precedes wanted known last := by
  rw [precedes_iff] at first second ⊢
  exact first.trans second

theorem Precedes.antisymm (before : Precedes wanted known other)
    (after : Precedes wanted other known) : known = other := by
  rw [precedes_iff] at before after
  exact congrArg (fun key => (ofLex key).2) (before.antisymm after)

end

def SameUpToCase (wanted known : String) : Prop :=
  lowerCase wanted.toList = lowerCase known.toList

instance (wanted known : String) : Decidable (SameUpToCase wanted known) :=
  inferInstanceAs (Decidable (_ = _))

theorem similarity_le_one (wanted known : String) : similarity wanted known ≤ 1 := by
  rw [similarity_eq, sub_le_self_iff]
  exact div_nonneg (Nat.cast_nonneg _) (Nat.cast_nonneg _)

theorem similarity_eq_one_iff {wanted known : String} :
    similarity wanted known = 1 ↔ SameUpToCase wanted known := by
  have positive := Nat.le_max_right (Candidate.score wanted known).longest 1
  rw [similarity_eq, sub_eq_self, div_eq_zero_iff, Nat.cast_eq_zero, Nat.cast_eq_zero,
    or_iff_left (Nat.ne_of_gt positive)]
  simp only [Candidate.score, head_distanceRow, editDistance_eq_zero_iff, SameUpToCase]

theorem Precedes.sameUpToCase {wanted known other : String} (before : Precedes wanted known other)
    (same : SameUpToCase wanted other) : SameUpToCase wanted known := by
  rw [← similarity_eq_one_iff] at same ⊢
  apply le_antisymm (similarity_le_one wanted known)
  rcases before with less | ⟨equal, -⟩
  · exact same ▸ less.le
  · exact (equal.trans same).ge

def ranked (wanted : String) (words : List String) : List String :=
  words.mergeSort (outranks wanted)

theorem suggestions_eq (classNames : List String) (wanted : String) :
    suggestions classNames wanted =
      (ranked wanted (knownWords classNames)).take suggestionLimit := by
  have scored : ∀ a ∈ (knownWords classNames).map (Candidate.score wanted),
      ∀ b ∈ (knownWords classNames).map (Candidate.score wanted),
        a.ranksBefore b = outranks wanted a.word b.word := by
    intro a inWords b inWords'
    obtain ⟨known, -, rfl⟩ := List.mem_map.1 inWords
    obtain ⟨other, -, rfl⟩ := List.mem_map.1 inWords'
    rfl
  have words : ((knownWords classNames).map (Candidate.score wanted)).map Candidate.word =
      knownWords classNames := by
    rw [List.map_map]
    exact List.map_id _
  unfold suggestions
  rw [List.map_take, List.map_mergeSort scored, words, ranked]

section

variable (wanted : String) (words : List String)

theorem ranked_perm : (ranked wanted words).Perm words :=
  List.mergeSort_perm words (outranks wanted)

theorem pairwise_ranked : (ranked wanted words).Pairwise (Precedes wanted) := by
  have trans (known other last : String) (first : outranks wanted known other = true)
      (second : outranks wanted other last = true) : outranks wanted known last = true := by
    rw [outranks_iff] at first second ⊢
    exact first.trans second
  have total (known other : String) :
      (outranks wanted known other || outranks wanted other known) = true := by
    rw [Bool.or_eq_true, outranks_iff, outranks_iff]
    exact precedes_total wanted known other
  exact (List.pairwise_mergeSort trans total words).imp outranks_iff.1

theorem ranked_eq {sorted words : List String} (same : sorted.Perm words)
    (pairwise : sorted.Pairwise (Precedes wanted)) : ranked wanted words = sorted := by
  have perm := (ranked_perm wanted words).trans same.symm
  exact perm.eq_of_pairwise (fun _ _ _ _ => Precedes.antisymm) (pairwise_ranked wanted words)
    pairwise

variable (count : Nat)

theorem pairwise_first : ((ranked wanted words).take count).Pairwise (Precedes wanted) :=
  (pairwise_ranked wanted words).sublist (List.take_sublist count _)

theorem precedes_of_omitted : ∀ known ∈ (ranked wanted words).take count,
    ∀ other ∈ (ranked wanted words).drop count, Precedes wanted known other := by
  have sorted := pairwise_ranked wanted words
  rw [← List.take_append_drop count (ranked wanted words), List.pairwise_append] at sorted
  exact sorted.2.2

theorem sameUpToCase_first {different : String}
    (member : different ∈ (ranked wanted words).take count)
    (differs : ¬SameUpToCase wanted different) :
    (((ranked wanted words).take count).filter (SameUpToCase wanted ·)).Perm
      (words.filter (SameUpToCase wanted ·)) := by
  have none : ((ranked wanted words).drop count).filter (SameUpToCase wanted ·) = [] := by
    rw [List.filter_eq_nil_iff]
    intro other omitted same
    have before := precedes_of_omitted wanted words count different member other omitted
    exact differs (before.sameUpToCase (of_decide_eq_true same))
  have all := (ranked_perm wanted words).filter (SameUpToCase wanted ·)
  rwa [← List.take_append_drop count (ranked wanted words), List.filter_append, none,
    List.append_nil] at all

end

theorem filter_append_filter {α : Type} {p : α → Bool} {list : List α}
    (first : list.Pairwise fun a b => p b = true → p a = true) :
    list.filter p ++ list.filter (!p ·) = list := by
  induction list with
  | nil => rfl
  | cons a list ih =>
    obtain ⟨before, later⟩ := List.pairwise_cons.1 first
    by_cases holds : p a = true
    · simp [holds, ih later]
    · have none : list.filter p = [] := List.filter_eq_nil_iff.2 fun b member holds' =>
        holds (before b member holds')
      simpa [holds, none] using ih later

theorem ranked_of_suggestions (toolkit : Toolkit) (wanted : String) :
    let candidates := Keyword.all.map Keyword.word ++ toolkit.classNames
    let suggested := suggestions toolkit.classNames wanted
    suggested.length = min 6 candidates.length ∧
      suggested.Pairwise (Precedes wanted) ∧
      (∃ omitted, (suggested ++ omitted).Perm candidates ∧
        ∀ known ∈ suggested, ∀ other ∈ omitted, Precedes wanted known other) ∧
      (∀ others : Toolkit, others.classNames.Perm toolkit.classNames →
        suggestions others.classNames wanted = suggested) ∧
      ∃ same different, suggested = same ++ different ∧
        (∀ known ∈ same, SameUpToCase wanted known) ∧
        (∀ known ∈ different, ¬SameUpToCase wanted known) ∧
        (different ≠ [] →
          same.Perm (candidates.filter fun known => SameUpToCase wanted known)) := by
  intro candidates suggested
  have first : suggested = (ranked wanted candidates).take 6 :=
    suggestions_eq toolkit.classNames wanted
  have sorted : suggested.Pairwise (Precedes wanted) := first ▸ pairwise_first wanted candidates 6
  refine ⟨?length, sorted, ⟨(ranked wanted candidates).drop 6, ?all, ?before⟩,
    fun others same => ?order, suggested.filter (SameUpToCase wanted ·),
    suggested.filter (!SameUpToCase wanted ·), ?parts, ?same, ?different, ?allSame⟩
  case length => rw [first, List.length_take, (ranked_perm wanted candidates).length_eq]
  case all =>
    rw [first, List.take_append_drop]
    exact ranked_perm wanted candidates
  case before => exact first ▸ precedes_of_omitted wanted candidates 6
  case order =>
    have perm := (ranked_perm wanted candidates).trans (same.append_left _).symm
    rw [suggestions_eq, knownWords, ranked_eq wanted perm (pairwise_ranked wanted candidates)]
    exact first.symm
  case parts =>
    refine (filter_append_filter (sorted.imp fun before same => ?_)).symm
    exact decide_eq_true (before.sameUpToCase (of_decide_eq_true same))
  case same => simp
  case different => simp
  case allSame =>
    intro nonempty
    obtain ⟨different, member⟩ := List.exists_mem_of_ne_nil _ nonempty
    rw [first] at member ⊢
    obtain ⟨inFirst, differs⟩ := List.mem_filter.1 member
    exact sameUpToCase_first wanted candidates 6 inFirst (by simpa using differs)

def boxes : Toolkit := .ofTable (["hbox", "qlabel", "Hbox", "hbox"].map abstractClass)

theorem ranked_of_suggestions_boxes :
    suggestions boxes.classNames "hBox" = ["HBOX", "Hbox", "hbox", "hbox", "VBOX", "GROUP"] ∧
      suggestions ["Hbox", "hbox", "hbox", "qlabel"] "hBox" =
        suggestions boxes.classNames "hBox" := by
  let sorted := ["HBOX", "Hbox", "hbox", "hbox", "VBOX", "GROUP", "LABEL", "BUTTON", "SCROLL",
    "qlabel", "SPLIT", "STACK", "TAB", "WIDGET"]
  have same : sorted.Perm (knownWords boxes.classNames) := by decide +kernel
  have outranks : sorted.Pairwise fun known other => outranks "hBox" known other = true := by
    decide +kernel
  obtain ⟨-, -, -, order, -⟩ := ranked_of_suggestions boxes "hBox"
  constructor
  · rw [suggestions_eq, ranked_eq "hBox" same (outranks.imp outranks_iff.1)]
    rfl
  · exact order { boxes with classNames := ["Hbox", "hbox", "hbox", "qlabel"] } (by decide)

end WidgetOutline
