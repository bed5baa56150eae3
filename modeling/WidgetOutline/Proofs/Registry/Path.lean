import WidgetOutline.Registry.Path
import Mathlib.Data.List.Basic

namespace WidgetOutline.Path

theorem segments_name {name : String} (undotted : separator ∉ name.toList) :
    segments name = [name] := by
  have whole : name.toList.splitOn separator = [name.toList] := by
    rw [List.splitOn_eq_splitOnP]
    exact List.splitOnP_eq_singleton fun c member => by
      simpa using fun same : c = separator => undotted (same ▸ member)
  simp [segments, whole]

theorem segments_child (parent : String) {name : String} (undotted : separator ∉ name.toList) :
    segments (child parent name) = segments parent ++ [name] := by
  have dotted : (child parent name).toList = parent.toList ++ separator :: name.toList := by
    simp [child, separator]
  have last := segments_name undotted
  unfold segments at last ⊢
  rw [dotted, List.splitOn_eq_splitOnP, List.splitOnP_append_cons _ _ (by simp), List.map_append,
    ← List.splitOn_eq_splitOnP, ← List.splitOn_eq_splitOnP, last]

theorem depth_name {name : String} (undotted : separator ∉ name.toList) : depth name = 1 := by
  simp [depth, segments_name undotted]

theorem depth_child (parent : String) {name : String} (undotted : separator ∉ name.toList) :
    depth (child parent name) = depth parent + 1 := by
  simp [depth, segments_child parent undotted]

theorem lastSegment_name {name : String} (undotted : separator ∉ name.toList) :
    lastSegment name = name := by
  simp [lastSegment, segments_name undotted]

theorem lastSegment_child (parent : String) {name : String} (undotted : separator ∉ name.toList) :
    lastSegment (child parent name) = name := by
  simp [lastSegment, segments_child parent undotted]

theorem intercalate_append {α : Type} (separator : α) {front rest : List (List α)}
    (nonempty : front ≠ []) (nonempty' : rest ≠ []) :
    [separator].intercalate (front ++ rest) =
      [separator].intercalate front ++ separator :: [separator].intercalate rest := by
  induction front with
  | nil => exact absurd rfl nonempty
  | cons first front ih =>
    cases front with
    | nil =>
      rw [List.singleton_append, List.intercalate_cons_of_ne_nil nonempty',
        List.intercalate_singleton, List.append_assoc, List.singleton_append]
    | cons next front =>
      rw [List.cons_append, List.cons_append, List.intercalate_cons_cons, ← List.cons_append,
        ih (by simp), List.intercalate_cons_cons]
      simp only [List.append_assoc, List.cons_append]

theorem splitOn_suffix_iff {text ending : List Char} :
    ending.splitOn separator <:+ text.splitOn separator ↔
      text = ending ∨ separator :: ending <:+ text := by
  constructor
  · rintro ⟨front, split⟩
    have joined := congrArg [separator].intercalate split
    rw [List.intercalate_splitOn] at joined
    by_cases none : front = []
    · rw [none, List.nil_append, List.intercalate_splitOn] at joined
      exact .inl joined.symm
    · rw [intercalate_append separator none (by simp),
        List.intercalate_splitOn] at joined
      exact .inr ⟨_, joined⟩
  · rintro (rfl | ⟨front, rfl⟩)
    · exact List.suffix_rfl
    · refine ⟨front.splitOn separator, ?_⟩
      rw [List.splitOn_eq_splitOnP, List.splitOn_eq_splitOnP, List.splitOn_eq_splitOnP,
        List.splitOnP_append_cons _ _ (by simp)]

theorem matchesSuffix_iff {path suffix : String} :
    matchesSuffix path suffix = true ↔ segments suffix <:+ segments path := by
  rw [segments, segments,
    List.suffix_map_iff_of_injective fun _ _ same => String.ofList_injective same,
    splitOn_suffix_iff, matchesSuffix, Bool.or_eq_true, beq_iff_eq, List.isSuffixOf_iff_suffix,
    String.toList_inj]

end WidgetOutline.Path
