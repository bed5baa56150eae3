import WidgetOutline.Files.Path
import Mathlib.Data.List.Basic

namespace WidgetOutline.FilePath

variable {path directory name : String}

theorem toList_ne_nil (named : path.isEmpty = false) : path.toList ≠ [] := by
  rintro empty
  rw [String.toList_eq_nil_iff.1 empty] at named
  cases named

theorem not_isAbsolute (whole : separator ∉ name.toList) : isAbsolute name = false := by
  unfold isAbsolute
  cases letters : name.toList with
  | nil => rfl
  | cons c rest =>
    rw [letters] at whole
    exact beq_false_of_ne fun same => whole (by simp [Option.some.inj same])

theorem isAbsolute_append {rest : String} (named : directory.isEmpty = false) :
    isAbsolute (directory ++ rest) = isAbsolute directory := by
  unfold isAbsolute
  rw [String.toList_append, List.head?_append_of_ne_nil _ (toList_ne_nil named)]

theorem isAbsolute_of_parts (named : path.isEmpty = false) (nowhere : parts path = []) :
    isAbsolute path = true := by
  have nonempty := toList_ne_nil named
  unfold parts at nowhere
  rw [List.map_eq_nil_iff] at nowhere
  unfold isAbsolute
  cases letters : path.toList with
  | nil => exact absurd letters nonempty
  | cons c rest =>
    by_cases same : c = separator
    · simp [same]
    · rw [letters, List.splitOn_eq_splitOnP, List.splitOnP_cons_eq_if_modifyHead,
        if_neg (by simpa using same)] at nowhere
      cases pieces : rest.splitOnP (· == separator) with
      | nil => exact absurd pieces (List.splitOnP_ne_nil _ _)
      | cons first later => simp [pieces] at nowhere

theorem join_eq (named : directory.isEmpty = false) (whole : separator ∉ name.toList) :
    ∃ front, (join directory name).toList = front ++ separator :: name.toList ∧
      (directory.toList = front ∨ directory.toList = front ++ [separator]) ∧
      isAbsolute (join directory name) = isAbsolute directory := by
  unfold join
  rw [not_isAbsolute whole, named, Bool.false_or, if_neg (by simp)]
  split
  · rename_i closed
    obtain ⟨front, ended⟩ := List.getLast?_eq_some_iff.1 (eq_of_beq closed)
    refine ⟨front, ?_, .inr ended, isAbsolute_append named⟩
    rw [String.toList_append, ended, List.append_assoc, List.singleton_append]
  · refine ⟨directory.toList, ?_, .inl rfl, ?_⟩
    · simp
    · rw [String.append_assoc, isAbsolute_append named]

theorem join_named (directory : String) (named : name.isEmpty = false) :
    (join directory name).isEmpty = false := by
  have long (front : String) : (front ++ name).isEmpty = false := by
    simp [String.isEmpty_eq_false_iff.1 named]
  unfold join
  split
  · exact named
  · split <;> exact long _

theorem parts_join (named : directory.isEmpty = false) (nonempty : name.isEmpty = false)
    (whole : separator ∉ name.toList) :
    parts (join directory name) = parts directory ++ [name] := by
  have last : name.toList.splitOn separator = [name.toList] := by
    rw [List.splitOn_eq_splitOnP]
    exact List.splitOnP_eq_singleton fun c member => by
      simpa using fun same : c = separator => whole (same ▸ member)
  have cut (front back : List Char) : (front ++ separator :: back).splitOn separator =
      front.splitOn separator ++ back.splitOn separator := by
    simp only [List.splitOn_eq_splitOnP]
    exact List.splitOnP_append_cons _ _ (by simp)
  obtain ⟨front, joined, ended, -⟩ := join_eq named whole
  have same : (directory.toList.splitOn separator).filter (· ≠ []) =
      (front.splitOn separator).filter (· ≠ []) := by
    rcases ended with rfl | ended
    · rfl
    · rw [ended, cut, List.filter_append]
      simp
  unfold parts
  rw [joined, cut, last, same]
  simp [toList_ne_nil nonempty]

end WidgetOutline.FilePath
