import WidgetOutline.Archive.Name
import WidgetOutline.Files.Path
import Mathlib.Data.List.Perm.Subperm
import Mathlib.Data.List.Nodup

namespace WidgetOutline.Archive

variable {stamp : String} {taken : List String}

def mark : Nat → List Char
  | 0 => []
  | n => '-' :: Nat.toDigits 10 n

theorem name_toList (stamp : String) (n : Nat) : (name stamp n).toList =
    "archived_input-".toList ++ (stamp.toList ++ (mark n ++ ".txt".toList)) := by
  cases n with
  | zero =>
    have plain : name stamp 0 = "archived_input-" ++ stamp ++ ".txt" := rfl
    simp [plain, mark]
  | succ n =>
    have numbered : name stamp (n + 1) =
        "archived_input-" ++ stamp ++ "-" ++ Nat.repr (n + 1) ++ ".txt" := rfl
    simp [numbered, mark]

theorem mark_injective : Function.Injective mark := by
  intro n m same
  cases n with
  | zero =>
    cases m with
    | zero => rfl
    | succ m => cases same
  | succ n =>
    cases m with
    | zero => cases same
    | succ m =>
      have digits := congrArg (Nat.ofDigitChars 10 · 0) (List.cons.inj same).2
      simpa only [Nat.ofDigitChars_ten_toDigits] using digits

theorem name_injective (stamp : String) : Function.Injective (name stamp) := by
  intro n m same
  have ends := congrArg String.toList same
  rw [name_toList, name_toList] at ends
  exact mark_injective (List.append_cancel_right
    (List.append_cancel_left (List.append_cancel_left ends)))

theorem separator_notMem_name (whole : FilePath.separator ∉ stamp.toList) (n : Nat) :
    FilePath.separator ∉ (name stamp n).toList := by
  have digits : FilePath.separator ∉ mark n := by
    cases n with
    | zero => exact List.not_mem_nil
    | succ n =>
      refine List.not_mem_cons_of_ne_of_not_mem (by decide) fun member => ?_
      have digit := Nat.isDigit_of_mem_toDigits (by decide) (by decide) member
      cases digit
  simp only [name_toList, List.mem_append, not_or]
  exact ⟨by decide, whole, digits, by decide⟩

theorem name_plain (stamp : String) (n : Nat) :
    (name stamp n).isEmpty = false ∧ name stamp n ≠ "." ∧ name stamp n ≠ ".." := by
  have first : (name stamp n).toList.head? = some 'a' := by
    rw [name_toList]
    rfl
  refine ⟨String.isEmpty_eq_false_iff.2 ?_, ?_, ?_⟩
  all_goals
    intro same
    rw [same] at first
    cases first

theorem exists_free (stamp : String) (taken : List String) :
    ∃ n ≤ taken.length, name stamp n ∉ taken := by
  by_contra! all
  have distinct : ((List.range (taken.length + 1)).map (name stamp)).Nodup :=
    List.nodup_range.map (name_injective stamp)
  have within : (List.range (taken.length + 1)).map (name stamp) ⊆ taken := by
    intro candidate member
    obtain ⟨n, bound, rfl⟩ := List.mem_map.1 member
    exact all n (Nat.le_of_lt_succ (List.mem_range.1 bound))
  have bound := (distinct.subperm within).length_le
  rw [List.length_map, List.length_range] at bound
  omega

theorem freshName_eq (stamp : String) (taken : List String) : ∃ n ≤ taken.length,
    freshName stamp taken = name stamp n ∧ name stamp n ∉ taken ∧
      ∀ earlier < n, name stamp earlier ∈ taken := by
  have search : freshName stamp taken = (((List.range (taken.length + 1)).find? fun n =>
      ! taken.contains (name stamp n)).map (name stamp)).getD (name stamp (taken.length + 1)) := by
    rw [freshName, List.find?_map]
    rfl
  cases first : (List.range (taken.length + 1)).find? fun n => ! taken.contains (name stamp n) with
  | none =>
    obtain ⟨n, bound, free⟩ := exists_free stamp taken
    have none := List.find?_range_eq_none.1 first n (Nat.lt_succ_of_le bound)
    simp [free] at none
  | some n =>
    obtain ⟨free, bound, earlier⟩ := List.find?_range_eq_some.1 first
    rw [first] at search
    refine ⟨n, Nat.le_of_lt_succ (List.mem_range.1 bound), search, by simpa using free, ?_⟩
    simpa using earlier

end WidgetOutline.Archive
