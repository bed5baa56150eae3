import WidgetOutline.Text.EditDistance
import Mathlib.Order.Bounds.Defs
import Mathlib.Order.MinMax

namespace WidgetOutline.Text

inductive Edit {α : Type} : List α → List α → Prop
  | insert (front back : List α) (x : α) : Edit (front ++ back) (front ++ x :: back)
  | delete (front back : List α) (x : α) : Edit (front ++ x :: back) (front ++ back)
  | replace (front back : List α) (x y : α) : Edit (front ++ x :: back) (front ++ y :: back)

inductive Edits {α : Type} : Nat → List α → List α → Prop
  | refl (list : List α) : Edits 0 list list
  | step {count : Nat} {source middle target : List α} (edits : Edits count source middle)
      (edit : Edit middle target) : Edits (count + 1) source target

variable {α : Type} {count : Nat} {source target : List α}

theorem Edit.cons (edit : Edit source target) (x : α) : Edit (x :: source) (x :: target) := by
  cases edit with
  | insert front back y => exact .insert (x :: front) back y
  | delete front back y => exact .delete (x :: front) back y
  | replace front back y z => exact .replace (x :: front) back y z

namespace Edits

theorem cons (edits : Edits count source target) (x : α) :
    Edits count (x :: source) (x :: target) := by
  induction edits with
  | refl list => exact .refl (x :: list)
  | step _ edit ih => exact ih.step (edit.cons x)

theorem insert (edits : Edits count source target) (y : α) :
    Edits (count + 1) source (y :: target) :=
  edits.step (.insert [] target y)

theorem delete (edits : Edits count source target) (x : α) :
    Edits (count + 1) (x :: source) target :=
  (edits.cons x).step (.delete [] target x)

theorem replace (edits : Edits count source target) (x y : α) :
    Edits (count + 1) (x :: source) (y :: target) :=
  (edits.cons x).step (.replace [] target x y)

end Edits

variable [DecidableEq α]

theorem editDistance_cons_cons (x : α) (source : List α) (y : α) (target : List α) :
    editDistance (x :: source) (y :: target) =
      min (min (editDistance source (y :: target)) (editDistance (x :: source) target) + 1)
        (editDistance source target + if x = y then 0 else 1) := by
  rw [editDistance]

theorem edits_editDistance (source target : List α) :
    Edits (editDistance source target) source target := by
  fun_induction editDistance source target with
  | case1 target =>
    induction target with
    | nil => exact .refl []
    | cons y target ih => exact ih.insert y
  | case2 source nonempty =>
    clear nonempty
    induction source with
    | nil => exact .refl []
    | cons x source ih => exact ih.delete x
  | case3 x source y target deleted inserted kept =>
    rcases min_choice (min (editDistance source (y :: target)) (editDistance (x :: source) target)
      + 1) (editDistance source target + if x = y then 0 else 1) with outer | inner
    · rw [outer]
      rcases min_choice (editDistance source (y :: target)) (editDistance (x :: source) target)
        with first | second
      · rw [first]
        exact deleted.delete x
      · rw [second]
        exact inserted.insert y
    · rw [inner]
      split
      · rename_i same
        exact same ▸ kept.cons x
      · exact kept.replace x y

theorem editDistance_cons_left (source : List α) (x : α) (target : List α) :
    editDistance (x :: source) target ≤ editDistance source target + 1 := by
  cases target with
  | nil => simp [editDistance_nil]
  | cons y target =>
    rw [editDistance_cons_cons]
    omega

theorem editDistance_insert (source : List α) (y : α) (target : List α) :
    editDistance source (y :: target) ≤ editDistance source target + 1 := by
  cases source with
  | nil => simp [editDistance]
  | cons x source =>
    rw [editDistance_cons_cons]
    omega

theorem editDistance_delete (source : List α) (y : α) (target : List α) :
    editDistance source target ≤ editDistance source (y :: target) + 1 := by
  induction source with
  | nil =>
    simp only [editDistance, List.length_cons]
    omega
  | cons x source ih =>
    have left := editDistance_cons_left source x target
    rw [editDistance_cons_cons]
    omega

theorem editDistance_replace (source : List α) (y z : α) (target : List α) :
    editDistance source (z :: target) ≤ editDistance source (y :: target) + 1 := by
  induction source with
  | nil => simp [editDistance]
  | cons x source ih =>
    rw [editDistance_cons_cons, editDistance_cons_cons]
    split <;> split <;> omega

/-- What holds of the ends of two lists holds of the lists with the same element before them. -/
theorem editDistance_cons_right {middle : List α}
    (near : ∀ source, editDistance source target ≤ editDistance source middle + 1) (y : α)
    (source : List α) :
    editDistance source (y :: target) ≤ editDistance source (y :: middle) + 1 := by
  induction source with
  | nil =>
    have lengths := near []
    simp only [editDistance, List.length_cons] at lengths ⊢
    omega
  | cons x source ih =>
    have inserted := near (x :: source)
    have kept := near source
    rw [editDistance_cons_cons, editDistance_cons_cons]
    omega

theorem editDistance_append {middle : List α}
    (near : ∀ source, editDistance source target ≤ editDistance source middle + 1)
    (front source : List α) :
    editDistance source (front ++ target) ≤ editDistance source (front ++ middle) + 1 := by
  induction front generalizing source with
  | nil => exact near source
  | cons y front ih => exact editDistance_cons_right ih y source

theorem editDistance_le_of_edit {middle : List α} (edit : Edit middle target) (source : List α) :
    editDistance source target ≤ editDistance source middle + 1 := by
  cases edit with
  | insert front back y =>
    exact editDistance_append (fun source => editDistance_insert source y back) front source
  | delete front back y =>
    exact editDistance_append (fun source => editDistance_delete source y back) front source
  | replace front back y z =>
    exact editDistance_append (fun source => editDistance_replace source y z back) front source

theorem editDistance_self (list : List α) : editDistance list list = 0 := by
  induction list with
  | nil => simp [editDistance]
  | cons x list ih => simp [editDistance_cons_cons, ih]

theorem editDistance_le_of_edits (edits : Edits count source target) :
    editDistance source target ≤ count := by
  induction edits with
  | refl list => rw [editDistance_self]
  | step _ edit ih => exact (editDistance_le_of_edit edit _).trans (Nat.add_le_add_right ih 1)

theorem isLeast_editDistance (source target : List α) :
    IsLeast {count | Edits count source target} (editDistance source target) :=
  ⟨edits_editDistance source target, fun _ => editDistance_le_of_edits⟩

theorem editDistance_eq_zero_iff : editDistance source target = 0 ↔ source = target := by
  constructor
  · intro zero
    have edits := (isLeast_editDistance source target).1
    rw [zero] at edits
    cases edits
    rfl
  · rintro rfl
    exact editDistance_self source

end WidgetOutline.Text
