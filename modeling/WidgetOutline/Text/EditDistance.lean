namespace WidgetOutline.Text

variable {α : Type} [DecidableEq α]

def editDistance : List α → List α → Nat
  | [], target => target.length
  | source, [] => source.length
  | x :: source, y :: target =>
    min (min (editDistance source (y :: target)) (editDistance (x :: source) target) + 1)
      (editDistance source target + if x = y then 0 else 1)
termination_by source target => source.length + target.length

def tailLengths : List α → List Nat
  | [] => [0]
  | y :: target => (y :: target).length :: tailLengths target

/-- The distances from `x :: source` to the tails of a list, longest first, out of those from
`source`. -/
def nextRow (x : α) : List α → List Nat → List Nat
  | y :: target, d :: row =>
    let later := nextRow x target row
    min (min d (later.headD 0) + 1) (row.headD 0 + if x = y then 0 else 1) :: later
  | _, row => row.map (· + 1)

def distanceRow (source target : List α) : List Nat :=
  source.foldr (nextRow · target) (tailLengths target)

def tailDistances (source : List α) : List α → List Nat
  | [] => [editDistance source []]
  | y :: target => editDistance source (y :: target) :: tailDistances source target

theorem head_tailDistances (source target : List α) :
    (tailDistances source target).headD 0 = editDistance source target := by
  cases target <;> rfl

theorem editDistance_nil (source : List α) : editDistance source [] = source.length := by
  cases source <;> simp [editDistance]

theorem tailLengths_eq (target : List α) : tailLengths target = tailDistances [] target := by
  induction target with
  | nil => simp [tailLengths, tailDistances, editDistance]
  | cons y target ih => simp [tailLengths, tailDistances, editDistance, ih]

theorem nextRow_tailDistances (x : α) (source target : List α) :
    nextRow x target (tailDistances source target) = tailDistances (x :: source) target := by
  induction target with
  | nil => simp [tailDistances, nextRow, editDistance_nil]
  | cons y target ih =>
    simp only [tailDistances, nextRow, ih, head_tailDistances]
    rw [editDistance]

theorem distanceRow_eq (source target : List α) :
    distanceRow source target = tailDistances source target := by
  induction source with
  | nil => exact tailLengths_eq target
  | cons x source ih =>
    rw [← nextRow_tailDistances, ← ih]
    rfl

theorem head_distanceRow (source target : List α) :
    (distanceRow source target).headD 0 = editDistance source target := by
  rw [distanceRow_eq, head_tailDistances]

end WidgetOutline.Text
