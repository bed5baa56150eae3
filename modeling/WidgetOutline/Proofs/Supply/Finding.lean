import WidgetOutline.Supply.Basic
import WidgetOutline.Toolkit.Builtin
import WidgetOutline.Toolkit.Pool
import Mathlib.Data.Set.Card

namespace WidgetOutline

namespace Pool

def ofInserts (inserts : List (String × ObjectId)) : Pool :=
  inserts.foldl (fun pool insert => pool.insert insert.1 insert.2) empty

theorem filed_ofInserts (inserts : List (String × ObjectId)) :
    (ofInserts inserts).filed = inserts := by
  have onto (pool : Pool) : (inserts.foldl (fun pool insert => pool.insert insert.1 insert.2)
      pool).filed = pool.filed ++ inserts := by
    induction inserts generalizing pool with
    | nil => simp
    | cons insert inserts ih =>
      rw [List.foldl_cons, ih]
      simp [Pool.insert]
  exact onto empty

def Filed (inserts : List (String × ObjectId)) (heap : Heap) (className name : String)
    (id : ObjectId) : Prop :=
  (name, id) ∈ inserts ∧ heap.classOf id = className

variable {inserts : List (String × ObjectId)} {heap : Heap} {className name : String}
  {id : ObjectId}

theorem mem_find_ofInserts :
    id ∈ (ofInserts inserts).find heap className name ↔ Filed inserts heap className name id := by
  simp [find, filed_ofInserts, Filed, and_assoc]

theorem count_find_ofInserts (filed : Filed inserts heap className name id) :
    ((ofInserts inserts).find heap className name).count id = inserts.count (name, id) := by
  obtain ⟨-, rfl⟩ := filed
  rw [find, filed_ofInserts, List.count, List.countP_map, List.countP_filter, List.count]
  apply List.countP_congr
  rintro ⟨other, id'⟩ -
  simp only [Function.comp_apply, Bool.and_eq_true, beq_iff_eq, Prod.mk.injEq]
  constructor
  · rintro ⟨rfl, rfl, -⟩
    exact ⟨rfl, rfl⟩
  · rintro ⟨rfl, rfl⟩
    exact ⟨rfl, rfl, rfl⟩

def filings (inserts : List (String × ObjectId)) (heap : Heap) (className name : String) : Nat :=
  inserts.countP fun (reference, id) => reference == name && heap.classOf id == className

theorem length_find_ofInserts :
    ((ofInserts inserts).find heap className name).length =
      filings inserts heap className name := by
  simp [find, filed_ofInserts, filings, List.countP_eq_length_filter]

theorem find_ofInserts_eq_nil_iff :
    (ofInserts inserts).find heap className name = [] ↔
      ∀ id, ¬Filed inserts heap className name id := by
  simp only [List.eq_nil_iff_forall_not_mem, mem_find_ofInserts]

def FiledOnce (inserts : List (String × ObjectId)) (heap : Heap) (className name : String) :
    Prop :=
  ∀ id, Filed inserts heap className name id → inserts.count (name, id) = 1

theorem FiledOnce.nodup (once : FiledOnce inserts heap className name) :
    ((ofInserts inserts).find heap className name).Nodup := by
  rw [List.nodup_iff_count_eq_one]
  intro id found
  have filed := mem_find_ofInserts.1 found
  rw [count_find_ofInserts filed, once id filed]

theorem FiledOnce.find_eq_singleton_iff (once : FiledOnce inserts heap className name) :
    (ofInserts inserts).find heap className name = [id] ↔
      ∀ other, Filed inserts heap className name other ↔ other = id := by
  rw [← List.perm_singleton, List.perm_ext_iff_of_nodup once.nodup (List.nodup_singleton id)]
  simp only [mem_find_ofInserts, List.mem_singleton]

theorem FiledOnce.filings_eq_ncard (once : FiledOnce inserts heap className name) :
    filings inserts heap className name = {id | Filed inserts heap className name id}.ncard := by
  have same : {id | Filed inserts heap className name id} =
      ((ofInserts inserts).find heap className name).toFinset := by
    ext id
    simp [mem_find_ofInserts]
  rw [same, Set.ncard_coe_finset, List.toFinset_card_of_nodup once.nodup, length_find_ofInserts]

theorem two_le_filings (filed : Filed inserts heap className name id)
    (twice : 2 ≤ inserts.count (name, id)) : 2 ≤ filings inserts heap className name := by
  rw [← length_find_ofInserts]
  rw [← count_find_ofInserts filed] at twice
  exact twice.trans List.count_le_length

end Pool

theorem supply_findExisting (toolkit : Toolkit) (finder : Finder) (className name : String)
    (heap : Heap) :
    supply toolkit finder name (.findExisting className) none heap =
      (findExisting finder className name heap, heap) := by
  unfold supply objectFor
  dsimp only
  split
  · rename_i found
    exact found.symm
  · rename_i found _
    exact found.symm
  · rename_i given
    cases given

section

variable {find : Heap → (className reference : String) → List ObjectId} {className name : String}
  {heap : Heap}

theorem findExisting_ok_iff {id : ObjectId} :
    findExisting (.searching find) className name heap = .ok id ↔
      find heap className name = [id] := by
  unfold findExisting
  dsimp only
  rcases find heap className name with _ | ⟨first, _ | ⟨second, rest⟩⟩ <;> simp

theorem findExisting_notFound_iff :
    findExisting (.searching find) className name heap = .error (.notFound className name) ↔
      find heap className name = [] := by
  unfold findExisting
  dsimp only
  rcases find heap className name with _ | ⟨first, _ | ⟨second, rest⟩⟩ <;> simp

theorem findExisting_ambiguous_iff {count : Nat} :
    findExisting (.searching find) className name heap =
        .error (.ambiguous className name count) ↔
      2 ≤ count ∧ count = (find heap className name).length := by
  unfold findExisting
  dsimp only
  rcases find heap className name with _ | ⟨first, _ | ⟨second, rest⟩⟩
  · simp
    omega
  · simp
    omega
  · simp
    omega

end

open Pool in
theorem found_of_supply (toolkit : Toolkit) (heap : Heap) (className name : String)
    (inserts : List (String × ObjectId)) :
    let outcome := (supply toolkit (Pool.ofInserts inserts).finder name (.findExisting className)
      none heap).1
    (outcome = .error (.notFound className name) ↔
        ∀ id, ¬Filed inserts heap className name id) ∧
      (FiledOnce inserts heap className name →
        (∀ id, outcome = .ok id ↔
            ∀ other, Filed inserts heap className name other ↔ other = id) ∧
          ∀ count, outcome = .error (.ambiguous className name count) ↔
            2 ≤ count ∧ count = {id | Filed inserts heap className name id}.ncard) ∧
      ∀ id, Filed inserts heap className name id → 2 ≤ inserts.count (name, id) →
        outcome =
          .error (.ambiguous className name (filings inserts heap className name)) := by
  rw [supply_findExisting, Pool.finder]
  refine ⟨?none, fun once => ⟨fun id => ?only, fun count => ?several⟩, fun id filed twice => ?again⟩
  case none => rw [findExisting_notFound_iff, find_ofInserts_eq_nil_iff]
  case only => rw [findExisting_ok_iff, once.find_eq_singleton_iff]
  case several =>
    rw [findExisting_ambiguous_iff, length_find_ofInserts, once.filings_eq_ncard]
  case again =>
    rw [findExisting_ambiguous_iff, length_find_ofInserts]
    exact ⟨two_le_filings filed twice, rfl⟩

def oneLabel : Heap := ⟨#[freshWidget (.caption "QLabel" none)]⟩

theorem filed_oneLabel_iff {inserts : List (String × ObjectId)} {name : String} {id : ObjectId}
    (filed : (name, ⟨0⟩) ∈ inserts) :
    Pool.Filed inserts oneLabel "QLabel" name id ↔ id = ⟨0⟩ := by
  constructor
  · rintro ⟨-, label⟩
    obtain ⟨_ | index⟩ := id
    · rfl
    · exact absurd label (by simp [oneLabel, Heap.classOf, Heap.get?])
  · rintro rfl
    exact ⟨filed, by decide⟩

theorem found_of_supply_label :
    (supply .builtin (Pool.ofInserts [("status", ⟨0⟩), ("title", ⟨0⟩)]).finder "status"
        (.findExisting "QLabel") none oneLabel).1 = .ok ⟨0⟩ ∧
      (supply .builtin (Pool.ofInserts [("status", ⟨0⟩), ("status", ⟨0⟩)]).finder "status"
        (.findExisting "QLabel") none oneLabel).1 = .error (.ambiguous "QLabel" "status" 2) := by
  constructor
  · have only {id : ObjectId} := @filed_oneLabel_iff [("status", ⟨0⟩), ("title", ⟨0⟩)] "status" id
      (by simp)
    obtain ⟨-, once, -⟩ := found_of_supply .builtin oneLabel "QLabel" "status"
      [("status", ⟨0⟩), ("title", ⟨0⟩)]
    obtain ⟨found, -⟩ := once fun id filed => by rw [only.1 filed]; decide
    exact (found ⟨0⟩).2 fun other => only
  · obtain ⟨-, -, twice⟩ := found_of_supply .builtin oneLabel "QLabel" "status"
      [("status", ⟨0⟩), ("status", ⟨0⟩)]
    exact twice ⟨0⟩ ((filed_oneLabel_iff (by simp)).2 rfl) (by decide)

theorem not_found_of_filed_twice :
    ¬∀ (toolkit : Toolkit) (heap : Heap) (className name : String)
      (inserts : List (String × ObjectId)) (id : ObjectId),
      (supply toolkit (Pool.ofInserts inserts).finder name (.findExisting className) none heap).1 =
          .ok id ↔
        ∀ other, Pool.Filed inserts heap className name other ↔ other = id := by
  intro found
  have ok := (found .builtin oneLabel "QLabel" "status" [("status", ⟨0⟩), ("status", ⟨0⟩)] ⟨0⟩).2
    fun other => filed_oneLabel_iff (by simp)
  rw [supply_findExisting, Pool.finder, findExisting_ok_iff] at ok
  exact absurd ok (by decide)

end WidgetOutline
