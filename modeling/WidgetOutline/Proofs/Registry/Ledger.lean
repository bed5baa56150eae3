import WidgetOutline.Registry.Basic
import Mathlib.Data.List.Nodup

/-!
# The ledger of a registry

A registry does what the plain list of the registrations that it accepted says: `Holds` ties its
entries and its index to that list, and `Answers` says how it answers a request.  Both hold after
any requests to an empty registry (`holds_answers_after`).
-/

namespace WidgetOutline

structure Registration where
  name : String
  path : String
  object : ObjectId
  provenance : Provenance

def Registration.entry (registration : Registration) : Entry where
  path := registration.path
  object := registration.object
  provenance := registration.provenance

namespace Registry

inductive Request where
  | topLevel (object : ObjectId) (name : String) (provenance : Provenance)
  | child (object : ObjectId) (parentPath name : String) (provenance : Provenance)
  | check (object : ObjectId) (name path : String) (provenance : Provenance)

def Request.wanted : Request → Registration
  | topLevel object name provenance => { name, path := name, object, provenance }
  | child object parentPath name provenance =>
    { name, path := Path.child parentPath name, object, provenance }
  | check object name path provenance => { name, path, object, provenance }

def Request.registers : Request → Bool
  | check _ _ _ _ => false
  | _ => true

def settle (registry : Registry) :
    Except RegistryError Registry → Except RegistryError Unit × Registry
  | .ok after => (.ok (), after)
  | .error error => (.error error, registry)

def serve (registry : Registry) : Request → Except RegistryError Unit × Registry
  | .topLevel object name provenance =>
    registry.settle (registry.registerTopLevel object name provenance)
  | .child object parentPath name provenance =>
    registry.settle (registry.registerChild object parentPath name provenance)
  | .check object name path provenance =>
    (registry.checkAvailable object name path provenance, registry)

def after (registry : Registry) : List Request → Registry
  | [] => registry
  | request :: later => (registry.serve request).2.after later

def accepted (registry : Registry) : List Request → List Registration
  | [] => []
  | request :: later =>
    (if request.registers = true ∧ (registry.serve request).1 = .ok () then [request.wanted]
      else []) ++ (registry.serve request).2.accepted later

/-- The registry holds these registrations, each name and each object once; the index gives every
name the place of the registration that used it. -/
structure Holds (registry : Registry) (ledger : List Registration) : Prop where
  entries : registry.entries = ledger.map Registration.entry
  index : ∀ name place, registry.index.lookup name = some place ↔
    ∃ registration, ledger[place]? = some registration ∧ registration.name = name
  names : (ledger.map Registration.name).Nodup
  objects : (ledger.map Registration.object).Nodup

structure Answers (registry : Registry) (ledger : List Registration) (request : Request) :
    Prop where
  accepts : (registry.serve request).1 = .ok () ↔ ∀ earlier ∈ ledger,
    earlier.name ≠ request.wanted.name ∧ earlier.object ≠ request.wanted.object
  /-- A taken name is reported even if the object is registered as well. -/
  duplicate : ∀ first ∈ ledger, first.name = request.wanted.name →
    (registry.serve request).1 = .error (.duplicate request.wanted.name request.wanted.path
      first.provenance request.wanted.provenance)
  alreadyRegistered : (∀ earlier ∈ ledger, earlier.name ≠ request.wanted.name) →
    ∀ holder ∈ ledger, holder.object = request.wanted.object →
      (registry.serve request).1 = .error (.alreadyRegistered holder.path)
  check : registry.serve (.check request.wanted.object request.wanted.name request.wanted.path
    request.wanted.provenance) = ((registry.serve request).1, registry)
  appends : request.registers = true → (registry.serve request).1 = .ok () →
    (registry.serve request).2.entries = registry.entries ++ [request.wanted.entry]
  keeps : ∀ error, (registry.serve request).1 = .error error →
    (registry.serve request).2 = registry

variable {registry : Registry} {ledger : List Registration}

theorem nodup_map_concat {α : Type} {view : Registration → α} {new : Registration}
    (nodup : (ledger.map view).Nodup) (free : ∀ earlier ∈ ledger, view earlier ≠ view new) :
    ((ledger ++ [new]).map view).Nodup := by
  rw [List.map_append, List.map_singleton, ← List.concat_eq_append]
  refine nodup.concat fun member => ?_
  obtain ⟨earlier, inLedger, same⟩ := List.mem_map.1 member
  exact free earlier inLedger same

namespace Holds

theorem empty : Registry.empty.Holds [] where
  entries := rfl
  index := by simp [Registry.empty]
  names := List.nodup_nil
  objects := List.nodup_nil

theorem find?_eq_none (holds : registry.Holds ledger) {name : String}
    (free : ∀ earlier ∈ ledger, earlier.name ≠ name) : registry.find? name = none := by
  have untaken : registry.index.lookup name = none := by
    cases taken : registry.index.lookup name with
    | none => rfl
    | some place =>
      obtain ⟨earlier, located, same⟩ := (holds.index name place).1 taken
      exact absurd same (free earlier (List.mem_of_getElem? located))
  rw [find?_eq, untaken, Option.bind_none]

theorem find?_of_mem (holds : registry.Holds ledger) {first : Registration}
    (member : first ∈ ledger) : registry.find? first.name = some first.entry := by
  obtain ⟨place, located⟩ := List.mem_iff_getElem?.1 member
  have taken := (holds.index first.name place).2 ⟨first, located, rfl⟩
  have entry : registry.entries[place]? = some first.entry := by
    rw [holds.entries, List.getElem?_map, located, Option.map_some]
  rw [find?_eq, taken, Option.bind_some, entry]

theorem pathOf?_eq (holds : registry.Holds ledger) (object : ObjectId) :
    registry.pathOf? object = (ledger.find? (·.object == object)).map Registration.path := by
  rw [pathOf?, holds.entries, List.find?_map, Option.map_map]
  rfl

theorem pathOf?_eq_none (holds : registry.Holds ledger) {object : ObjectId}
    (free : ∀ earlier ∈ ledger, earlier.object ≠ object) : registry.pathOf? object = none := by
  rw [holds.pathOf?_eq, List.find?_eq_none.2 (by simpa using free), Option.map_none]

theorem pathOf?_of_mem (holds : registry.Holds ledger) {holder : Registration}
    (member : holder ∈ ledger) : registry.pathOf? holder.object = some holder.path := by
  rw [holds.pathOf?_eq]
  cases found : ledger.find? (·.object == holder.object) with
  | none => exact absurd (List.find?_eq_none.1 found holder member) (by simp)
  | some other =>
    have same : other.object = holder.object := by simpa using List.find?_some found
    have inLedger := List.mem_of_find?_eq_some found
    rw [Option.map_some, List.inj_on_of_nodup_map holds.objects inLedger member same]

theorem length_entries (holds : registry.Holds ledger) :
    registry.entries.length = ledger.length := by
  rw [holds.entries, List.length_map]

theorem push (holds : registry.Holds ledger) {new : Registration}
    (free : ∀ earlier ∈ ledger, earlier.name ≠ new.name ∧ earlier.object ≠ new.object) :
    (registry.push new.name new.entry).Holds (ledger ++ [new]) where
  entries := by rw [entries_push, holds.entries, List.map_append, List.map_singleton]
  index := by
    intro name place
    rw [lookup_push, holds.length_entries]
    by_cases same : name = new.name
    · -- No earlier registration used the name, so its place is the last one.
      subst same
      rw [if_pos rfl, Option.some.injEq]
      constructor
      · rintro rfl
        exact ⟨new, List.getElem?_concat_length, rfl⟩
      · rintro ⟨registration, located, named⟩
        by_contra other
        have bound := (List.getElem?_eq_some_iff.1 located).1
        rw [List.length_append, List.length_singleton] at bound
        rw [List.getElem?_append_left (by omega)] at located
        exact (free registration (List.mem_of_getElem? located)).1 named
    · rw [if_neg same, holds.index]
      constructor
      · rintro ⟨registration, located, named⟩
        have bound := (List.getElem?_eq_some_iff.1 located).1
        exact ⟨registration, by rwa [List.getElem?_append_left bound], named⟩
      · rintro ⟨registration, located, rfl⟩
        by_cases bound : place < ledger.length
        · exact ⟨registration, by rwa [List.getElem?_append_left bound] at located, rfl⟩
        · rw [List.getElem?_append_right (Nat.le_of_not_lt bound)] at located
          have last := List.mem_singleton.1 (List.mem_of_getElem? located)
          exact absurd (congrArg Registration.name last) same
  names := nodup_map_concat holds.names fun earlier member => (free earlier member).1
  objects := nodup_map_concat holds.objects fun earlier member => (free earlier member).2

end Holds

theorem serve_of_check_ok {request : Request}
    (ok : registry.checkAvailable request.wanted.object request.wanted.name request.wanted.path
      request.wanted.provenance = .ok ()) :
    registry.serve request = (.ok (),
      if request.registers = true then registry.push request.wanted.name request.wanted.entry
      else registry) := by
  cases request <;> simp only [Request.wanted] at ok <;>
    simp [serve, registerTopLevel, registerChild, insert, ok, settle, Request.registers,
      Request.wanted, Registration.entry]

theorem serve_of_check_error {request : Request} {error : RegistryError}
    (refused : registry.checkAvailable request.wanted.object request.wanted.name
      request.wanted.path request.wanted.provenance = .error error) :
    registry.serve request = (.error error, registry) := by
  cases request <;> simp only [Request.wanted] at refused <;>
    simp [serve, registerTopLevel, registerChild, insert, refused, settle]

theorem serve_fst (registry : Registry) (request : Request) :
    (registry.serve request).1 = registry.checkAvailable request.wanted.object
      request.wanted.name request.wanted.path request.wanted.provenance := by
  cases check : registry.checkAvailable request.wanted.object request.wanted.name
      request.wanted.path request.wanted.provenance with
  | ok _ => rw [serve_of_check_ok check]
  | error error => rw [serve_of_check_error check]

namespace Holds

theorem check_of_taken (holds : registry.Holds ledger) {first wanted : Registration}
    (member : first ∈ ledger) (same : first.name = wanted.name) :
    registry.checkAvailable wanted.object wanted.name wanted.path wanted.provenance =
      .error (.duplicate wanted.name wanted.path first.provenance wanted.provenance) := by
  rw [checkAvailable, ← same, holds.find?_of_mem member]
  rfl

theorem check_of_registered (holds : registry.Holds ledger) {holder wanted : Registration}
    (free : ∀ earlier ∈ ledger, earlier.name ≠ wanted.name) (member : holder ∈ ledger)
    (same : holder.object = wanted.object) :
    registry.checkAvailable wanted.object wanted.name wanted.path wanted.provenance =
      .error (.alreadyRegistered holder.path) := by
  rw [checkAvailable, holds.find?_eq_none free, ← same, holds.pathOf?_of_mem member]

theorem check_of_free (holds : registry.Holds ledger) {wanted : Registration}
    (free : ∀ earlier ∈ ledger, earlier.name ≠ wanted.name ∧ earlier.object ≠ wanted.object) :
    registry.checkAvailable wanted.object wanted.name wanted.path wanted.provenance = .ok () := by
  rw [checkAvailable, holds.find?_eq_none fun earlier member => (free earlier member).1,
    holds.pathOf?_eq_none fun earlier member => (free earlier member).2]

theorem check_ok_iff (holds : registry.Holds ledger) (wanted : Registration) :
    registry.checkAvailable wanted.object wanted.name wanted.path wanted.provenance = .ok () ↔
      ∀ earlier ∈ ledger, earlier.name ≠ wanted.name ∧ earlier.object ≠ wanted.object := by
  constructor
  · intro ok earlier member
    have free : ∀ other ∈ ledger, other.name ≠ wanted.name := by
      intro other inLedger same
      rw [holds.check_of_taken inLedger same] at ok
      cases ok
    refine ⟨free earlier member, fun same => ?_⟩
    rw [holds.check_of_registered free member same] at ok
    cases ok
  · exact holds.check_of_free

theorem answers (holds : registry.Holds ledger) (request : Request) :
    registry.Answers ledger request := by
  have answer := serve_fst registry request
  refine ⟨?_, ?_, ?_, ?_, ?_, ?_⟩
  · rw [answer, holds.check_ok_iff]
  · intro first member same
    rw [answer, holds.check_of_taken member same]
  · intro free holder member same
    rw [answer, holds.check_of_registered free member same]
  · rw [answer, serve]
  · intro registers ok
    rw [serve_of_check_ok (answer ▸ ok), if_pos registers, entries_push]
  · intro error refused
    rw [serve_of_check_error (answer ▸ refused)]

theorem serve (holds : registry.Holds ledger) (request : Request) :
    (registry.serve request).2.Holds (ledger ++
      if request.registers = true ∧ (registry.serve request).1 = .ok () then [request.wanted]
      else []) := by
  have answer := serve_fst registry request
  cases outcome : (registry.serve request).1 with
  | error error =>
    rw [(holds.answers request).keeps error outcome]
    simpa using holds
  | ok _ =>
    have ok := answer ▸ outcome
    rw [serve_of_check_ok ok]
    by_cases registers : request.registers = true
    · simpa [registers] using holds.push ((holds.check_ok_iff _).1 ok)
    · simpa [registers] using holds

theorem after (holds : registry.Holds ledger) (requests : List Request) :
    (registry.after requests).Holds (ledger ++ registry.accepted requests) := by
  induction requests generalizing registry ledger with
  | nil => simpa [Registry.after, accepted] using holds
  | cons request later ih =>
    have rest := ih (holds.serve request)
    rwa [List.append_assoc] at rest

end Holds

theorem holds_answers_after (requests : List Request) (request : Request) :
    (empty.after requests).Holds (empty.accepted requests) ∧
      (empty.after requests).Answers (empty.accepted requests) request :=
  have holds := Holds.empty.after requests
  ⟨holds, holds.answers request⟩

end Registry

end WidgetOutline
