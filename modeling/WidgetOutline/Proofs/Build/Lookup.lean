import WidgetOutline.Proofs.Build.Run
import WidgetOutline.Proofs.Registry.Ledger
import WidgetOutline.Proofs.Registry.Path

namespace WidgetOutline

structure Registry.Distinct (registry : Registry) : Prop where
  names : (registry.entries.map Entry.name).Nodup
  objects : (registry.entries.map Entry.object).Nodup

namespace Registry.Distinct

variable {registry : Registry} {entry other : Entry} {suffix : String}

theorem eq_of_name (distinct : registry.Distinct) (member : entry ∈ registry.entries)
    (member' : other ∈ registry.entries) (same : entry.name = other.name) : entry = other :=
  List.inj_on_of_nodup_map distinct.names member member' same

theorem eq_of_object (distinct : registry.Distinct) (member : entry ∈ registry.entries)
    (member' : other ∈ registry.entries) (same : entry.object = other.object) : entry = other :=
  List.inj_on_of_nodup_map distinct.objects member member' same

theorem paths (distinct : registry.Distinct) : (registry.entries.map Entry.path).Nodup := by
  have names := distinct.names
  rw [show Entry.name = Path.lastSegment ∘ Entry.path from rfl, ← List.map_map] at names
  exact names.of_map

end Registry.Distinct

theorem Path.segments_ne_nil (path : String) : Path.segments path ≠ [] := by
  simp [segments]

theorem Path.lastSegment_of_suffix {path suffix : String}
    (ends : Path.segments suffix <:+ Path.segments path) :
    Path.lastSegment path = Path.lastSegment suffix := by
  obtain ⟨front, split⟩ := ends
  have last := List.getLast?_append_of_ne_nil front (segments_ne_nil suffix)
  rw [split] at last
  have nonempty := List.getLast?_eq_some_getLast (segments_ne_nil suffix)
  simp [lastSegment, List.getLastD_eq_getLast?, last, nonempty]

namespace Registry

variable {registry : Registry} {entry : Entry} {suffix : String}

theorem filter_matching (distinct : registry.Distinct) (member : entry ∈ registry.entries)
    (ends : Path.segments suffix <:+ Path.segments entry.path) :
    registry.entries.filter (Path.matchesSuffix ·.path suffix) = [entry] := by
  have only : ∀ other ∈ registry.entries.filter (Path.matchesSuffix ·.path suffix),
      other = entry := by
    intro other inFilter
    obtain ⟨member', ends'⟩ := List.mem_filter.1 inFilter
    apply distinct.eq_of_name member' member
    rw [Entry.name, Entry.name, Path.lastSegment_of_suffix (Path.matchesSuffix_iff.1 ends'),
      Path.lastSegment_of_suffix ends]
  have found : entry ∈ registry.entries.filter (Path.matchesSuffix ·.path suffix) :=
    List.mem_filter.2 ⟨member, Path.matchesSuffix_iff.2 ends⟩
  have once := distinct.names.of_map.filter (Path.matchesSuffix ·.path suffix)
  generalize registry.entries.filter (Path.matchesSuffix ·.path suffix) = matching at *
  match matching with
  | [] => cases found
  | [first] => rw [only first List.mem_cons_self]
  | first :: second :: _ =>
    have same : first = second := (only first (by simp)).trans (only second (by simp)).symm
    simp [same] at once

theorem lookup_of_suffix (distinct : registry.Distinct) (member : entry ∈ registry.entries)
    (ends : Path.segments suffix <:+ Path.segments entry.path) :
    registry.lookup suffix = .ok entry.object := by
  rw [lookup, filter_matching distinct member ends]

theorem lookup_of_none
    (none : ∀ entry ∈ registry.entries, ¬Path.segments suffix <:+ Path.segments entry.path) :
    registry.lookup suffix = .error (.notFound suffix) := by
  have empty : registry.entries.filter (Path.matchesSuffix ·.path suffix) = [] := by
    rw [List.filter_eq_nil_iff]
    exact fun entry member ends => none entry member (Path.matchesSuffix_iff.1 ends)
  rw [lookup, empty]

theorem lookup_cases (distinct : registry.Distinct) (suffix : String) :
    (∃ entry ∈ registry.entries, Path.segments suffix <:+ Path.segments entry.path ∧
      registry.lookup suffix = .ok entry.object) ∨
    ((∀ entry ∈ registry.entries, ¬Path.segments suffix <:+ Path.segments entry.path) ∧
      registry.lookup suffix = .error (.notFound suffix)) := by
  by_cases found : ∃ entry ∈ registry.entries, Path.segments suffix <:+ Path.segments entry.path
  · obtain ⟨entry, member, ends⟩ := found
    exact .inl ⟨entry, member, ends, lookup_of_suffix distinct member ends⟩
  · have none : ∀ entry ∈ registry.entries,
        ¬Path.segments suffix <:+ Path.segments entry.path :=
      fun entry member ends => found ⟨entry, member, ends⟩
    exact .inr ⟨none, lookup_of_none none⟩

theorem lookup_ok_iff (distinct : registry.Distinct) (member : entry ∈ registry.entries) :
    registry.lookup suffix = .ok entry.object ↔
      Path.segments suffix <:+ Path.segments entry.path := by
  refine ⟨fun ok => ?_, lookup_of_suffix distinct member⟩
  rcases lookup_cases distinct suffix with ⟨other, member', ends, found⟩ | ⟨-, missing⟩
  · rw [found] at ok
    rwa [distinct.eq_of_object member member' (Except.ok.inj ok).symm]
  · rw [missing] at ok
    cases ok

theorem provenanceOf?_of_mem (distinct : registry.Distinct) (member : entry ∈ registry.entries) :
    registry.provenanceOf? entry.path = some entry.provenance := by
  unfold provenanceOf?
  cases found : registry.entries.find? (·.path == entry.path) with
  | none => exact absurd (List.find?_eq_none.1 found entry member) (by simp)
  | some other =>
    have same : other.path = entry.path := by simpa using List.find?_some found
    have inEntries := List.mem_of_find?_eq_some found
    rw [Option.map_some, List.inj_on_of_nodup_map distinct.paths inEntries member same]

end Registry

theorem Pass.Reached.holds {builder : Builder} {origin : String} {heap : Heap} {done : List Line}
    {pass : Pass} (reached : Reached builder origin heap done pass) :
    ∃ ledger, pass.registry.Holds ledger ∧
      ∀ registration ∈ ledger, Path.lastSegment registration.path = registration.name := by
  induction reached with
  | start => exact ⟨[], .empty, by simp⟩
  | @line done pass after text line earlier read built ih =>
    obtain ⟨ledger, holds, named⟩ := ih
    rcases (built_of_line read built).registry with same |
      ⟨declared, entry, rfl, path, available, pushed⟩
    · exact ⟨ledger, same ▸ holds, named⟩
    · obtain ⟨-, undotted, -⟩ := name_of_readLine read
      let new : Registration :=
        { name := declared.name, path := entry.path, object := entry.object,
          provenance := entry.provenance }
      have free := (holds.check_ok_iff new).1 available
      refine ⟨ledger ++ [new], pushed ▸ holds.push free, fun registration member => ?_⟩
      rcases List.mem_append.1 member with before | last
      · exact named registration before
      · rw [List.mem_singleton.1 last]
        rcases path with top | ⟨above, below⟩
        · exact (congrArg Path.lastSegment top).trans (Path.lastSegment_name undotted)
        · exact (congrArg Path.lastSegment below).trans (Path.lastSegment_child above undotted)

theorem Pass.Reached.distinct {builder : Builder} {origin : String} {heap : Heap}
    {done : List Line} {pass : Pass} (reached : Reached builder origin heap done pass) :
    pass.registry.Distinct := by
  obtain ⟨ledger, holds, named⟩ := reached.holds
  constructor
  · have names : pass.registry.entries.map Entry.name = ledger.map Registration.name := by
      rw [holds.entries, List.map_map]
      exact List.map_congr_left named
    rw [names]
    exact holds.names
  · rw [holds.entries, List.map_map]
    exact holds.objects

/-- Paths and names are distinct, and a lookup finds the entry whose path has these segments at its
end. -/
structure Hierarchy.LooksUp (hierarchy : Hierarchy) : Prop where
  paths : hierarchy.paths.Nodup
  names : (hierarchy.entries.map Entry.name).Nodup
  found : ∀ suffix, ∀ entry ∈ hierarchy.entries, hierarchy.at? suffix = .ok entry.object ↔
    Path.segments suffix <:+ Path.segments entry.path
  unique : ∀ suffix, ∀ entry ∈ hierarchy.entries, ∀ other ∈ hierarchy.entries,
    Path.segments suffix <:+ Path.segments entry.path →
      Path.segments suffix <:+ Path.segments other.path → entry = other
  unambiguous : ∀ suffix asked several,
    hierarchy.at? suffix ≠ .error (.ambiguous asked several)
  notFound : ∀ suffix, hierarchy.at? suffix = .error (.notFound suffix) ↔
    ∀ entry ∈ hierarchy.entries, ¬Path.segments suffix <:+ Path.segments entry.path
  listed : ∀ path ∈ hierarchy.paths, ∃ entry ∈ hierarchy.entries, entry.path = path ∧
    hierarchy.at? path = .ok entry.object ∧
    hierarchy.provenance? path = some entry.provenance

theorem Registry.Distinct.looksUp {hierarchy : Hierarchy}
    (distinct : hierarchy.registry.Distinct) : hierarchy.LooksUp where
  paths := distinct.paths
  names := distinct.names
  found _ _ member := Registry.lookup_ok_iff distinct member
  unique suffix entry member other member' ends ends' := by
    apply distinct.eq_of_name member member'
    exact (Path.lastSegment_of_suffix ends).trans (Path.lastSegment_of_suffix ends').symm
  unambiguous suffix asked several := by
    rcases Registry.lookup_cases distinct suffix with ⟨entry, -, -, found⟩ | ⟨-, missing⟩
    · simp [Hierarchy.at?, found]
    · simp [Hierarchy.at?, missing]
  notFound suffix := by
    refine ⟨fun missing entry member ends => ?_, Registry.lookup_of_none⟩
    have found := Registry.lookup_of_suffix distinct member ends
    rw [Hierarchy.at?, found] at missing
    cases missing
  listed path member := by
    obtain ⟨entry, inEntries, rfl⟩ := List.mem_map.1 member
    exact ⟨entry, inEntries, rfl, Registry.lookup_of_suffix distinct inEntries List.suffix_rfl,
      Registry.provenanceOf?_of_mem distinct inEntries⟩

theorem looksUp_of_build {builder : Builder} {source origin : String} {heap : Heap}
    {hierarchy : Hierarchy} (ok : (builder.build source origin heap).outcome = .ok hierarchy) :
    hierarchy.LooksUp := by
  obtain ⟨read, pass, -, reached, entries, -⟩ := Builder.reached_of_build ok
  have distinct := reached.distinct
  apply Registry.Distinct.looksUp
  rw [show hierarchy.entries = hierarchy.registry.entries from rfl] at entries
  exact ⟨entries ▸ distinct.names, entries ▸ distinct.objects⟩

def endingsSource : String := "title WIDGET\n  e VBOX\n    le LABEL\n    itle LABEL\nlast WIDGET\n"

theorem looksUp_of_build_endings :
    ∃ hierarchy, (build endingsSource "ui").outcome = .ok hierarchy ∧
      hierarchy.paths = ["title", "title.e", "title.e.le", "title.e.itle", "last"] ∧
      hierarchy.LooksUp := by
  have run : (build endingsSource "ui").outcome.toOption.map Hierarchy.paths =
      some ["title", "title.e", "title.e.le", "title.e.itle", "last"] := by decide +kernel
  obtain ⟨hierarchy, ok, paths⟩ := Builder.Result.exists_hierarchy run
  exact ⟨hierarchy, ok, paths, looksUp_of_build ok⟩

end WidgetOutline
