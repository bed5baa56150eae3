import WidgetOutline.Proofs.Alignment.Meaning
import WidgetOutline.Proofs.Build.OffSide

namespace WidgetOutline
open Text

/-! ## The rule -/

def Line.isItem : Line → Bool
  | item _ => true
  | _ => false

def Line.limit : Line → Nat
  | stretch indent => depthOf indent
  | item declared => declared.depth + 1
  | _ => 0

def lastSignificant? (lines : List Line) : Option Line := lines.reverse.find? (·.indent?.isSome)

def Legal (earlier : List Line) (line : Line) (depth : Nat) : Prop :=
  if ∀ other ∈ earlier, other.isItem = false then line.isItem = true ∧ depth = 1
  else (∀ last ∈ lastSignificant? earlier, depth ≤ last.limit) ∧
    (line.isItem = false → 2 ≤ depth)

theorem one_le_depthOf (indent : Nat) : 1 ≤ depthOf indent := Nat.le_add_right 1 _

theorem Legal.two_le {earlier : List Line} {line : Line} {depth : Nat}
    (legal : Legal earlier line depth) (noItem : line.isItem = false) : 2 ≤ depth := by
  unfold Legal at legal
  split at legal
  · rw [noItem] at legal
    cases legal.1
  · exact legal.2 noItem

def BuildFault.Misplaced : BuildFault → Prop
  | skippedLevel _ _ => True
  | stretchWithChildren => True
  | stretchAtTopLevel => True
  | registry (.noParent _) => True
  | _ => False

theorem lastSignificant?_concat (lines : List Line) (line : Line) :
    lastSignificant? (lines ++ [line]) =
      if line.indent?.isSome then some line else lastSignificant? lines := by
  rw [lastSignificant?, List.reverse_append, List.reverse_singleton, List.singleton_append,
    List.find?_cons]
  cases line.indent? <;> rfl

theorem Line.indent?_of_isItem {line : Line} (item : line.isItem = true) :
    line.indent?.isSome = true := by
  cases line <;> first | rfl | cases item

theorem exists_lastSignificant? {lines : List Line} {line : Line} (member : line ∈ lines)
    (item : line.isItem = true) : ∃ last, lastSignificant? lines = some last := by
  rw [← Option.isSome_iff_exists, lastSignificant?, List.find?_isSome]
  exact ⟨line, List.mem_reverse.2 member, line.indent?_of_isItem item⟩

/-! ## What a pass remembers -/

/-- The pass knows the place of the last line, and has a parent for every depth above it. -/
structure Tracks (done : List Line) (pass : Pass) : Prop where
  bare : (∀ line ∈ done, line.isItem = false) →
    pass.registry.entries = [] ∧ pass.stretchDepth = none
  started : ∀ line ∈ done, line.isItem = true → pass.registry.entries ≠ []
  limit : ∀ last ∈ lastSignificant? done, ∀ depth,
    pass.checkDepth depth = .ok () ↔ depth ≤ last.limit
  ladder : pass.registry.entries ≠ [] → ∀ depth, 1 ≤ depth → depth ≤ pass.registry.currentDepth →
    ∃ entry, pass.registry.latestAtDepth? depth = some entry

namespace Tracks

variable {done : List Line} {pass after : Pass} {line : Line}

theorem start (heap : Heap) : Tracks [] (.start heap) where
  bare _ := ⟨rfl, rfl⟩
  started := by simp
  limit := by simp [lastSignificant?]
  ladder none := absurd rfl none

theorem skip (tracks : Tracks done pass) (silent : line.indent? = none) :
    Tracks (done ++ [line]) pass := by
  have noItem : line.isItem = false := by
    cases line with
    | item declared => cases silent
    | _ => rfl
  refine { tracks with bare := ?_, started := ?_, limit := ?_ }
  · exact fun none => tracks.bare fun other member => none other (by simp [member])
  · intro other member item
    rcases List.mem_append.1 member with earlier | last
    · exact tracks.started other earlier item
    · rw [List.mem_singleton.1 last, noItem] at item
      cases item
  · rw [lastSignificant?_concat, silent]
    exact tracks.limit

theorem stretch (tracks : Tracks done pass) {indent : Nat} {scene : Scene}
    (checked : pass.checkDepth (depthOf indent) = .ok ())
    (nonempty : pass.registry.entries ≠ []) :
    Tracks (done ++ [.stretch indent])
      { pass with scene, stretchDepth := some (depthOf indent) } where
  bare none := by
    have earlier := tracks.bare fun other member => none other (by simp [member])
    exact absurd earlier.1 nonempty
  started _ _ _ := nonempty
  limit := by
    rw [lastSignificant?_concat]
    rintro _ ⟨⟩ depth
    have near := (Pass.checkDepth_ok_iff.1 checked).2
    rw [Pass.checkDepth_ok_iff, Line.limit]
    simp only [Option.mem_some_iff, forall_eq']
    omega
  ladder := tracks.ladder

theorem item (tracks : Tracks done pass) {declared : Item} {name : String} {entry : Entry}
    (registered : after.registry = pass.registry.push name entry)
    (fresh : after.stretchDepth = none) (level : entry.depth = declared.depth)
    (near : declared.depth ≤ pass.registry.currentDepth + 1)
    (rooted : pass.registry.entries = [] → declared.depth = 1) :
    Tracks (done ++ [.item declared]) after where
  bare none := by
    have := none (.item declared) (by simp)
    cases this
  started _ _ _ := by
    rw [registered, Registry.entries_push]
    simp
  limit := by
    rw [lastSignificant?_concat]
    rintro _ ⟨⟩ depth
    rw [Pass.checkDepth_ok_iff, Line.limit, fresh, registered, Registry.currentDepth_push, level]
    simp
  ladder _ depth positive bound := by
    rw [registered, Registry.currentDepth_push, level] at bound
    rw [registered, Registry.latestAtDepth?_push, level]
    by_cases same : declared.depth = depth
    · exact ⟨entry, if_pos same⟩
    · -- Other depths up to this one were there before, for it is at most one deeper.
      rw [if_neg same]
      refine tracks.ladder (fun none => ?_) depth positive (by omega)
      have := rooted none
      omega

end Tracks

theorem Pass.Reached.tracks {builder : Builder} {origin : String} {heap : Heap} {done : List Line}
    {pass : Pass} (reached : Reached builder origin heap done pass) : Tracks done pass := by
  induction reached with
  | start => exact .start heap
  | @line done pass after text line earlier read built ih =>
    cases built_of_line read built with
    | silent silent => exact ih.skip silent
    | stretch checked _ found _ =>
      exact ih.stretch checked (List.ne_nil_of_mem (Registry.latestAtDepth?_some found).1)
    | top checked _ level registers =>
      obtain ⟨-, near⟩ := Pass.checkDepth_ok_iff.1 checked
      obtain ⟨-, undotted, -⟩ := name_of_readLine read
      exact ih.item registers.registry registers.stretchDepth
        ((Path.depth_name undotted).trans level.symm) near fun _ => level
    | @below declared _ _ above _ _ _ checked _ nested found _ registers =>
      obtain ⟨-, near⟩ := Pass.checkDepth_ok_iff.1 checked
      obtain ⟨-, undotted, -⟩ := name_of_readLine read
      obtain ⟨member, depth⟩ := Registry.latestAtDepth?_some found
      have level : above.depth + 1 = declared.depth := by
        unfold Item.depth depthOf indentStep at *
        omega
      exact ih.item registers.registry registers.stretchDepth
        ((Path.depth_child above.path undotted).trans level) near
        fun none => absurd none (List.ne_nil_of_mem member)

/-! ## Faults -/

theorem Registry.checkAvailable_error {registry : Registry} {object : ObjectId}
    {name path : String} {provenance : Provenance} {error : RegistryError}
    (refused : registry.checkAvailable object name path provenance = .error error) :
    ¬(BuildFault.registry error).Misplaced := by
  unfold checkAvailable at refused
  split at refused
  · cases refused
    exact id
  · split at refused
    · cases refused
      exact id
    · cases refused

theorem Pass.Failed.not_misplaced {builder : Builder} {provenance : Provenance}
    {pass after : Pass} {line : Line} {fault : BuildFault} {indent : Nat}
    (failed : Failed builder provenance pass line fault after)
    (indented : line.indent? = some indent) (checked : pass.checkDepth (depthOf indent) = .ok ())
    (parented : depthOf indent ≠ 1 →
      ∃ parent, pass.registry.latestAtDepth? (depthOf indent - 1) = some parent)
    (nested : line.isItem = false → depthOf indent ≠ 1) : ¬fault.Misplaced := by
  cases failed with
  | deep indented' refused =>
    cases indented.symm.trans indented'
    rw [checked] at refused
    cases refused
  | flat _ level =>
    cases indented
    exact absurd level (nested rfl)
  | orphan indented' _ below missing _ =>
    cases indented.symm.trans indented'
    obtain ⟨parent, found⟩ := parented below
    rw [missing] at found
    cases found
  | taken _ _ refused => exact Registry.checkAvailable_error refused
  | stretch _ _ _ _ => exact id
  | supply _ _ => exact id
  | below _ _ _ _ _ _ => exact id

/-! ## Lines -/

namespace Tracks

variable {done : List Line} {pass after : Pass} {line : Line} {text : List Char} {indent : Nat}

theorem cases (tracks : Tracks done pass) :
    ((∀ other ∈ done, other.isItem = false) ∧ pass.registry.entries = [] ∧
      pass.stretchDepth = none) ∨
    ((¬∀ other ∈ done, other.isItem = false) ∧ pass.registry.entries ≠ [] ∧
      ∃ last, lastSignificant? done = some last) := by
  by_cases none : ∀ other ∈ done, other.isItem = false
  · exact .inl ⟨none, tracks.bare none⟩
  · obtain ⟨other, member, item⟩ : ∃ other ∈ done, other.isItem = true := by simpa using none
    exact .inr ⟨none, tracks.started other member item, exists_lastSignificant? member item⟩

theorem checked_of_legal (tracks : Tracks done pass) (legal : Legal done line (depthOf indent)) :
    pass.checkDepth (depthOf indent) = .ok () ∧ (depthOf indent ≠ 1 →
      ∃ parent, pass.registry.latestAtDepth? (depthOf indent - 1) = some parent) := by
  unfold Legal at legal
  rcases tracks.cases with ⟨none, entries, stretchDepth⟩ | ⟨some, entries, last, found⟩
  · rw [if_pos none] at legal
    refine ⟨Pass.checkDepth_ok_iff.2 ⟨?_, ?_⟩, fun nested => absurd legal.2 nested⟩
    · simp [stretchDepth]
    · omega
  · rw [if_neg some] at legal
    have checked := (tracks.limit last found _).2 (legal.1 last found)
    have near := (Pass.checkDepth_ok_iff.1 checked).2
    have positive := one_le_depthOf indent
    exact ⟨checked, fun nested => tracks.ladder entries _ (by omega) (by omega)⟩

theorem legal_of_checked (tracks : Tracks done pass)
    (checked : pass.checkDepth (depthOf indent) = .ok ())
    (parented : (depthOf indent = 1 ∧ line.isItem = true) ∨ depthOf indent ≠ 1 ∧
      ∃ parent, pass.registry.latestAtDepth? (depthOf indent - 1) = some parent) :
    Legal done line (depthOf indent) := by
  unfold Legal
  rcases tracks.cases with ⟨none, entries, -⟩ | ⟨some, -, -⟩
  · rw [if_pos none]
    rcases parented with ⟨top, item⟩ | ⟨-, parent, found⟩
    · exact ⟨item, top⟩
    · have member := (Registry.latestAtDepth?_some found).1
      rw [entries] at member
      cases member
  · rw [if_neg some]
    refine ⟨fun last found => (tracks.limit last found _).1 checked, fun noItem => ?_⟩
    rcases parented with ⟨-, item⟩ | ⟨nested, -⟩
    · rw [noItem] at item
      cases item
    · have positive := one_le_depthOf indent
      omega

theorem legal_of_built {builder : Builder} {provenance : Provenance} (tracks : Tracks done pass)
    (built : Pass.Built builder provenance pass line after)
    (indented : line.indent? = some indent) : Legal done line (depthOf indent) := by
  cases built with
  | silent silent =>
    rw [silent] at indented
    cases indented
  | @stretch _ parent _ _ checked nested found _ =>
    cases indented
    exact tracks.legal_of_checked checked (.inr ⟨nested, parent, found⟩)
  | top checked _ level _ =>
    cases indented
    exact tracks.legal_of_checked checked (.inl ⟨level, rfl⟩)
  | @below _ _ _ parent _ _ _ checked _ nested found _ _ =>
    cases indented
    exact tracks.legal_of_checked checked (.inr ⟨nested, parent, found⟩)

theorem line_outcome (tracks : Tracks done pass) (read : readLine text = .ok line)
    (indented : line.indent? = some indent) (builder : Builder) (provenance : Provenance) :
    ((pass.line builder provenance text).1 = .ok () → Legal done line (depthOf indent)) ∧
    (Legal done line (depthOf indent) → ∀ fault,
      (pass.line builder provenance text).1 = .error fault → ¬fault.Misplaced) := by
  cases built : pass.line builder provenance text with
  | mk outcome after =>
    dsimp only
    refine ⟨fun ok => ?_, fun legal fault failed => ?_⟩
    · subst ok
      exact tracks.legal_of_built (Pass.built_of_line read built) indented
    · subst failed
      obtain ⟨checked, parented⟩ := tracks.checked_of_legal legal
      exact (Pass.failed_of_line read built).not_misplaced indented checked parented
        fun noItem => Nat.ne_of_gt (legal.two_le noItem)

end Tracks

/-! ## Whole builds -/

def Builder.Result.stop? (result : Builder.Result) : Option (Nat × BuildFault) :=
  match result.outcome with
  | .error error => error.place.map fun place => (place.line, error.fault)
  | .ok _ => none

theorem Builder.finish_stop? (origin : String) (run : Except BuildError Unit × Pass) :
    (finish origin run).stop? = match run.1 with
      | .error error => error.place.map fun place => (place.line, error.fault)
      | .ok _ => none := by
  obtain ⟨outcome, pass⟩ := run
  cases outcome with
  | error error => rfl
  | ok _ =>
    unfold finish
    split
    · rename_i eq
      cases eq
    · split <;> rfl

def earlierLines (source : List Char) (number : Nat) : List Line :=
  ((numberedLines source).filter (·.2 < number)).map (·.1)

theorem earlierLines_eq {source : List Char} {before later : List (List Char)} {done : List Line}
    (split : lines source = before ++ later)
    (reads : Reads (before.map (outdent (commonIndent (lines source)))) done) :
    earlierLines source (before.length + 1) = done := by
  have length : before.length = done.length := by
    rw [← reads.length_eq, List.length_map]
  generalize rest : later.map (outdent (commonIndent (lines source))) = outdented
  have numbered : numberedLines source =
      outlineOf done ++ (outdented.zipIdx (1 + before.length)).filterMap said? := by
    have dedented : dedent source =
        before.map (outdent (commonIndent (lines source))) ++ outdented := by
      rw [← rest, ← List.map_append, ← split, dedent]
    rw [outlineOf, ← filterMap_said? reads,
      ← List.length_map (outdent (commonIndent (lines source))), ← List.filterMap_append,
      ← List.zipIdx_append, ← dedented]
    rfl
  have earlier : (outlineOf done).filter (·.2 < before.length + 1) = outlineOf done := by
    rw [List.filter_eq_self]
    intro said member
    have number := (List.mem_zipIdx member).2.1
    rw [decide_eq_true_eq]
    omega
  have none : ((outdented.zipIdx (1 + before.length)).filterMap said?).filter
      (·.2 < before.length + 1) = [] := by
    rw [List.filter_eq_nil_iff]
    intro said member
    obtain ⟨⟨text, number⟩, inLater, reading⟩ := List.mem_filterMap.1 member
    obtain ⟨line, -, rfl⟩ := Option.map_eq_some_iff.1 reading
    have number := (List.mem_zipIdx inLater).1
    rw [decide_eq_true_eq]
    omega
  rw [earlierLines, numbered, List.filter_append, earlier, none, List.append_nil]
  exact List.zipIdx_map_fst 1 done

theorem exists_at {texts : List (List Char)} {place : Nat} (inside : place < texts.length) :
    ∃ before text later, texts = before ++ text :: later ∧ before.length = place := by
  refine ⟨texts.take place, texts[place], texts.drop (place + 1), ?_, ?_⟩
  · rw [List.getElem_cons_drop, List.take_append_drop]
  · rw [List.length_take, Nat.min_eq_left (Nat.le_of_lt inside)]

theorem exists_text {source : List Char} {line : Line} {number : Nat}
    (member : (line, number) ∈ numberedLines source) :
    ∃ before text later, lines source = before ++ text :: later ∧ number = before.length + 1 ∧
      readLine (outdent (commonIndent (lines source)) text) = .ok line := by
  obtain ⟨⟨outdented, place⟩, inZip, reading⟩ := List.mem_filterMap.1 member
  obtain ⟨said, read, same⟩ := Option.map_eq_some_iff.1 reading
  obtain ⟨rfl, rfl⟩ := Prod.mk.inj same
  obtain ⟨positive, bound, outdented_eq⟩ := List.mem_zipIdx inZip
  rw [dedent, List.length_map] at bound
  obtain ⟨before, text, later, split, length⟩ :=
    exists_at (show place - 1 < (lines source).length by omega)
  refine ⟨before, text, later, split, by omega, ?_⟩
  have here : (lines source)[place - 1]? = some text := by
    rw [split, ← length, List.getElem?_append_right (Nat.le_refl _), Nat.sub_self]
    rfl
  have located := List.getElem?_eq_some_iff.1 here
  simp only [dedent, List.getElem_map, located.2] at outdented_eq
  rw [← outdented_eq]
  cases outcome : readLine outdented with
  | ok _ =>
    rw [outcome] at read
    exact congrArg _ (Option.some.inj read)
  | error _ =>
    rw [outcome] at read
    cases read

theorem mem_numberedLines {source : List Char} {before later : List (List Char)}
    {text : List Char} {line : Line} (split : lines source = before ++ text :: later)
    (read : readLine (outdent (commonIndent (lines source)) text) = .ok line) :
    (line, before.length + 1) ∈ numberedLines source := by
  refine List.mem_filterMap.2
    ⟨(outdent (commonIndent (lines source)) text, before.length + 1), ?_, ?_⟩
  · rw [List.mk_mem_zipIdx_iff_le_and_getElem?_sub, dedent, List.getElem?_map, Nat.add_sub_cancel]
    rw [split, List.getElem?_append_right (Nat.le_refl _), Nat.sub_self]
    exact ⟨Nat.le_add_left 1 _, rfl⟩
  · dsimp only
    rw [read]
    rfl

namespace Pass

variable {builder : Builder} {origin : String} {common : Nat}

theorem lines_append (before later : List (List Char)) (number : Nat) (pass : Pass) :
    lines builder origin common number (before ++ later) pass =
      match lines builder origin common number before pass with
      | (.ok (), middle) =>
        lines builder origin common (number + before.length) later middle
      | (.error error, after) => (.error error, after) := by
  induction before generalizing number pass with
  | nil => rfl
  | cons text before ih =>
    rw [List.cons_append, lines, lines]
    split
    · rw [ih, List.length_cons, Nat.add_assoc, Nat.add_comm 1]
    · rfl

theorem lines_error {texts : List (List Char)} {number : Nat} {pass after : Pass}
    {error : BuildError}
    (failed : lines builder origin common number texts pass = (.error error, after)) :
    ∃ place, error.place = some place ∧ number ≤ place.line ∧
      place.line < number + texts.length := by
  induction texts generalizing number pass with
  | nil => cases failed
  | cons text texts ih =>
    unfold lines at failed
    split at failed
    · obtain ⟨place, located, first, last⟩ := ih failed
      refine ⟨place, located, by omega, ?_⟩
      rw [List.length_cons]
      omega
    · cases failed
      refine ⟨_, rfl, Nat.le_refl _, ?_⟩
      rw [List.length_cons]
      exact Nat.lt_add_of_pos_right (Nat.succ_pos _)

theorem stop?_lines_iff {text : List Char} {later : List (List Char)} {number : Nat} {pass : Pass}
    {fault : BuildFault} :
    (Builder.finish origin (lines builder origin common number (text :: later) pass)).stop? =
        some (number, fault) ↔
      (pass.line builder { line := number, origin } (outdent common text)).1 = .error fault := by
  rw [Builder.finish_stop?, lines]
  cases pass.line builder { line := number, origin } (outdent common text) with
  | mk outcome after =>
    cases outcome with
    | error failure => simp
    | ok _ =>
      dsimp only
      cases rest : lines builder origin common (number + 1) later after with
      | mk outcome last =>
        cases outcome with
        | ok _ => simp
        | error error =>
          -- A later line has a greater number.
          obtain ⟨place, located, first, -⟩ := lines_error rest
          simp only [located, Option.map_some, Option.some.injEq, Prod.mk.injEq, reduceCtorEq,
            iff_false, not_and]
          omega

end Pass

theorem Builder.reached_line {builder : Builder} {source origin : String} {heap : Heap}
    {before later : List (List Char)} (split : Text.lines source.toList = before ++ later)
    (reached : ∀ stop ∈ (builder.build source origin heap).stop?, before.length + 1 ≤ stop.1) :
    ∃ done pass, Reads (before.map (outdent (commonIndent (Text.lines source.toList)))) done ∧
      Pass.Reached builder origin heap done pass ∧
      builder.build source origin heap = finish origin (Pass.lines builder origin
        (commonIndent (Text.lines source.toList)) (before.length + 1) later pass) := by
  rw [build_eq, split, Pass.lines_append] at *
  generalize commonIndent (before ++ later) = common at *
  cases run : Pass.lines builder origin common 1 before (.start heap) with
  | mk outcome pass =>
    cases outcome with
    | ok _ =>
      obtain ⟨done, reads, built⟩ := Pass.reached_of_lines .start run
      exact ⟨done, pass, reads, by simpa using built, by simp [Nat.add_comm]⟩
    | error error =>
      obtain ⟨place, located, -, last⟩ := Pass.lines_error run
      rw [run, finish_stop?] at reached
      have := reached (place.line, error.fault) (by simp [located])
      dsimp only at this
      omega

theorem stops_unless_legal {builder : Builder} {source origin : String} {heap : Heap} {line : Line}
    {number indent : Nat} (member : (line, number) ∈ numberedLines source.toList)
    (indented : line.indent? = some indent)
    (reached : ∀ stop ∈ (builder.build source origin heap).stop?, number ≤ stop.1) :
    (¬Legal (earlierLines source.toList number) line (depthOf indent) →
      ∃ fault, (builder.build source origin heap).stop? = some (number, fault)) ∧
    (Legal (earlierLines source.toList number) line (depthOf indent) →
      ∀ fault, (builder.build source origin heap).stop? = some (number, fault) →
        ¬fault.Misplaced) := by
  obtain ⟨before, text, later, split, rfl, read⟩ := exists_text member
  obtain ⟨done, pass, reads, built, run⟩ := Builder.reached_line split reached
  have earlier := earlierLines_eq split reads
  obtain ⟨legal_of_ok, placed⟩ :=
    built.tracks.line_outcome read indented builder { line := before.length + 1, origin }
  rw [earlier, run]
  refine ⟨fun illegal => ?_, fun legal fault stopped => ?_⟩
  · cases outcome : (pass.line builder { line := before.length + 1, origin }
        (outdent (commonIndent (lines source.toList)) text)).1 with
    | ok _ => exact absurd (legal_of_ok outcome) illegal
    | error fault => exact ⟨fault, Pass.stop?_lines_iff.2 outcome⟩
  · exact placed legal fault (Pass.stop?_lines_iff.1 stopped)

def stretchedSource : String := "row HBOX\n  <>\n    x LABEL\n"

theorem stops_unless_legal_below_stretch :
    ∃ line indent, (line, 3) ∈ numberedLines stretchedSource.toList ∧
      line.indent? = some indent ∧
      ¬Legal (earlierLines stretchedSource.toList 3) line (depthOf indent) ∧
      ∃ fault, (build stretchedSource "ui").stop? = some (3, fault) := by
  have numbered : ∃ line ∈ numberedLines stretchedSource.toList,
      line.2 = 3 ∧ line.1.indent? = some 4 := by decide +kernel
  obtain ⟨⟨line, _⟩, member, rfl, indented⟩ := numbered
  have before : lastSignificant? (earlierLines stretchedSource.toList 3) = some (.stretch 2) := by
    decide +kernel
  have stop : (build stretchedSource "ui").stop? = some (3, .stretchWithChildren) := by
    decide +kernel
  have illegal : ¬Legal (earlierLines stretchedSource.toList 3) line (depthOf 4) := by
    unfold Legal
    rw [if_neg (by decide +kernel)]
    exact fun legal => absurd (legal.1 _ before) (by decide)
  refine ⟨line, 4, member, indented, illegal, ?_⟩
  refine (@stops_unless_legal .builtin stretchedSource "ui" .empty line 3 4 member indented
    ?_).1 illegal
  intro found stopped
  have same := stop.symm.trans stopped
  cases same
  exact Nat.le_refl 3

end WidgetOutline
