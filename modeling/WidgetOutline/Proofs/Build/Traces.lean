import WidgetOutline.Proofs.Build.Faults
import WidgetOutline.Proofs.Nesting.Refused

namespace WidgetOutline
open Text

/-- The text that a line gives to an object that it finds in a pool. -/
def Pool.textFor? (pool : Pool) (heap : Heap) (id : ObjectId) : Line → Option String
  | .item declared =>
    match declared.typeWord with
    | .findExisting className =>
      if pool.find heap className declared.name = [id] then declared.text else none
    | _ => none
  | _ => none

section

variable {pool : Pool} {heap after : Heap} {id : ObjectId} {object : Object}

theorem Toolkit.builtin_continues (className : String) (heap : Heap) :
    heap.Continues (Toolkit.builtin.construct className heap).2 := by
  unfold Toolkit.builtin Toolkit.ofTable
  dsimp only
  cases initialOf builtinClasses className with
  | error error => exact .refl heap
  | ok object => exact heap.continues_add object

theorem instantiate_continues {className : String} {outcome : Except SupplyError ObjectId}
    (made : instantiate .builtin className heap = (outcome, after)) : heap.Continues after := by
  have constructed := Toolkit.builtin_continues className heap
  unfold instantiate at made
  split at made
  · rename_i run
    rw [run] at constructed
    cases made
    exact constructed
  · rename_i run
    rw [run] at constructed
    cases made
    exact constructed
  · rename_i run
    rw [run] at constructed
    split at made <;> cases made <;> exact constructed

theorem objectFor_traces {name : String} {typeWord : TypeWord}
    {outcome : Except SupplyError ObjectId}
    (run : objectFor .builtin pool.finder name typeWord heap = (outcome, after)) :
    heap.Continues after ∧ ∀ made, outcome = .ok made → heap.get? made = none ∨
      ∃ className, typeWord = .findExisting className ∧ pool.find heap className name = [made] := by
  have fresh {className : String} (run : instantiate .builtin className heap = (outcome, after)) :
      ∀ made, outcome = .ok made → heap.get? made = none := by
    rintro made rfl
    exact (Toolkit.ofTable_unknown (instantiate_ok run)).1
  cases typeWord with
  | keyword shorthand =>
    exact ⟨instantiate_continues run, fun made ok => .inl (fresh run made ok)⟩
  | toolkitClass className =>
    exact ⟨instantiate_continues run, fun made ok => .inl (fresh run made ok)⟩
  | findExisting className =>
    obtain ⟨found, rfl⟩ := Prod.mk.inj run
    refine ⟨.refl heap, fun made ok => .inr ⟨className, rfl, ?_⟩⟩
    obtain ⟨find, searching, one⟩ := findExisting_ok (found.trans ok)
    cases searching
    exact one

theorem supply_traces {declared : Item} {outcome : Except SupplyError ObjectId}
    (run : supply .builtin pool.finder declared.name declared.typeWord declared.text heap =
      (outcome, after)) (found : heap.get? id = some object) :
    ∃ left, after.get? id = some left ∧ (object.Continues left ∨
      ∃ said, pool.textFor? heap id (.item declared) = some said ∧ object.Titled said left) := by
  unfold supply at run
  split at run
  · rename_i failed
    cases run
    obtain ⟨left, found', continues⟩ := (objectFor_traces failed).1 id object found
    exact ⟨left, found', .inl continues⟩
  · rename_i made _
    cases run
    obtain ⟨left, found', continues⟩ := (objectFor_traces made).1 id object found
    exact ⟨left, found', .inl continues⟩
  · rename_i target middle said made text
    obtain ⟨continues, source⟩ := objectFor_traces made
    obtain ⟨between, found', continued⟩ := continues id object found
    -- The text goes to the object of the line, which was there before only if it was found.
    have applied {outcome : Except CannotSetText TextSetter} {done : Heap}
        (applied : middle.applyText target said = (outcome, done)) :
        ∃ left, done.get? id = some left ∧ (object.Continues left ∨
          ∃ said, pool.textFor? heap id (.item declared) = some said ∧
            object.Titled said left) := by
      obtain ⟨left, found'', traces⟩ := Heap.applyText_traces applied found'
      refine ⟨left, found'', ?_⟩
      rcases traces with continues' | ⟨rfl, titled⟩
      · exact .inl (continued.trans continues')
      · rcases source id rfl with fresh | ⟨className, marked, one⟩
        · rw [fresh] at found
          cases found
        · refine .inr ⟨said, by simp [Pool.textFor?, marked, one, text], ?_⟩
          cases continued with
          | same => exact titled
          | recorded => cases titled
    split at run
    · rename_i set
      cases run
      exact applied set
    · rename_i refused
      cases run
      exact applied refused

end

def BuildFault.AfterChecks : BuildFault → Prop
  | supply _ => True
  | registry _ => True
  | attach _ => True
  | _ => False

def Pool.builder (pool : Pool) : Builder := ⟨.builtin, pool.finder⟩

namespace Pass

variable {pool : Pool} {provenance : Provenance} {pass after : Pass} {fault : BuildFault}
  {id : ObjectId} {object : Object}

theorem register_error_continues {name path : String}
    (failed : pass.register id name path provenance = (.error fault, after)) :
    fault.AfterChecks ∧ pass.scene.heap.Continues after.scene.heap := by
  obtain ⟨error, -, rfl, rfl⟩ := register_error failed
  exact ⟨trivial, .refl _⟩

theorem parentOf_error_checked {depth : Nat} (failed : pass.parentOf depth = .error fault) :
    fault.AfterChecks := by
  obtain ⟨-, rfl⟩ := parentOf_error failed
  trivial

theorem attachTo_error_continues {child : Child} {name : String} {parent : ObjectId}
    (failed : pass.attachTo child name parent = (.error fault, after)) :
    fault.AfterChecks ∧ pass.scene.heap.Continues after.scene.heap := by
  obtain ⟨error, scene, refused, rfl, rfl⟩ := attachTo_error failed
  exact ⟨trivial, attach_error_continues refused⟩

theorem place_error_continues {depth : Nat} {name : String}
    (failed : pass.place depth id name provenance = (.error fault, after)) :
    fault.AfterChecks ∧ pass.scene.heap.Continues after.scene.heap := by
  unfold place at failed
  split at failed
  · exact register_error_continues failed
  · split at failed
    · rename_i orphaned
      cases failed
      exact ⟨parentOf_error_checked orphaned, .refl _⟩
    · unfold placeBelow at failed
      dsimp only at failed
      split at failed
      · cases failed
        exact ⟨trivial, .refl _⟩
      · rename_i available
        split at failed
        · rename_i unattached
          cases failed
          exact attachTo_error_continues unattached
        · rename_i attached
          obtain ⟨done, registered⟩ := register_attached available attached
          rw [registered] at failed
          cases failed

theorem stretch_error_continues {depth : Nat}
    (failed : pass.stretch depth = (.error fault, after)) :
    pass.scene.heap.Continues after.scene.heap := by
  unfold stretch at failed
  split at failed
  · cases failed
    exact .refl _
  · split at failed
    · cases failed
      exact .refl _
    · split at failed
      · cases failed
        exact .refl _
      · split at failed
        · rename_i unattached
          cases failed
          exact (attachTo_error_continues unattached).2
        · cases failed

theorem item_error_traces {declared : Item}
    (failed : pass.item pool.builder declared provenance = (.error fault, after))
    (found : pass.scene.heap.get? id = some object) :
    ∃ left, after.scene.heap.get? id = some left ∧ (object.Continues left ∨
      fault.AfterChecks ∧ ∃ said, pool.textFor? pass.scene.heap id (.item declared) = some said ∧
        object.Titled said left) := by
  unfold item at failed
  split at failed
  · cases failed
    exact ⟨object, found, .inl (.same object)⟩
  · dsimp only at failed
    split at failed
    · rename_i refused
      cases failed
      obtain ⟨left, found', traces⟩ := supply_traces refused found
      exact ⟨left, found', traces.imp_right fun titled => ⟨trivial, titled⟩⟩
    · rename_i supplied
      obtain ⟨between, found', traces⟩ := supply_traces supplied found
      obtain ⟨checked, kept⟩ := place_error_continues failed
      obtain ⟨left, found'', continues⟩ := kept id between found'
      refine ⟨left, found'', ?_⟩
      rcases traces with continued | ⟨said, given, titled⟩
      · exact .inl (continued.trans continues)
      · rw [titled.eq_of_continues continues]
        exact .inr ⟨checked, said, given, titled⟩

theorem line_error_traces {text : List Char}
    (failed : pass.line pool.builder provenance text = (.error fault, after))
    (found : pass.scene.heap.get? id = some object) :
    ∃ left, after.scene.heap.get? id = some left ∧ (object.Continues left ∨
      fault.AfterChecks ∧ ∃ line said, readLine text = .ok line ∧
        pool.textFor? pass.scene.heap id line = some said ∧ object.Titled said left) := by
  cases read : readLine text with
  | error error =>
    unfold Pass.line at failed
    rw [read] at failed
    cases failed
    exact ⟨object, found, .inl (.same object)⟩
  | ok line =>
    unfold Pass.line at failed
    rw [read] at failed
    cases line with
    | blank => cases failed
    | comment => cases failed
    | stretch indent =>
      obtain ⟨left, found', continues⟩ := stretch_error_continues failed id object found
      exact ⟨left, found', .inl continues⟩
    | item declared =>
      obtain ⟨left, found', traces⟩ := item_error_traces failed found
      refine ⟨left, found', traces.imp_right ?_⟩
      rintro ⟨checked, said, given, titled⟩
      exact ⟨checked, _, said, rfl, given, titled⟩

theorem lines_stop {builder : Builder} {origin : String} {common number : Nat}
    {texts : List (List Char)} {error : BuildError}
    (failed : lines builder origin common number texts pass = (.error error, after)) :
    ∃ before text later middle, texts = before ++ text :: later ∧
      error.place.map (·.line) = some (number + before.length) ∧
      lines builder origin common number before pass = (.ok (), middle) ∧
      middle.line builder { line := number + before.length, origin } (outdent common text) =
        (.error error.fault, after) := by
  induction texts generalizing number pass with
  | nil => cases failed
  | cons text texts ih =>
    unfold lines at failed
    split at failed
    · rename_i next built
      obtain ⟨before, text', later, middle, rfl, place, run, stop⟩ := ih failed
      have count : number + (text :: before).length = number + 1 + before.length := by
        rw [List.length_cons, Nat.add_assoc, Nat.add_comm 1]
      refine ⟨text :: before, text', later, middle, rfl, ?_, ?_, ?_⟩
      · rw [count, place]
      · rw [lines, built]
        exact run
      · rw [count, stop]
    · rename_i failure
      cases failed
      exact ⟨[], text, texts, pass, rfl, rfl, rfl, failure⟩

end Pass

def Builder.heapBefore (builder : Builder) (source origin : String) (heap : Heap) (number : Nat) :
    Heap :=
  (Pass.lines builder origin (commonIndent (lines source.toList)) 1
    ((lines source.toList).take (number - 1)) (.start heap)).2.scene.heap

theorem Builder.line_of_stop {builder : Builder} {source origin : String} {heap : Heap}
    {number : Nat} {fault : BuildFault}
    (stopped : (builder.build source origin heap).stop? = some (number, fault)) :
    ∃ (before : List (List Char)) (text : List Char) (later : List (List Char))
      (pass after : Pass), Text.lines source.toList = before ++ text :: later ∧
      number = before.length + 1 ∧
      builder.heapBefore source origin heap number = pass.scene.heap ∧
      (builder.build source origin heap).heap = after.scene.heap ∧
      pass.line builder { line := number, origin }
        (outdent (commonIndent (Text.lines source.toList)) text) = (.error fault, after) := by
  rw [build_eq] at stopped ⊢
  cases run : Pass.lines builder origin (commonIndent (Text.lines source.toList)) 1
      (Text.lines source.toList) (.start heap) with
  | mk outcome after =>
    rw [run, finish_stop?] at stopped
    cases outcome with
    | ok _ => cases stopped
    | error error =>
      obtain ⟨before, text, later, pass, split, place, built, failed⟩ := Pass.lines_stop run
      obtain ⟨found, located, same⟩ := Option.map_eq_some_iff.1 stopped
      cases same
      rw [located, Option.map_some, Option.some.injEq, Nat.add_comm] at place
      refine ⟨before, text, later, pass, after, split, place, ?_, rfl, ?_⟩
      · rw [heapBefore, place, Nat.add_sub_cancel, split, List.take_left, ← split, built]
      · rw [place, Nat.add_comm]
        exact failed

theorem traces_of_build {pool : Pool} {source origin : String} {heap : Heap} {number : Nat}
    {fault : BuildFault}
    (stopped : (pool.builder.build source origin heap).stop? = some (number, fault))
    {id : ObjectId} {object : Object}
    (found : (pool.builder.heapBefore source origin heap number).get? id = some object) :
    ∃ left, (pool.builder.build source origin heap).heap.get? id = some left ∧
      object.Keeps left ∧ (left.text? = object.text? ∨ fault.AfterChecks ∧
        ∃ line said, (line, number) ∈ numberedLines source.toList ∧
          pool.textFor? (pool.builder.heapBefore source origin heap number) id line = some said ∧
          left.text? = some said) := by
  obtain ⟨before, text, later, pass, after, split, rfl, start, done, failed⟩ :=
    Builder.line_of_stop stopped
  rw [start] at found ⊢
  rw [done]
  obtain ⟨left, found', traces⟩ := Pass.line_error_traces failed found
  refine ⟨left, found', ?_⟩
  rcases traces with continues | ⟨checked, line, said, read, given, titled⟩
  · exact ⟨continues.keeps.1, .inl continues.keeps.2⟩
  · exact ⟨titled.keeps.1,
      .inr ⟨checked, line, said, mem_numberedLines split read, given, titled.keeps.2⟩⟩

def shownLabel : Object := freshWidget (.caption "QLabel" (some "before"))

def shownPool : Pool := Pool.empty.insert "x" ⟨0⟩

def takenName : String := "x WIDGET\nx ?QLabel(after)\n"

theorem stop_takenName : ∃ fault,
    (shownPool.builder.build takenName "ui" ⟨#[shownLabel]⟩).stop? = some (2, fault) ∧
      (shownPool.builder.heapBefore takenName "ui" ⟨#[shownLabel]⟩ 2).get? ⟨0⟩ =
        some shownLabel ∧
      ((shownPool.builder.build takenName "ui" ⟨#[shownLabel]⟩).heap.get? ⟨0⟩).map Object.text? =
        some (some "after") := by
  have stopped : ((shownPool.builder.build takenName "ui" ⟨#[shownLabel]⟩).stop?.map (·.1)) =
      some 2 := by decide +kernel
  obtain ⟨⟨_, fault⟩, stopped, rfl⟩ := Option.map_eq_some_iff.1 stopped
  exact ⟨fault, stopped, by decide +kernel, by decide +kernel⟩

theorem traces_of_build_taken :
    ∃ fault left,
      (shownPool.builder.build takenName "ui" ⟨#[shownLabel]⟩).stop? = some (2, fault) ∧
      (shownPool.builder.build takenName "ui" ⟨#[shownLabel]⟩).heap.get? ⟨0⟩ = some left ∧
      shownLabel.Keeps left ∧ left.text? = some "after" := by
  obtain ⟨fault, stopped, found, text⟩ := stop_takenName
  obtain ⟨left, found', keeps, -⟩ := traces_of_build stopped found
  rw [found', Option.map_some, Option.some.injEq] at text
  exact ⟨fault, left, stopped, found', keeps, text⟩

theorem not_traceless_of_build :
    ¬∀ (pool : Pool) (source origin : String) (heap : Heap) (number : Nat) (fault : BuildFault),
      (pool.builder.build source origin heap).stop? = some (number, fault) →
      ∀ id object, (pool.builder.heapBefore source origin heap number).get? id = some object →
        ∃ left, (pool.builder.build source origin heap).heap.get? id = some left ∧
          object.Keeps left ∧ left.text? = object.text? := by
  intro claim
  obtain ⟨fault, stopped, found, text⟩ := stop_takenName
  obtain ⟨left, found', -, same⟩ := claim _ _ _ _ _ _ stopped _ _ found
  rw [found', Option.map_some, Option.some.injEq, same] at text
  exact absurd text (by decide)

end WidgetOutline
