import WidgetOutline.Proofs.Build.Faults

namespace WidgetOutline
open Text

/-- The build stops at the malformed line for what is wrong with that, or above it for something
else than a malformed line. -/
def BuildError.StopsBy (error : BuildError) (malformed : AlignError) : Prop :=
  ∃ place, error.place = some place ∧
    (place.line = malformed.line ∧ error.fault = .line malformed.cause ∨
      place.line < malformed.line ∧ ∀ cause, error.fault ≠ .line cause)

def ReadsAlike {α β : Type} (built : Except BuildError α) : Except AlignError β → Prop
  | .error malformed => ∃ error, built = .error error ∧ error.StopsBy malformed
  | .ok _ => ∀ error, built = .error error → ∀ cause, error.fault ≠ .line cause

theorem Pass.Failed.ne_line {builder : Builder} {provenance : Provenance} {pass after : Pass}
    {line : Line} {fault : BuildFault} (failed : Failed builder provenance pass line fault after)
    (cause : LineError) : fault ≠ .line cause := by
  rintro rfl
  cases failed with
  | deep _ refused => rcases checkDepth_error refused with same | ⟨same, -⟩ <;> cases same

theorem Pass.line_of_malformed {builder : Builder} {provenance : Provenance} {pass : Pass}
    {text : List Char} {cause : LineError} (malformed : readLine text = .error cause) :
    pass.line builder provenance text = (.error (.line cause), pass) := by
  unfold Pass.line
  rw [malformed]

theorem le_line_of_readLines {number : Nat} {texts : List (List Char)} {malformed : AlignError}
    (failed : readLines number texts = .error malformed) : number ≤ malformed.line := by
  induction texts generalizing number with
  | nil => cases failed
  | cons text later ih =>
    unfold readLines at failed
    split at failed
    · cases failed
      exact Nat.le_refl number
    · cases rest : readLines (number + 1) later with
      | error error =>
        rw [rest] at failed
        cases failed
        exact Nat.le_of_succ_le (ih rest)
      | ok read =>
        rw [rest] at failed
        cases failed

theorem ReadsAlike.map {α β γ : Type} {built : Except BuildError α} {read : Except AlignError β}
    (alike : ReadsAlike built read) (f : β → γ) : ReadsAlike built (read.map f) := by
  cases read <;> exact alike

theorem ReadsAlike.error {α β γ : Type} {error : BuildError} {read : Except AlignError γ}
    (alike : ReadsAlike (.error error : Except BuildError α) read) :
    ReadsAlike (.error error : Except BuildError β) read := by
  cases read with
  | error malformed =>
    obtain ⟨_, same, stops⟩ := alike
    cases same
    exact ⟨error, rfl, stops⟩
  | ok _ =>
    rintro _ ⟨⟩
    exact alike error rfl

theorem Pass.lines_readsAlike {builder : Builder} {origin : String} {common number : Nat}
    {texts : List (List Char)} {pass after : Pass} {outcome : Except BuildError Unit}
    (built : lines builder origin common number texts pass = (outcome, after)) :
    ReadsAlike outcome (readLines number (texts.map (outdent common))) := by
  induction texts generalizing number pass with
  | nil =>
    cases built
    exact nofun
  | cons text later ih =>
    rw [List.map_cons, readLines]
    unfold lines at built
    cases read : readLine (outdent common text) with
    | error cause =>
      rw [line_of_malformed read] at built
      cases built
      exact ⟨_, rfl, _, rfl, .inl ⟨rfl, rfl⟩⟩
    | ok line =>
      apply ReadsAlike.map
      split at built
      · exact ih built
      · rename_i fault _ failed
        cases built
        have other := (failed_of_line read failed).ne_line
        -- The build stops here, so a line that is malformed is further down.
        cases rest : readLines (number + 1) (later.map (outdent common)) with
        | error malformed =>
          exact ⟨_, rfl, _, rfl, .inr ⟨Nat.lt_of_succ_le (le_line_of_readLines rest), other⟩⟩
        | ok _ =>
          rintro _ ⟨⟩
          exact other

theorem align_eq (source : String) (gutter : Nat) :
    ∃ write, align source gutter = (readLines 1 (dedent source.toList)).map write := by
  unfold align alignLines
  cases readLines 1 (dedent source.toList) with
  | error malformed => exact ⟨fun _ => "", rfl⟩
  | ok read => exact ⟨fun _ => _, rfl⟩

theorem malformed_of_build (builder : Builder) (source origin : String) (heap : Heap)
    (gutter : Nat) :
    ReadsAlike (builder.build source origin heap).outcome (align source gutter) := by
  obtain ⟨write, aligned⟩ := align_eq source gutter
  rw [aligned, Builder.build_eq]
  apply ReadsAlike.map
  cases built : Pass.lines builder origin (commonIndent (lines source.toList)) 1
      (lines source.toList) (.start heap) with
  | mk outcome pass =>
    have alike : ReadsAlike outcome (readLines 1 (dedent source.toList)) :=
      Pass.lines_readsAlike built
    cases outcome with
    | error error => exact alike.error
    | ok _ =>
      cases read : readLines 1 (dedent source.toList) with
      | error malformed =>
        rw [read] at alike
        obtain ⟨error, same, -⟩ := alike
        cases same
      | ok _ =>
        unfold Builder.finish
        dsimp only
        split
        · rintro _ ⟨⟩ cause
          exact nofun
        · exact nofun

def unknownAndTabbed : String := "a QWidgit\n# c\nb\tLABEL\n"

theorem malformed_of_build_above :
    align unknownAndTabbed 6 = .error ⟨3, .tab⟩ ∧
      ∃ error, (build unknownAndTabbed "ui").outcome = .error error ∧
        error.place.map (·.line) = some 1 ∧ error.StopsBy ⟨3, .tab⟩ := by
  have aligned : align unknownAndTabbed 6 = .error ⟨3, .tab⟩ := by decide +kernel
  have alike := malformed_of_build .builtin unknownAndTabbed "ui" .empty 6
  rw [aligned] at alike
  obtain ⟨error, failed, stops⟩ := alike
  have first : (build unknownAndTabbed "ui").stop?.map (·.1) = some 1 := by decide +kernel
  refine ⟨aligned, error, failed, ?_, stops⟩
  rw [Builder.Result.stop?, build, failed] at first
  simpa [Option.map_map, Function.comp_def] using first

end WidgetOutline
