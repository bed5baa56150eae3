import WidgetOutline.Proofs.Nesting.Calls

namespace WidgetOutline

namespace Script

/-- The calls that a strategy makes.  For content to follow the size of the viewport takes a second
call, and a parent without that property is not asked at all. -/
def callsOf (script : Script) (label : String) (child : ObjectId) : Strategy → List Call
  | .setWidget =>
    if script.resizable = none then []
    else if script.answer .setWidget = .ok () then [.setWidget child, .setWidgetResizable true]
    else [.setWidget child]
  | strategy => [strategy.call label child]

def outcomeOf (script : Script) : Strategy → Except Refusal Unit
  | .setWidget =>
    match script.resizable, script.answer .setWidget, script.answer .setWidgetResizable with
    | none, _, _ => .error .unsupported
    | some _, .error refusal, _ => .error refusal
    | some _, .ok _, .error _ => .error .notResizable
    | some _, .ok _, .ok _ => .ok ()
  | strategy => script.answer strategy.method

end Script

variable {heap : Heap} {scene : Scene} {parent child : ObjectId} {label name : String}
  {script : Script} {made : List Call}

theorem setResizableContent_scripted (found : heap.get? parent = some (.scripted script made)) :
    setResizableContent heap parent child = (script.outcomeOf .setWidget,
      heap.put parent (.scripted script (made ++ script.callsOf label child .setWidget))) := by
  have asked := Heap.perform_scripted found (.setWidget child)
  have taken := Heap.get?_put_self found (.scripted script (made ++ [.setWidget child]))
  have again := Heap.perform_scripted taken (.setWidgetResizable true)
  have property : (heap.get? parent).bind Object.resizable? = script.resizable := by
    rw [found]
    rfl
  unfold setResizableContent
  simp only [property, Script.outcomeOf, Script.callsOf]
  cases has : script.resizable with
  | none => simp [Heap.put_same found]
  | some resizable =>
    cases takes : script.answer .setWidget with
    | error refusal =>
      rw [asked]
      simp [Call.method, takes]
    | ok _ =>
      rw [asked]
      simp only [Call.method, takes]
      rw [again]
      cases resizes : script.answer .setWidgetResizable with
      | error refusal => simp [Call.method, resizes, Heap.put_put]
      | ok _ => simp [Call.method, resizes, Heap.put_put]

theorem Strategy.perform_scripted {strategy : Strategy} (notStretch : strategy ≠ .addStretch)
    (found : heap.get? parent = some (.scripted script made)) :
    strategy.perform parent label heap (.object child) = (script.outcomeOf strategy,
      heap.put parent (.scripted script (made ++ script.callsOf label child strategy))) := by
  cases strategy with
  | setWidget => exact setResizableContent_scripted found
  | addStretch => exact absurd rfl notStretch
  | _ => exact Heap.perform_scripted found _

/-- The outcome of an attempt is the last strategy that was probed if that is the first that works.
If none works, all were probed, and `report` is given the refusal of each. -/
def Script.Ends (script : Script) (probed later : List Strategy)
    (report : List (Strategy × Refusal) → AttachError) : Except AttachError Strategy → Prop
  | .ok strategy => ∃ earlier, probed = earlier ++ [strategy] ∧
      (∀ other ∈ earlier, ∃ refusal, script.outcomeOf other = .error refusal) ∧
      script.outcomeOf strategy = .ok ()
  | .error error => later = [] ∧ ∃ refusals, probed.map script.outcomeOf = refusals.map .error ∧
      error = report (probed.zip refusals)

theorem Script.Ends.refused {strategy : Strategy} {refusal : Refusal} {probed later : List Strategy}
    {report : List (Strategy × Refusal) → AttachError} {outcome : Except AttachError Strategy}
    (refuses : script.outcomeOf strategy = .error refusal)
    (ends : script.Ends probed later (fun rest => report ((strategy, refusal) :: rest)) outcome) :
    script.Ends (strategy :: probed) later report outcome := by
  cases outcome with
  | ok winner =>
    obtain ⟨earlier, rfl, others, works⟩ := ends
    refine ⟨strategy :: earlier, rfl, ?_, works⟩
    simpa using ⟨⟨refusal, refuses⟩, others⟩
  | error error =>
    obtain ⟨all, refusals, refused, rfl⟩ := ends
    exact ⟨all, refusal :: refusals, by simp [refuses, refused], rfl⟩

theorem classOf_put_scripted (found : heap.get? parent = some (.scripted script made))
    (calls : List Call) (id : ObjectId) :
    (heap.put parent (.scripted script calls)).classOf id = heap.classOf id := by
  have same : ((heap.put parent (.scripted script calls)).get? id).map Object.className =
      (heap.get? id).map Object.className := Heap.map_get?_put found rfl
  rw [Heap.classOf, same, Heap.classOf]

theorem classOf_scripted (found : heap.get? parent = some (.scripted script made)) :
    heap.classOf parent = script.className := by
  rw [Heap.classOf, found]
  rfl

theorem attachBy_scripted {strategies : List Strategy} {tried : List (Strategy × Refusal)}
    {outcome : Except AttachError Strategy} {done : Scene} (notStretch : .addStretch ∉ strategies)
    (found : scene.heap.get? parent = some (.scripted script made))
    (attached : attachBy (.object child) name parent strategies tried scene = (outcome, done)) :
    ∃ probed later, strategies = probed ++ later ∧
      done.heap = scene.heap.put parent
        (.scripted script (made ++ probed.flatMap (script.callsOf scene.tabs.next child))) ∧
      script.Ends probed later (fun refused => .noStrategy name (scene.heap.classOf child)
        script.className (tried ++ refused)) outcome := by
  induction strategies generalizing made scene tried with
  | nil =>
    cases attached
    refine ⟨[], [], rfl, ?_, rfl, [], rfl, ?_⟩
    · simp [Heap.put_same found]
    · simp [Child.className, classOf_scripted found]
  | cons strategy strategies ih =>
    rw [List.mem_cons, not_or] at notStretch
    unfold attachBy at attached
    rw [Strategy.perform_scripted (Ne.symm notStretch.1) found] at attached
    cases outcome : script.outcomeOf strategy with
    | ok _ =>
      rw [outcome] at attached
      cases attached
      exact ⟨[strategy], strategies, rfl, by simp [Scene.record], [], rfl, by simp, outcome⟩
    | error refusal =>
      rw [outcome] at attached
      obtain ⟨probed, later, rfl, calls, ends⟩ :=
        ih notStretch.2 (Heap.get?_put_self found _) attached
      refine ⟨strategy :: probed, later, rfl, ?_, .refused outcome ?_⟩
      · rw [calls]
        simp [Scene.record, Heap.put_put]
      · simpa [Scene.record, classOf_put_scripted found] using ends

theorem probes_of_attach (found : scene.heap.get? parent = some (.scripted script made)) :
    (∀ child outcome done, child ≠ parent →
      attach (.object child) name parent scene = (outcome, done) →
      ∃ probed later, [.addLayout, .setLayout, .addWidget, .addTab, .setWidget] = probed ++ later ∧
        done.heap = scene.heap.put parent
          (.scripted script (made ++ probed.flatMap (script.callsOf scene.tabs.next child))) ∧
        script.Ends probed later
          (.noStrategy name (scene.heap.classOf child) script.className) outcome) ∧
    ∀ outcome done, attach .stretch name parent scene = (outcome, done) →
      done.heap = scene.heap.put parent (.scripted script (made ++ [.addStretch])) ∧
      outcome = match script.answer .addStretch with
        | .ok _ => .ok .addStretch
        | .error refusal =>
          .error (.noStrategy name "stretch" script.className [(.addStretch, refusal)]) := by
  refine ⟨fun child outcome done different attached => ?_, fun outcome done attached => ?_⟩
  · unfold attach at attached
    rw [if_neg fun same => different (Child.object.inj same)] at attached
    exact attachBy_scripted (by simp [Child.strategies]) found attached
  · have performed : Strategy.addStretch.perform parent scene.tabs.next scene.heap .stretch =
        (script.answer .addStretch,
          scene.heap.put parent (.scripted script (made ++ [.addStretch]))) :=
      Heap.perform_scripted found .addStretch
    have asked := Heap.get?_put_self found (.scripted script (made ++ [.addStretch]))
    simp only [attach, reduceCtorEq, if_false, Child.strategies, attachBy, performed] at attached
    cases answer : script.answer .addStretch with
    | ok _ =>
      rw [answer] at attached
      cases attached
      exact ⟨rfl, rfl⟩
    | error refusal =>
      rw [answer] at attached
      cases attached
      exact ⟨rfl, by simp [Child.className, Scene.record, classOf_scripted asked]⟩

theorem probes_of_attach_stiff :
    let scene := viewAndPage [(.setLayout, .refuse "full"), (.setWidget, .accept)] (some false)
    ∃ script done, scene.heap.get? ⟨0⟩ = some (.scripted script []) ∧
      attach (.object ⟨1⟩) "page" ⟨0⟩ scene = (.error (.noStrategy "page" "QLabel" "FixedView"
        [(.addLayout, .unsupported), (.setLayout, .mismatch "full"), (.addWidget, .unsupported),
          (.addTab, .unsupported), (.setWidget, .notResizable)]), done) ∧
      done.heap = scene.heap.put ⟨0⟩ (.scripted script [.addLayout ⟨1⟩, .setLayout ⟨1⟩,
        .addWidget ⟨1⟩, .addTab ⟨1⟩ scene.tabs.next, .setWidget ⟨1⟩, .setWidgetResizable true]) := by
  intro scene
  let script : Script := ⟨"FixedView", .widget,
    [(.setLayout, .refuse "full"), (.setWidget, .accept)], some false⟩
  have found : scene.heap.get? ⟨0⟩ = some (.scripted script []) := rfl
  have failed : (attach (.object ⟨1⟩) "page" ⟨0⟩ scene).1 =
      .error (.noStrategy "page" "QLabel" "FixedView" [(.addLayout, .unsupported),
        (.setLayout, .mismatch "full"), (.addWidget, .unsupported), (.addTab, .unsupported),
        (.setWidget, .notResizable)]) := by decide +kernel
  cases attached : attach (.object ⟨1⟩) "page" ⟨0⟩ scene with
  | mk outcome done =>
    obtain ⟨probed, later, order, calls, ends⟩ :=
      (probes_of_attach found).1 ⟨1⟩ outcome done (by decide) attached
    rw [attached] at failed
    subst failed
    obtain ⟨rfl, -⟩ := ends
    rw [List.append_nil] at order
    subst order
    exact ⟨script, done, found, rfl, calls⟩

end WidgetOutline
