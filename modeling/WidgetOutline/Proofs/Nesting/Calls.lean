import WidgetOutline.Proofs.Nesting.Accepted

namespace WidgetOutline

def Call.child? : Call → Option ObjectId
  | addLayout child => some child
  | setLayout child => some child
  | addWidget child => some child
  | addTab child _ => some child
  | setWidget child => some child
  | _ => none

structure Exchange where
  call : Call
  answer : Except Refusal Unit

def Exchange.puts : Exchange → Bool
  | ⟨call, .ok _⟩ => call.child?.isSome
  | ⟨_, .error _⟩ => false

inductive Asks (target : ObjectId) : Heap → List Exchange → Heap → Prop
  | nothing {heap : Heap} : Asks target heap [] heap
  | call {heap next after : Heap} {call : Call} {answer : Except Refusal Unit}
      {later : List Exchange} (performed : heap.perform target call = (answer, next))
      (rest : Asks target next later after) : Asks target heap (⟨call, answer⟩ :: later) after

variable {heap next after : Heap} {target : ObjectId} {exchanges later : List Exchange}

namespace Asks

theorem append (first : Asks target heap exchanges next) (second : Asks target next later after) :
    Asks target heap (exchanges ++ later) after := by
  induction first with
  | nothing => exact second
  | call performed _ ih => exact .call performed (ih second)

theorem kept (P : Heap → Prop) (asks : Asks target heap exchanges after)
    (keeps : ∀ (call : Call) (heap : Heap), P heap → P (heap.perform target call).2)
    (holds : P heap) : P after := by
  induction asks with
  | nothing => exact holds
  | @call heap _ _ call _ _ performed _ ih =>
    have first := keeps call heap holds
    rw [performed] at first
    exact ih first

end Asks

theorem Heap.perform_scripted {script : Script} {made : List Call}
    (found : heap.get? target = some (.scripted script made)) (call : Call) :
    heap.perform target call =
      (script.answer call.method, heap.put target (.scripted script (made ++ [call]))) := by
  have notRow (child : ObjectId) :
      (heap.put target (.scripted script (made ++ [call]))).turnTaken target (.addWidget child) =
        heap.put target (.scripted script (made ++ [call])) := by
    simp [turnTaken, get?_put_self found, Object.isRow]
  unfold perform deliver
  simp only [found, answer]
  cases script.answer call.method with
  | error refusal => rfl
  | ok _ =>
    cases call with
    | addWidget child => exact congrArg (Prod.mk _) (notRow child)
    | _ => rfl

theorem Asks.transcript {script : Script} {made : List Call}
    (asks : Asks target heap exchanges after)
    (found : heap.get? target = some (.scripted script made)) :
    after.get? target = some (.scripted script (made ++ exchanges.map Exchange.call)) := by
  induction asks generalizing made with
  | nothing => simpa using found
  | @call heap _ _ call _ _ performed _ ih =>
    rw [Heap.perform_scripted found] at performed
    obtain ⟨-, rfl⟩ := Prod.mk.inj performed
    rw [ih (Heap.get?_put_self found _), List.map_cons, List.append_assoc, List.singleton_append]

/-- It takes content that it cannot let follow the size of its viewport, though it has the
property. -/
def Object.isStiff : Object → Bool
  | scripted script _ =>
    script.resizable.isSome && decide (script.answer .setWidget = .ok ()) &&
      decide (script.answer .setWidgetResizable ≠ .ok ())
  | _ => false

def Heap.isStiff (heap : Heap) (id : ObjectId) : Bool :=
  ((heap.get? id).map Object.isStiff).getD false

theorem Lasting.isStiff : Lasting Object.isStiff where
  accepted := fun accepts => by cases accepts <;> rfl
  recorded := fun _ _ _ => rfl

theorem Lasting.asks {α : Type} {view : Object → α} (lasting : Lasting view)
    (asks : Asks target heap exchanges after) (id : ObjectId) :
    (after.get? id).map view = (heap.get? id).map view :=
  asks.kept (fun next => (next.get? id).map view = (heap.get? id).map view)
    (fun call next same => (lasting.perform next target id call).trans same) rfl

theorem Asks.isStiff_eq {id : ObjectId} (asks : Asks target heap exchanges after) :
    after.isStiff id = heap.isStiff id :=
  congrArg (·.getD false) (Lasting.isStiff.asks asks id)

section

variable {parent child : ObjectId}

theorem exists_of_isStiff (stiff : heap.isStiff parent = true) :
    ∃ script made, heap.get? parent = some (.scripted script made) ∧
      script.resizable.isSome = true ∧ script.answer .setWidget = .ok () := by
  unfold Heap.isStiff at stiff
  cases found : heap.get? parent with
  | none => simp [found] at stiff
  | some object =>
    rw [found] at stiff
    cases object with
    | scripted script made =>
      simp only [Option.map_some, Option.getD_some, Object.isStiff, Bool.and_eq_true,
        decide_eq_true_eq] at stiff
      exact ⟨script, made, rfl, stiff.1⟩
    | _ => cases stiff

theorem not_isStiff_of_lacks (lacks : (heap.get? parent).bind Object.resizable? = none) :
    ¬ heap.isStiff parent = true := by
  intro stiff
  obtain ⟨script, made, found, property, -⟩ := exists_of_isStiff stiff
  rw [found] at lacks
  have none : script.resizable = none := lacks
  rw [none] at property
  cases property

theorem not_isStiff_of_refused {refusal : Refusal}
    (refused : heap.perform parent (.setWidget child) = (.error refusal, after)) :
    ¬ heap.isStiff parent = true := by
  intro stiff
  obtain ⟨script, made, found, -, accepts⟩ := exists_of_isStiff stiff
  rw [Heap.perform_scripted found] at refused
  cases accepts.symm.trans (Prod.mk.inj refused).1

theorem isStiff_of_took {resizable : Bool} {refusal : Refusal}
    (property : (heap.get? parent).bind Object.resizable? = some resizable)
    (took : heap.perform parent (.setWidget child) = (.ok (), next))
    (refused : next.perform parent (.setWidgetResizable true) = (.error refusal, after)) :
    heap.isStiff parent = true := by
  obtain ⟨object, answered, found, -, -⟩ := Heap.perform_ok took
  cases object with
  | scripted script made =>
    rw [found] at property
    have has : script.resizable = some resizable := property
    rw [Heap.perform_scripted found] at took
    obtain ⟨accepts, rfl⟩ := Prod.mk.inj took
    rw [Heap.perform_scripted (Heap.get?_put_self found _)] at refused
    have refuses := (Prod.mk.inj refused).1
    simp only [Call.method] at accepts refuses
    simp [Heap.isStiff, found, Object.isStiff, has, accepts, refuses]
  | _ =>
    have plain : ∀ object, heap.get? parent = some object → object.Plain := by
      intro object found'
      obtain rfl := Option.some.inj (found.symm.trans found')
      trivial
    obtain ⟨done, resized⟩ := setWidgetResizable_ok plain took
    cases resized.symm.trans refused

end

def Strategy.call (label : String) (child : ObjectId) : Strategy → Call
  | addLayout => .addLayout child
  | setLayout => .setLayout child
  | addWidget => .addWidget child
  | addTab => .addTab child label
  | setWidget => .setWidget child
  | addStretch => .addStretch

/-- What an attempt leaves in a parent: what the strategy put there that worked.  A stiff parent
keeps what it was handed last, though that did not work. -/
def leaves {ε : Type} (label : String) (stiff : Bool) (child : ObjectId) :
    Except ε Strategy → List Exchange
  | .ok strategy => [⟨strategy.call label child, .ok ()⟩]
  | .error _ => if stiff then [⟨.setWidget child, .ok ()⟩] else []

structure Puts (child : Child) (exchanges : List Exchange) (put : ObjectId → List Exchange) :
    Prop where
  only : ∀ exchange ∈ exchanges, ∀ id ∈ exchange.call.child?, child = .object id
  put : ∀ id, child = .object id → exchanges.filter Exchange.puts = put id

variable {parent : ObjectId} {label : String}

theorem setResizableContent_asks {child : ObjectId} {outcome : Except Refusal Unit}
    (done : setResizableContent heap parent child = (outcome, after)) :
    ∃ exchanges, Asks parent heap exchanges after ∧ Puts (.object child) exchanges fun id =>
      leaves label (heap.isStiff parent) id (outcome.map fun _ => .setWidget) := by
  unfold setResizableContent at done
  split at done
  · rename_i lacks
    cases done
    refine ⟨[], .nothing, by simp, fun id _ => ?_⟩
    simp [Except.map, leaves, not_isStiff_of_lacks lacks]
  · rename_i resizable property
    split at done
    · rename_i refusal next refused
      cases done
      refine ⟨[⟨.setWidget child, .error refusal⟩], .call refused .nothing, ?_, fun id _ => ?_⟩
      · simp [Call.child?]
      · simp [Except.map, leaves, Exchange.puts, not_isStiff_of_refused refused]
    · rename_i next took
      have both (answer : Except Refusal Unit)
          (resized : next.perform parent (.setWidgetResizable true) = (answer, after))
          (left : leaves label (heap.isStiff parent) child (outcome.map fun _ => .setWidget) =
            [⟨.setWidget child, .ok ()⟩]) :
          ∃ exchanges, Asks parent heap exchanges after ∧ Puts (.object child) exchanges fun id =>
            leaves label (heap.isStiff parent) id (outcome.map fun _ => .setWidget) := by
        refine ⟨[⟨.setWidget child, .ok ()⟩, ⟨.setWidgetResizable true, answer⟩],
          .call took (.call resized .nothing), by simp [Call.child?], ?_⟩
        rintro id ⟨⟩
        rw [left]
        cases answer <;> rfl
      split at done
      · rename_i resized
        cases done
        exact both _ resized rfl
      · rename_i refused
        cases done
        exact both _ refused (if_pos (isStiff_of_took property took refused))

theorem perform_asks {strategy : Strategy} {child : ObjectId} {outcome : Except Refusal Unit}
    (other : strategy ≠ .setWidget) (hands : (strategy.call label child).child? = some child)
    (done : heap.perform parent (strategy.call label child) = (outcome, after)) :
    ∃ exchanges, Asks parent heap exchanges after ∧ Puts (.object child) exchanges fun id =>
      leaves label (strategy = .setWidget && heap.isStiff parent) id
        (outcome.map fun _ => strategy) := by
  refine ⟨[⟨strategy.call label child, outcome⟩], .call done .nothing, by simp [hands], ?_⟩
  rintro id ⟨⟩
  cases outcome <;> simp [Except.map, leaves, Exchange.puts, hands, other]

theorem Strategy.perform_asks {strategy : Strategy} {child : Child}
    {outcome : Except Refusal Unit}
    (done : strategy.perform parent label heap child = (outcome, after)) :
    ∃ exchanges, Asks parent heap exchanges after ∧ Puts child exchanges fun id =>
      leaves label (strategy = .setWidget && heap.isStiff parent) id
        (outcome.map fun _ => strategy) := by
  cases child with
  | stretch =>
    cases strategy with
    | addStretch =>
      refine ⟨[⟨.addStretch, outcome⟩], .call done .nothing, by simp [Call.child?], ?_⟩
      rintro id ⟨⟩
    | _ =>
      cases done
      refine ⟨[], .nothing, by simp, ?_⟩
      rintro id ⟨⟩
  | object child =>
    cases strategy with
    | setWidget => exact setResizableContent_asks done
    | addStretch =>
      cases done
      exact ⟨[], .nothing, by simp, fun _ _ => rfl⟩
    | _ => exact WidgetOutline.perform_asks (by decide) rfl done

variable {child : Child} {name : String} {scene done : Scene}
  {outcome : Except AttachError Strategy}

theorem attachBy_asks {strategies : List Strategy} {tried : List (Strategy × Refusal)}
    (last : strategies.Pairwise fun earlier _ => earlier ≠ .setWidget)
    (attached : attachBy child name parent strategies tried scene = (outcome, done)) :
    ∃ exchanges, Asks parent scene.heap exchanges done.heap ∧ Puts child exchanges fun id =>
      leaves scene.tabs.next (decide (.setWidget ∈ strategies) && scene.heap.isStiff parent) id
        outcome := by
  induction strategies generalizing tried scene with
  | nil =>
    cases attached
    exact ⟨[], .nothing, by simp, fun _ _ => rfl⟩
  | cons first later ih =>
    obtain ⟨notLast, last⟩ := List.pairwise_cons.1 last
    unfold attachBy at attached
    split at attached
    · rename_i heap works
      cases attached
      obtain ⟨exchanges, asks, puts⟩ := Strategy.perform_asks works
      exact ⟨exchanges, asks, puts⟩
    · rename_i refusal heap refused
      obtain ⟨exchanges, asks, puts⟩ := Strategy.perform_asks refused
      obtain ⟨others, asks', puts'⟩ := ih last attached
      refine ⟨exchanges ++ others, asks.append asks', ?_, fun id same => ?_⟩
      · intro exchange member
        exact (List.mem_append.1 member).elim (puts.only exchange) (puts'.only exchange)
      · rw [List.filter_append, puts.put id same, puts'.put id same]
        have stiff : heap.isStiff parent = scene.heap.isStiff parent := asks.isStiff_eq
        -- Only giving content can leave the child behind, and that is tried last.
        by_cases content : first = .setWidget
        · obtain rfl : later = [] :=
            List.eq_nil_iff_forall_not_mem.2 fun strategy member => notLast strategy member content
          cases attached
          simp [leaves, content, Except.map]
        · have others : Strategy.setWidget ∈ first :: later ↔ Strategy.setWidget ∈ later := by
            simp [Ne.symm content]
          simp [leaves, content, Except.map, others, stiff, Scene.record]

theorem attach_asks (different : child ≠ .object parent)
    (attached : attach child name parent scene = (outcome, done)) :
    ∃ exchanges, Asks parent scene.heap exchanges done.heap ∧ Puts child exchanges fun id =>
      leaves scene.tabs.next (scene.heap.isStiff parent) id outcome := by
  unfold attach at attached
  rw [if_neg different] at attached
  have last : child.strategies.Pairwise fun earlier _ => earlier ≠ .setWidget := by
    cases child <;> simp [Child.strategies]
  obtain ⟨exchanges, asks, puts⟩ := attachBy_asks last attached
  refine ⟨exchanges, asks, puts.only, ?_⟩
  rintro id rfl
  simpa [Child.strategies] using puts.put id rfl

theorem attach_kept (P : Heap → Prop)
    (keeps : ∀ (call : Call) (heap : Heap), P heap → P (heap.perform parent call).2)
    (holds : P scene.heap) (attached : attach child name parent scene = (outcome, done)) :
    P done.heap := by
  by_cases same : child = .object parent
  · unfold attach at attached
    rw [if_pos same] at attached
    cases attached
    exact holds
  · obtain ⟨exchanges, asks, -⟩ := attach_asks same attached
    exact asks.kept P keeps holds

theorem kindOf_attach (attached : attach child name parent scene = (outcome, done))
    (id : ObjectId) : done.heap.kindOf id = scene.heap.kindOf id :=
  attach_kept (fun heap => heap.kindOf id = scene.heap.kindOf id)
    (fun call heap same => (heap.kindOf_perform parent id call).trans same) rfl attached

theorem puts_of_attach {child : ObjectId} (different : child ≠ parent)
    (attached : attach (.object child) name parent scene = (outcome, done)) :
    ∃ exchanges, Asks parent scene.heap exchanges done.heap ∧
      (∀ script made, scene.heap.get? parent = some (.scripted script made) →
        done.heap.get? parent = some (.scripted script (made ++ exchanges.map Exchange.call))) ∧
      (∀ exchange ∈ exchanges, ∀ id ∈ exchange.call.child?, id = child) ∧
      exchanges.filter Exchange.puts = match outcome with
        | .ok strategy => [⟨strategy.call scene.tabs.next child, .ok ()⟩]
        | .error _ =>
          if scene.heap.isStiff parent then [⟨.setWidget child, .ok ()⟩] else [] := by
  obtain ⟨exchanges, asks, puts⟩ :=
    attach_asks (fun same => different (Child.object.inj same)) attached
  refine ⟨exchanges, asks, fun script made found => asks.transcript found,
    fun exchange member id handed => ?_, ?_⟩
  · exact (Child.object.inj (puts.only exchange member id handed)).symm
  · rw [puts.put child rfl]
    cases outcome <;> rfl

def viewAndPage (answers : List (Method × Answer)) (resizable : Option Bool) : Scene :=
  .start ⟨#[.scripted ⟨"FixedView", .widget, answers, resizable⟩ [],
    .widget none (.caption "QLabel" none)]⟩

theorem puts_of_attach_tab :
    let scene := viewAndPage [(.addTab, .accept)] none
    ∃ done exchanges, attach (.object ⟨1⟩) "page" ⟨0⟩ scene = (.ok .addTab, done) ∧
      Asks ⟨0⟩ scene.heap exchanges done.heap ∧
      exchanges.filter Exchange.puts = [⟨.addTab ⟨1⟩ TabLabels.start.next, .ok ()⟩] := by
  intro scene
  let done := (attach (.object ⟨1⟩) "page" ⟨0⟩ scene).2
  have attached : attach (.object ⟨1⟩) "page" ⟨0⟩ scene = (.ok .addTab, done) := rfl
  obtain ⟨exchanges, asks, -, -, puts⟩ := puts_of_attach (by decide) attached
  exact ⟨done, exchanges, attached, asks, puts⟩

theorem not_empty_of_attach_error :
    ¬ ∀ (child parent : ObjectId) (name : String) (scene done : Scene) (error : AttachError)
      (script : Script) (made : List Call) (exchanges : List Exchange), child ≠ parent →
      scene.heap.get? parent = some (.scripted script made) →
      attach (.object child) name parent scene = (.error error, done) →
      Asks parent scene.heap exchanges done.heap →
      done.heap.get? parent = some (.scripted script (made ++ exchanges.map Exchange.call)) →
      exchanges.filter Exchange.puts = [] := by
  intro claim
  let scene := viewAndPage [(.setWidget, .accept)] (some false)
  obtain ⟨error, failed⟩ :
      ∃ error, (attach (.object ⟨1⟩) "page" ⟨0⟩ scene).1 = .error error := ⟨_, rfl⟩
  have attached : attach (.object ⟨1⟩) "page" ⟨0⟩ scene = (.error error, _) :=
    Prod.ext failed rfl
  obtain ⟨exchanges, asks, puts⟩ := attach_asks (by decide) attached
  have empty := claim _ _ _ _ _ _ _ _ exchanges (by decide) rfl attached asks (asks.transcript rfl)
  have kept := puts.put _ rfl
  rw [empty] at kept
  cases kept

end WidgetOutline
