import Mathlib.Data.Finset.Dedup
import SceneGraph.Proofs.Scene.Evaluation

/-!
Builds from their parts. Builds are made of a few programs: results, faults, reports, looks at the
sources under expansion, expansions and requests for documents, one after the other. A statement
about builds and values that these programs keep holds of the forest of every node.
-/
namespace SceneGraph
open Setting

def Builder.setting {σ : Type} (builder : Builder σ) (answers : Answers) : Setting :=
  ⟨builder.registry, answers, builder.maxDepth⟩

namespace Event

/-- The source of the document that an event says is being loaded. -/
def template? : Event → Option String
  | loadingTemplate source => some source
  | _ => none

/-- The sources of the documents that are loaded according to the reports. -/
def templates (events : List Event) : List String := events.filterMap template?

end Event

/-- What is reported of a component: nothing, or that it is unknown or refused. -/
theorem Registry.reports_record (registry : Registry) (node : String) (stamp : Stamp)
    (name : String) (data : Tree) (holds : List Event → Prop) (silent : holds [])
    (unknown : holds [.unknownComponent node name])
    (rejected : ∀ error, holds [.rejectedComponent node name error]) :
    holds (registry.record node stamp name data).2 := by
  unfold Registry.record
  cases registry.lookup? name with
  | none => exact unknown
  | some constructor =>
    dsimp only
    split
    · exact silent
    · exact rejected _

/-- What is reported of a node that is skipped. -/
theorem reports_recognise {name : String} {tree : Tree} {event : Event}
    (skipped : recognise name tree = .error event) (holds : Event → Prop)
    (shape : ∀ found, holds (.skippedShape name found)) (untyped : holds (.skippedUntyped name))
    (kind : ∀ kindName, holds (.skippedKind name kindName)) : holds event := by
  unfold recognise at skipped
  split at skipped
  · cases skipped
    exact shape _
  · split at skipped
    · cases skipped
      exact untyped
    · split at skipped <;> cases skipped
      exact kind _

theorem Registry.templates_record (registry : Registry) (node : String) (stamp : Stamp)
    (name : String) (data : Tree) :
    Event.templates (registry.record node stamp name data).2 = [] :=
  registry.reports_record node stamp name data (fun events => Event.templates events = [])
    rfl rfl fun _ => rfl

theorem templates_recognise {name : String} {tree : Tree} {event : Event}
    (skipped : recognise name tree = .error event) : Event.templates [event] = [] :=
  reports_recognise skipped (fun event => Event.templates [event] = [])
    (fun _ => rfl) rfl fun _ => rfl

/-- `yields build value` is kept by what builds that do nothing but report are made of. The loading
of templates is not among what they report. -/
structure Build.Reporting {σ : Type}
    (yields : {α : Type} → Build σ α → Except BuildError α → Prop) : Prop where
  pure : ∀ {α : Type} (value : α), yields (Pure.pure value) (.ok value)
  bind : ∀ {α β : Type} {build : Build σ α} {next : α → Build σ β}
    {value : Except BuildError α} {nextValue : α → Except BuildError β},
    yields build value → (∀ result, yields (next result) (nextValue result)) →
      yields (build >>= next) (value >>= nextValue)
  report : ∀ events : List Event, Event.templates events = [] →
    yields (Build.report events) (.ok ())

namespace Build.Reporting

variable {σ : Type} {yields : {α : Type} → Build σ α → Except BuildError α → Prop}
  (rules : Reporting yields) (setting : Setting)
include rules

theorem reported {α : Type} (events : List Event) (plain : Event.templates events = [])
    {next : Build σ α} {value : Except BuildError α} (rest : yields next value) :
    yields (Build.report events >>= fun _ => next) value :=
  rules.bind (rules.report events plain) fun _ => rest

theorem recordAll (node : String) (declared : List (String × Tree)) (stamp : Stamp) :
    yields (Build.recordAll setting.registry node stamp declared)
      (.ok (setting.recorded node declared stamp)) := by
  induction declared generalizing stamp with
  | nil => exact rules.pure stamp
  | cons entry rest ih =>
    unfold Build.recordAll
    exact rules.reported _ (setting.registry.templates_record ..) (ih _)

theorem applyDefault (node name : String) (data : Tree) (forest : List Blueprint) :
    yields (Build.applyDefault setting.registry node name data forest)
      (.ok (forest.map fun blueprint =>
        { blueprint with stamp := setting.recorded node [(name, data)] blueprint.stamp })) := by
  induction forest with
  | nil => exact rules.pure []
  | cons blueprint rest ih =>
    unfold Build.applyDefault
    exact rules.reported _ (setting.registry.templates_record ..)
      (rules.bind ih fun _ => rules.pure _)

theorem applyDefaults (node : String) (declared : List (String × Tree))
    (forest : List Blueprint) :
    yields (Build.applyDefaults setting.registry node forest declared)
      (.ok (forest.map fun blueprint =>
        { blueprint with stamp := setting.recorded node declared blueprint.stamp })) := by
  induction declared generalizing forest with
  | nil =>
    have unchanged : ∀ blueprint : Blueprint,
        { blueprint with stamp := setting.recorded node [] blueprint.stamp } = blueprint := by
      rintro ⟨stamp, children⟩
      rfl
    rw [List.map_id'' unchanged]
    exact rules.pure forest
  | cons entry rest ih =>
    unfold Build.applyDefaults
    have both : yields _ (.ok ((forest.map _).map _)) :=
      rules.bind (rules.applyDefault setting node entry.1 entry.2 forest) fun result => ih result
    rw [List.map_map] at both
    exact both

end Build.Reporting

/-- `yields expanding build value` is kept by what builds inside the expansion of sources are made
of. -/
structure Build.Rules {σ : Type} (loader : Loader σ) (answers : Answers)
    (yields : {α : Type} → List String → Build σ α → Except BuildError α → Prop) : Prop where
  pure : ∀ {α : Type} (expanding : List String) (value : α),
    yields expanding (Pure.pure value) (.ok value)
  throw : ∀ {α : Type} (expanding : List String) (error : BuildError),
    yields (α := α) expanding (MonadExcept.throw error) (.error error)
  bind : ∀ {α β : Type} {expanding : List String} {build : Build σ α} {next : α → Build σ β}
    {value : Except BuildError α} {nextValue : α → Except BuildError β},
    yields expanding build value → (∀ result, yields expanding (next result) (nextValue result)) →
      yields expanding (build >>= next) (value >>= nextValue)
  report : ∀ (expanding : List String) (events : List Event), Event.templates events = [] →
    yields expanding (Build.report events) (.ok ())
  look : ∀ {α : Type} {expanding : List String} (next : List String → Build σ α)
    {value : Except BuildError α}, yields expanding (next expanding) value →
      yields expanding (get >>= fun progress => next progress.expanding) value
  loadTemplate : ∀ (expanding : List String) (source : String),
    yields expanding (Build.loadTemplate loader source) (answers.document source)
  within : ∀ {α : Type} {expanding : List String} {source : String} {build : Build σ α}
    {value : Except BuildError α}, yields (source :: expanding) build value →
      yields expanding (Build.within source build) value

namespace Build.Rules

variable {σ : Type} {loader : Loader σ} {answers : Answers}
  {yields : {α : Type} → List String → Build σ α → Except BuildError α → Prop}
  (rules : Rules loader answers yields) {expanding : List String}
include rules

theorem andThen {α β : Type} {build : Build σ α} {next : α → Build σ β} {result : α}
    {nextValue : α → Except BuildError β} (first : yields expanding build (.ok result))
    (rest : ∀ other, yields expanding (next other) (nextValue other)) :
    yields expanding (build >>= next) (nextValue result) :=
  rules.bind first rest

theorem reporting (expanding : List String) : Reporting fun {α} => yields (α := α) expanding :=
  ⟨rules.pure expanding, rules.bind, rules.report expanding⟩

theorem reported {α : Type} (events : List Event) (plain : Event.templates events = [])
    {next : Build σ α} {value : Except BuildError α} (rest : yields expanding next value) :
    yields expanding (Build.report events >>= fun _ => next) value :=
  (rules.reporting expanding).reported events plain rest

variable (setting : Setting)

section Nodes
variable {visit : String → Tree → Build σ (List Blueprint)}
  {value : String → Tree → Except BuildError (List Blueprint)}
  (visits : ∀ name tree, yields expanding (visit name tree) (value name tree))
include visits

theorem entries (nodes : List (String × Tree)) :
    yields expanding (Build.entries visit nodes) (inOrder value nodes) := by
  induction nodes with
  | nil => exact rules.pure expanding []
  | cons node rest ih =>
    rw [inOrder_cons]
    exact rules.bind (visits node.1 node.2) fun _ =>
      rules.bind ih fun _ => rules.pure expanding _

theorem nodeList (tree : Tree) :
    yields expanding (Build.nodeList visit tree) (inOrder value tree.nodes) := by
  cases tree with
  | map fields => exact rules.entries visits fields.entries
  | null => exact rules.pure expanding []
  | scalar scalar => exact rules.reported _ rfl (rules.pure expanding [])
  | sequence items => exact rules.reported _ rfl (rules.pure expanding [])

theorem children (fields : OrderedMap Tree) :
    yields expanding (Build.children visit fields)
      (inOrder value (mapField fields "children")) := by
  rw [Tree.mapField_eq]
  unfold Build.children
  cases fields.get? "children" with
  | none => exact rules.pure expanding []
  | some list => exact rules.nodeList visits list

end Nodes

section Kinds
variable {visit : String → Tree → Build σ (List Blueprint)}
  {value : Finset String → String → Tree → Except BuildError (List Blueprint)}

theorem entity (visits : ∀ name tree,
      yields expanding (visit name tree) (value expanding.toFinset name tree))
    (name : String) (fields : OrderedMap Tree) :
    yields expanding (Build.entity setting.registry visit name fields)
      (setting.entityBlueprint value expanding.toFinset name (mapField fields "components")
        (mapField fields "children")) :=
  rules.andThen ((rules.reporting expanding).recordAll setting name _ _) fun _ =>
    rules.bind (rules.children visits fields) fun _ => rules.pure expanding _

theorem group (visits : ∀ name tree,
      yields expanding (visit name tree) (value expanding.toFinset name tree))
    (name : String) (fields : OrderedMap Tree) :
    yields expanding (Build.group setting.registry visit name fields)
      (setting.groupForest value expanding.toFinset name (mapField fields "defaults")
        (mapField fields "children")) :=
  rules.bind (rules.children visits fields) fun forest =>
    (rules.reporting expanding).applyDefaults setting name _ forest

/-- The source is among those under expansion while its root is visited and not any more when the
children at the place of use are. -/
theorem expansion (answered : setting.answers = answers)
    (visits : ∀ expanding name tree,
      yields expanding (visit name tree) (value expanding.toFinset name tree))
    (name : String) {fields : OrderedMap Tree} {source : String}
    (declared : scalarField fields "source" = some source) :
    yields expanding (Build.template loader visit name fields)
      (setting.templateBlueprint value expanding.toFinset name source
        (mapField fields "children")) := by
  unfold Build.template templateBlueprint
  rw [declared]
  refine rules.look (fun stack => if source ∈ stack then _ else _) ?_
  simp only [List.mem_toFinset]
  split
  · exact rules.throw expanding _
  · rw [answered]
    refine rules.bind (rules.loadTemplate expanding source) fun document => ?_
    cases templateRoot? document with
    | none => exact rules.reported _ rfl (rules.pure expanding _)
    | some root =>
      have built := visits (source :: expanding) root.1 root.2
      rw [List.toFinset_cons] at built
      exact rules.bind (rules.within built) fun _ =>
        rules.bind (rules.children (visits expanding) fields) fun _ => rules.pure expanding _

theorem template (answered : setting.answers = answers)
    (visits : ∀ expanding name tree,
      yields expanding (visit name tree) (value expanding.toFinset name tree))
    (name : String) (fields : OrderedMap Tree) :
    yields expanding (do return [← Build.template loader visit name fields])
      (setting.declarationForest value expanding.toFinset name (.ofFields fields .template)) := by
  unfold Declaration.ofFields
  cases declared : scalarField fields "source" with
  | none =>
    unfold Build.template
    rw [declared]
    have empty : yields expanding _ (.ok Blueprint.empty) :=
      rules.reported [.sourceMissing name] rfl (rules.pure expanding _)
    exact rules.bind empty fun _ => rules.pure expanding _
  | some source =>
    exact rules.bind (rules.expansion setting answered visits name declared) fun _ =>
      rules.pure expanding _

end Kinds

theorem node {builder : Builder σ} (same : builder.loader = loader) (levels : Nat)
    (expanding : List String) (name : String) (tree : Tree) :
    yields expanding (Build.node builder levels name tree)
      ((builder.setting answers).nodeForest levels expanding.toFinset name tree) := by
  subst same
  -- For all stacks at once: the root of a source is visited inside one more.
  induction levels generalizing expanding name tree with
  | zero =>
    unfold Build.node
    cases recognised : recognise name tree with
    | error event =>
      rw [nodeForest_skipped (recognise_error recognised)]
      exact rules.reported _ (templates_recognise recognised) (rules.pure expanding [])
    | ok found =>
      rw [nodeForest_zero (recognise_ok recognised)]
      exact rules.throw expanding _
  | succ levels ih =>
    unfold Build.node
    cases recognised : recognise name tree with
    | error event =>
      rw [nodeForest_skipped (recognise_error recognised)]
      exact rules.reported _ (templates_recognise recognised) (rules.pure expanding [])
    | ok found =>
      obtain ⟨kind, fields⟩ := found
      rw [nodeForest_succ (recognise_ok recognised)]
      refine rules.reported _ rfl ?_
      cases kind with
      | entity =>
        exact rules.bind (rules.entity (builder.setting answers) (ih expanding) name fields)
          fun _ => rules.pure expanding _
      | group => exact rules.group (builder.setting answers) (ih expanding) name fields
      | template => exact rules.template (builder.setting answers) rfl ih name fields

theorem buildTree {builder : Builder σ} (same : builder.loader = loader) (tree : Tree) :
    yields [] (builder.buildTree tree) ((builder.setting answers).forest tree) :=
  rules.nodeList (rules.node same builder.maxDepth []) tree

end Build.Rules
end SceneGraph
