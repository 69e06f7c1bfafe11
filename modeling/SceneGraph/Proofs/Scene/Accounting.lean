import SceneGraph.Proofs.Scene.Echo
import SceneGraph.Proofs.Scene.Growth
import SceneGraph.Scene.Document

/-!
Every entity of a forest is reported once. A build reports an entity node when it comes to it and an
empty blueprint when it makes one for a template; groups and templates that are expanded only pass
on what is made below them. So the reports of a build that succeeds count the entities that its
forest becomes.
-/
namespace SceneGraph

variable {σ α β : Type}

namespace Event

def loadsEntity : Event → Bool
  | loadingNode .entity _ _ => true
  | _ => false

def warnsOfEmpty : Event → Bool
  | sourceMissing _ | rootMissing _ _ => true
  | _ => false

/-- The entity nodes and the empty blueprints that are reported. -/
def tally (events : List Event) : Nat := events.countP loadsEntity + events.countP warnsOfEmpty

theorem tally_append (events others : List Event) :
    tally (events ++ others) = tally events + tally others := by
  unfold tally
  rw [List.countP_append, List.countP_append]
  omega

end Event

theorem Registry.tally_record (registry : Registry) (node : String) (stamp : Stamp) (name : String)
    (data : Tree) : Event.tally (registry.record node stamp name data).2 = 0 :=
  registry.reports_record node stamp name data (fun events => Event.tally events = 0)
    rfl rfl fun _ => rfl

theorem tally_recognise {name : String} {tree : Tree} {event : Event}
    (skipped : recognise name tree = .error event) : Event.tally [event] = 0 :=
  reports_recognise skipped (fun event => Event.tally [event] = 0) (fun _ => rfl) rfl fun _ => rfl

namespace Loader

/-- The loader reports no nodes and no blueprints of its own. -/
def Quiet (loader : Loader σ) : Prop :=
  ∀ name state, Event.tally (loader.load name state).events = 0

/-- The loader without what it reports. -/
def muted (loader : Loader σ) : Loader σ where
  load name state := { loader.load name state with events := [] }

theorem quiet_muted (loader : Loader σ) : loader.muted.Quiet := fun _ _ => rfl

theorem quiet_ofDocuments (documents : OrderedMap Tree) : (ofDocuments documents).Quiet :=
  fun _ _ => rfl

theorem quiet_ofDirectory (directory : Directory) : (ofDirectory directory).Quiet := by
  intro name state
  unfold ofDirectory
  dsimp only
  split <;> rfl

end Loader

namespace Build
open Blueprint

/-- Builds that succeed have results of this kind. -/
def Returns (holds : α → Prop) (build : Build σ α) : Prop :=
  ∀ before after value, build.run.run before = (.ok value, after) → holds value

/-- If `made` blueprints were reported before a build that succeeds, then `worth` of its result have
been after it. -/
def Accounts (made : Nat) (build : Build σ α) (worth : α → Nat) : Prop :=
  ∀ before after value, build.run.run before = (.ok value, after) →
    ∃ events : List Event, after.log = before.log ++ events ∧
      made + Event.tally events = worth value

def Single (forest : List Blueprint) : Prop := ∃ blueprint, forest = [blueprint]

theorem Returns.within {holds : α → Prop} {build : Build σ α} (returns : Returns holds build)
    {source : String} : Returns holds (Build.within source build) := by
  intro before after value ran
  let entered := { before with expanding := source :: before.expanding }
  have left : (build.run.run entered).1 = .ok value := congrArg Prod.fst ran
  exact returns entered _ value (Prod.ext left rfl)

theorem returns_single (build : Build σ Blueprint) :
    Returns Single (build >>= fun blueprint => Pure.pure [blueprint]) := by
  intro before after forest ran
  obtain ⟨blueprint, middle, _, finished⟩ := run_bind_success ran
  cases finished
  exact ⟨blueprint, rfl⟩

theorem Returns.reported {holds : α → Prop} {build : Build σ α} (returns : Returns holds build)
    (events : List Event) : Returns holds (Build.report events >>= fun _ => build) := by
  intro before after value ran
  obtain ⟨_, middle, _, finished⟩ := run_bind_success ran
  exact returns middle after value finished

/-- A node that can be the root of a template gives one blueprint. -/
theorem returns_templateRoot (builder : Builder σ) (levels : Nat) (name : String) {tree : Tree}
    (chosen : isTemplateRoot tree) : Returns Single (Build.node builder levels name tree) := by
  rw [isTemplateRoot_eq] at chosen
  cases found : tree.declaration? with
  | none =>
    rw [found] at chosen
    cases chosen
  | some declaration =>
    cases levels with
    | zero =>
      rw [node_zero builder name found]
      intro before after value ran
      cases ran
    | succ levels =>
      obtain ⟨kind, fields, rfl, run⟩ := node_succ builder levels name found
      rw [run]
      rw [found] at chosen
      cases kind with
      | entity => exact (returns_single _).reported _
      | group => cases chosen
      | template => exact (returns_single _).reported _

namespace Accounts

variable {made : Nat}

theorem pure {worth : α → Nat} {value : α} (paid : made = worth value) :
    Accounts (σ := σ) made (Pure.pure value) worth := by
  rintro before _ _ ⟨⟩
  refine ⟨[], ?_, paid⟩
  simp

theorem throw {worth : α → Nat} (error : BuildError) :
    Accounts (σ := σ) made (MonadExcept.throw error) worth := by
  intro before after value ran
  cases ran

theorem bindReturning {build : Build σ α} {next : α → Build σ β} {holds : α → Prop}
    {worth : α → Nat} {later : β → Nat} (first : Accounts made build worth)
    (returns : Returns holds build)
    (rest : ∀ result, holds result → Accounts (worth result) (next result) later) :
    Accounts made (build >>= next) later := by
  intro before after value ran
  obtain ⟨result, middle, begun, finished⟩ := run_bind_success ran
  obtain ⟨events, logged, counted⟩ := first before middle result begun
  have held := returns before middle result begun
  obtain ⟨others, loggedAfter, countedAfter⟩ := rest result held middle after value finished
  refine ⟨events ++ others, ?_, ?_⟩
  · rw [loggedAfter, logged, log_append]
  · rw [Event.tally_append, ← Nat.add_assoc, counted, countedAfter]

theorem bind {build : Build σ α} {next : α → Build σ β} {worth : α → Nat} {later : β → Nat}
    (first : Accounts made build worth)
    (rest : ∀ result, Accounts (worth result) (next result) later) :
    Accounts made (build >>= next) later :=
  have returns : Returns (fun _ => True) build := fun _ _ _ _ => trivial
  first.bindReturning returns fun result _ => rest result

theorem report (events : List Event) :
    Accounts (σ := σ) made (Build.report events) fun _ => made + Event.tally events := by
  rintro before _ _ ⟨⟩
  exact ⟨events, rfl, rfl⟩

/-- Reports that count for nothing. -/
theorem reported {events : List Event} (free : Event.tally events = 0) {next : Build σ α}
    {worth : α → Nat} (rest : Accounts made next worth) :
    Accounts made (Build.report events >>= fun _ => next) worth := by
  refine (report events).bind fun _ => ?_
  rw [free]
  exact rest

theorem look {worth : α → Nat} (next : List String → Build σ α)
    (inner : ∀ expanding, Accounts made (next expanding) worth) :
    Accounts made (get >>= fun progress => next progress.expanding) worth := by
  intro before after value ran
  rw [run_bind_ok (run_get before)] at ran
  exact inner before.expanding before after value ran

theorem within (source : String) {build : Build σ α} {worth : α → Nat}
    (inner : Accounts made build worth) : Accounts made (Build.within source build) worth := by
  intro before after value ran
  let entered := { before with expanding := source :: before.expanding }
  have left : (build.run.run entered).1 = .ok value := congrArg Prod.fst ran
  have logged : (build.run.run entered).2.log = after.log := congrArg (fun ran => ran.2.log) ran
  obtain ⟨events, grown, counted⟩ := inner entered _ value (Prod.ext left rfl)
  exact ⟨events, logged.symm.trans grown, counted⟩

theorem loadTemplate {loader : Loader σ} (quiet : loader.Quiet) (source : String) :
    Accounts made (Build.loadTemplate loader source) fun _ => made := by
  intro before after document ran
  cases kept : before.templates[source]? with
  | some tree =>
    rw [run_loadTemplate_kept loader kept] at ran
    cases ran
    refine ⟨[], ?_, rfl⟩
    simp
  | none =>
    rw [run_loadTemplate_new loader kept] at ran
    have free := quiet source before.loader
    cases answered : (loader.load source before.loader).result with
    | error error =>
      rw [answered] at ran
      cases ran
    | ok tree =>
      rw [answered] at ran
      cases ran
      refine ⟨Event.loadingTemplate source :: (loader.load source before.loader).events, ?_, ?_⟩
      · exact log_append before.log [.loadingTemplate source] _
      · exact congrArg (made + ·) free

theorem recordAll (registry : Registry) (node : String) (declared : List (String × Tree))
    (stamp : Stamp) :
    Accounts (σ := σ) made (Build.recordAll registry node stamp declared) fun _ => made := by
  induction declared generalizing stamp with
  | nil => exact pure rfl
  | cons entry rest ih =>
    unfold Build.recordAll
    exact reported (registry.tally_record node stamp entry.1 entry.2) (ih _)

theorem applyDefault (registry : Registry) (node name : String) (data : Tree)
    (forest : List Blueprint) :
    Accounts (σ := σ) (made + forestCount forest)
      (Build.applyDefault registry node name data forest) fun result =>
        made + forestCount result := by
  induction forest generalizing made with
  | nil => exact pure rfl
  | cons blueprint rest ih =>
    unfold Build.applyDefault
    have counted : made + forestCount (blueprint :: rest) =
        made + blueprint.entityCount + forestCount rest := (Nat.add_assoc ..).symm
    rw [counted]
    refine reported (registry.tally_record node blueprint.stamp name data) ?_
    refine ih.bind fun result => pure ?_
    rw [forestCount, ← Nat.add_assoc]
    cases blueprint
    rfl

theorem applyDefaults (registry : Registry) (node : String) (declared : List (String × Tree))
    (forest : List Blueprint) :
    Accounts (σ := σ) (made + forestCount forest)
      (Build.applyDefaults registry node forest declared) fun result =>
        made + forestCount result := by
  induction declared generalizing forest with
  | nil => exact pure rfl
  | cons entry rest ih =>
    unfold Build.applyDefaults
    exact (applyDefault registry node entry.1 entry.2 forest).bind ih

/-- What is skipped has a report that counts for nothing. -/
theorem skipped (builder : Builder σ) (levels : Nat) (name : String) {tree : Tree}
    (undeclared : tree.declaration? = none) :
    Accounts made (Build.node builder levels name tree) fun forest =>
      made + forestCount forest := by
  unfold Build.node
  cases recognised : recognise name tree with
  | error event => exact reported (tally_recognise recognised) (pure rfl)
  | ok found =>
    rw [recognise_ok recognised] at undeclared
    cases undeclared

section Visits
variable {visit : String → Tree → Build σ (List Blueprint)}
  (visits : ∀ made name tree,
    Accounts made (visit name tree) fun forest => made + forestCount forest)
include visits

theorem entries (nodes : List (String × Tree)) :
    Accounts made (Build.entries visit nodes) fun forest => made + forestCount forest := by
  induction nodes generalizing made with
  | nil => exact pure rfl
  | cons node rest ih =>
    refine (visits made node.1 node.2).bind fun forest => ?_
    refine ih.bind fun others => pure ?_
    rw [forestCount_append, Nat.add_assoc]

theorem nodeList (tree : Tree) :
    Accounts made (Build.nodeList visit tree) fun forest => made + forestCount forest := by
  cases tree with
  | map fields => exact entries visits fields.entries
  | null => exact pure rfl
  | scalar value => exact reported rfl (pure rfl)
  | sequence items => exact reported rfl (pure rfl)

theorem children (fields : OrderedMap Tree) :
    Accounts made (Build.children visit fields) fun forest => made + forestCount forest := by
  unfold Build.children
  cases fields.get? "children" with
  | none => exact pure rfl
  | some list => exact nodeList visits list

/-- The report of an entity node is the one before this build. -/
theorem entity (registry : Registry) (name : String) (fields : OrderedMap Tree) :
    Accounts (made + 1) (Build.entity registry visit name fields) fun blueprint =>
      made + blueprint.entityCount := by
  refine (recordAll registry name _ _).bind fun stamp => ?_
  refine (children visits fields).bind fun forest => pure ?_
  rw [entityCount, Nat.add_assoc]

theorem group (registry : Registry) (name : String) (fields : OrderedMap Tree) :
    Accounts made (Build.group registry visit name fields) fun forest =>
      made + forestCount forest :=
  (children visits fields).bind fun forest => applyDefaults registry name _ forest

/-- An empty blueprint has its own report; an expansion is the one blueprint of the root, which was
reported there, with the children at the place of use. -/
theorem template {loader : Loader σ} (quiet : loader.Quiet)
    (single : ∀ name tree, isTemplateRoot tree → Returns Single (visit name tree))
    (name : String) (fields : OrderedMap Tree) :
    Accounts made (Build.template loader visit name fields) fun blueprint =>
      made + blueprint.entityCount := by
  unfold Build.template
  cases scalarField fields "source" with
  | none => exact (report [.sourceMissing name]).bind fun _ => pure rfl
  | some source =>
    refine look (fun stack => if source ∈ stack then _ else _) fun expanding => ?_
    split
    · exact throw _
    · refine (loadTemplate quiet source).bind fun document => ?_
      cases rooted : templateRoot? document with
      | none => exact (report [.rootMissing name source]).bind fun _ => pure rfl
      | some root =>
        have chosen := isTemplateRoot_of_templateRoot? rooted
        have built := visits made root.1 root.2
        refine (built.within source).bindReturning (single root.1 root.2 chosen).within ?_
        rintro forest ⟨blueprint, rfl⟩
        refine (children visits fields).bind fun added => pure ?_
        cases blueprint
        simp only [forestCount, entityCount, List.head?_cons, Option.getD_some,
          forestCount_append]
        omega

end Visits

section Nodes
variable {builder : Builder σ} (quiet : builder.loader.Quiet)
include quiet

theorem kindForest {levels : Nat}
    (visits : ∀ made name tree, Accounts made (Build.node builder levels name tree)
      fun forest => made + forestCount forest)
    (name : String) (fields : OrderedMap Tree) (kind : NodeKind) :
    Accounts (made + Event.tally [.loadingNode kind name (scalarField fields "comment")])
      (Build.kindForest builder levels name fields kind) fun forest =>
        made + forestCount forest := by
  cases kind with
  | entity =>
    exact (entity visits builder.registry name fields).bind fun blueprint => pure rfl
  | group => exact group visits builder.registry name fields
  | template =>
    have single := fun name tree => @returns_templateRoot _ builder levels name tree
    exact (template visits quiet single name fields).bind fun blueprint => pure rfl

theorem node (levels made : Nat) (name : String) (tree : Tree) :
    Accounts made (Build.node builder levels name tree) fun forest =>
      made + forestCount forest := by
  induction levels generalizing made name tree with
  | zero =>
    cases found : tree.declaration? with
    | none => exact skipped builder 0 name found
    | some declaration =>
      rw [node_zero builder name found]
      exact throw _
  | succ levels ih =>
    cases found : tree.declaration? with
    | none => exact skipped builder (levels + 1) name found
    | some declaration =>
      obtain ⟨kind, fields, rfl, run⟩ := node_succ builder levels name found
      rw [run]
      exact (report _).bind fun _ => kindForest quiet ih name fields kind

theorem buildTree (tree : Tree) : Accounts 0 (builder.buildTree tree) forestCount := by
  have counted : Accounts 0 (builder.buildTree tree) fun forest => 0 + forestCount forest :=
    nodeList (node quiet builder.maxDepth) tree
  simp only [Nat.zero_add] at counted
  exact counted

end Nodes
end Accounts
end Build

/-- Instantiation of a forest succeeds in every world and makes its entities and no others. -/
theorem Blueprint.instantiateAll_size (forest : List Blueprint) (population : Population) :
    ∃ roots after, (instantiateAll forest).run.run population = (.ok roots, after) ∧
      after.world.size = population.world.size + forestCount forest := by
  obtain ⟨world, index, log⟩ := population
  obtain ⟨rows, rfl⟩ := world.exists_eq_ofRows
  obtain ⟨indexAfter, logAfter, ran⟩ := makes_rootPlacements forest rows index log
  refine ⟨_, _, ran, ?_⟩
  simp [World.size_ofRows, length_rootPlacements]

theorem Loader.beside_muted {data : List (String × Tree) → List (String × Tree) → Prop}
    (same : ∀ list, data list list) (loader : Loader σ) :
    loader.Beside (Tree.ListEchoes data) loader.muted := by
  intro name state
  refine ⟨rfl, ?_⟩
  unfold muted
  dsimp only
  cases (loader.load name state).result with
  | error error => exact .error error
  | ok document => exact .ok (document.listEchoes_refl same)

namespace Builder
open Blueprint

variable {builder : Builder σ} {before : Progress σ} {tree : Tree} {forest : List Blueprint}

/-- The builder with a loader that reports nothing, so that all reports are its own. -/
def muted (builder : Builder σ) : Builder σ := { builder with loader := builder.loader.muted }

/-- What is reported in the course of a build. -/
def Reports (builder : Builder σ) (before : Progress σ) (tree : Tree) (events : List Event) :
    Prop :=
  ((builder.buildTree tree).run.run before).2.log = before.log ++ events

theorem outcome_muted (builder : Builder σ) (before : Progress σ) (tree : Tree) :
    builder.muted.outcome before tree = builder.outcome before tree := by
  let setting := builder.setting (.ofDocuments .empty)
  have loaders : builder.loader.Beside (Tree.ListEchoes Eq) builder.loader.muted :=
    builder.loader.beside_muted fun _ => rfl
  have states : before.Beside (Tree.ListEchoes Eq) before :=
    before.beside_refl fun document => document.listEchoes_refl fun _ => rfl
  have echoes : tree.ListEchoes Eq tree := tree.listEchoes_refl fun _ => rfl
  have alike := (Build.paired_buildTree loaders setting.accord_eq echoes before before states).1
  have same := alike.imp fun _ _ => Blueprint.alikeAll_eq
  exact same.eq.symm

theorem tally_of_quiet (quiet : builder.loader.Quiet)
    (built : builder.outcome before tree = .ok forest) :
    ∃ events, builder.Reports before tree events ∧
      events.countP Event.loadsEntity + events.countP Event.warnsOfEmpty = forestCount forest := by
  have ran : (builder.buildTree tree).run.run before = (.ok forest, _) := Prod.ext built rfl
  obtain ⟨events, logged, counted⟩ := Build.Accounts.buildTree quiet tree before _ forest ran
  rw [Nat.zero_add] at counted
  exact ⟨events, logged, counted⟩

/-- A build that succeeds reports as many entity nodes and empty blueprints as there are entities in
its forest, and the forest becomes so many entities in every world. The reports of a loader that
tells of such things itself are left out. -/
theorem entities_accounted (built : builder.outcome before tree = .ok forest) :
    (∃ events, builder.muted.outcome before tree = .ok forest ∧
      builder.muted.Reports before tree events ∧
      events.countP Event.loadsEntity + events.countP Event.warnsOfEmpty = forestCount forest) ∧
    (builder.loader.Quiet → ∃ events, builder.Reports before tree events ∧
      events.countP Event.loadsEntity + events.countP Event.warnsOfEmpty = forestCount forest) ∧
    ∀ population : Population, ∃ roots after,
      (instantiateAll forest).run.run population = (.ok roots, after) ∧
        after.world.size = population.world.size + forestCount forest := by
  have silent := (outcome_muted builder before tree).trans built
  obtain ⟨events, reported, counted⟩ := tally_of_quiet builder.loader.quiet_muted silent
  exact ⟨⟨events, silent, reported, counted⟩, fun quiet => tally_of_quiet quiet built,
    instantiateAll_size forest⟩

end Builder

namespace Sample

def shelf : OrderedMap Tree := .ofList
  [("lamp", list [("root", entity [("bulb", entity [])])]), ("blank", list [])]

/-- A lamp with a shade in a group, and two templates that come out empty. -/
def stock : Tree := list
  [("desk", list [("type", text "group"),
      ("children", list [("lamp", template "lamp" [("shade", entity [])])])]),
    ("hole", list [("type", text "template")]),
    ("gap", template "blank" [("lost", entity [])])]

end Sample

theorem stock_accounted :
    let builder : Builder Unit := ⟨.defaults, .ofDocuments Sample.shelf, 64⟩
    ∃ forest events, builder.outcome (.start ()) Sample.stock = .ok forest ∧
      builder.Reports (.start ()) Sample.stock events ∧
      events.countP Event.loadsEntity + events.countP Event.warnsOfEmpty = 5 := by
  intro builder
  have built : builder.outcome (.start ()) Sample.stock = .ok _ := rfl
  obtain ⟨_, reports, _⟩ := Builder.entities_accounted built
  obtain ⟨events, reported, counted⟩ := reports (Loader.quiet_ofDocuments Sample.shelf)
  exact ⟨_, events, built, reported, counted⟩

end SceneGraph
