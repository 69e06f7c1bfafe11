import SceneGraph.Proofs.Execution
import SceneGraph.Proofs.Scene.Composition

/-!
A builder gives every tree its meaning, whatever it has built before. Between the parts of a build
the kept documents are those that the sources stand for, and the sources under expansion are those
of the templates around; a failed build leaves both in order as well.
-/
namespace SceneGraph
open Setting

variable {σ α β : Type}

namespace Build

/-- The state after the loader was asked for a document. -/
def asked (loader : Loader σ) (name : String) (before : Progress σ) : Progress σ :=
  let reading := loader.load name before.loader
  { before with loader := reading.state, log := before.log ++ reading.events }

/-- The state after the loader was asked for a document that is not kept. -/
def requested (loader : Loader σ) (source : String) (before : Progress σ) : Progress σ :=
  asked loader source { before with log := before.log ++ [Event.loadingTemplate source] }

theorem log_append (log : Array Event) (events others : List Event) :
    log ++ events ++ others = log ++ (events ++ others) := by
  apply Array.ext'
  simp

theorem run_get (before : Progress σ) :
    (get : Build σ (Progress σ)).run.run before = (.ok before, before) := rfl

theorem run_load (loader : Loader σ) (name : String) (before : Progress σ) :
    (load loader name).run.run before =
      ((loader.load name before.loader).result.mapError .load, asked loader name before) := by
  have stored : (set (asked loader name before) : Build σ Unit).run.run before =
    (.ok (), asked loader name before) := rfl
  unfold load
  rw [run_bind_ok (run_get before)]
  refine (run_bind_ok stored).trans ?_
  cases (loader.load name before.loader).result <;> rfl

theorem run_loadTemplate_kept (loader : Loader σ) {source : String} {before : Progress σ}
    {tree : Tree} (kept : before.templates[source]? = some tree) :
    (loadTemplate loader source).run.run before = (.ok tree, before) := by
  unfold loadTemplate
  rw [run_bind_ok (run_get before), kept]
  rfl

theorem run_loadTemplate_new (loader : Loader σ) {source : String} {before : Progress σ}
    (new : before.templates[source]? = none) :
    (loadTemplate loader source).run.run before =
      match (loader.load source before.loader).result with
      | .error error => (.error (.load error), requested loader source before)
      | .ok tree => (.ok tree,
          { requested loader source before with
            templates := before.templates.insert source tree }) := by
  have reported : (report [.loadingTemplate source]).run.run before =
    (.ok (), { before with log := before.log ++ [Event.loadingTemplate source] }) := rfl
  have answered := run_load loader source
    { before with log := before.log ++ [Event.loadingTemplate source] }
  unfold loadTemplate
  rw [run_bind_ok (run_get before), new]
  refine (run_bind_ok reported).trans ?_
  cases result : (loader.load source before.loader).result with
  | error error =>
    rw [result] at answered
    exact run_bind_error answered
  | ok tree =>
    rw [result] at answered
    exact (run_bind_ok answered).trans rfl

theorem run_within (source : String) (build : Build σ α) (before : Progress σ) :
    (within source build).run.run before =
      let ran := build.run.run { before with expanding := source :: before.expanding }
      (ran.1, { ran.2 with expanding := ran.2.expanding.tail }) := rfl

end Build

/-- The answers of a loader that depend on the name alone. -/
def Loader.Follows (loader : Loader σ) (answers : Answers) : Prop :=
  ∀ name state, (loader.load name state).result = answers name

theorem Loader.follows_ofDocuments (documents : OrderedMap Tree) :
    (Loader.ofDocuments documents).Follows (.ofDocuments documents) :=
  fun _ _ => rfl

structure Progress.InStep (answers : Answers) (expanding : List String)
    (progress : Progress σ) : Prop where
  kept : ∀ source tree, progress.templates[source]? = some tree → answers source = .ok tree
  expanding_eq : progress.expanding = expanding

/-- The build has one outcome from all states that are in step, and leaves such a state. -/
def Build.Computes (answers : Answers) (expanding : List String) (build : Build σ α)
    (value : Except BuildError α) : Prop :=
  ∀ before : Progress σ, before.InStep answers expanding →
    ∃ after : Progress σ, build.run.run before = (value, after) ∧ after.InStep answers expanding

namespace Build.Computes

variable {answers : Answers} {expanding : List String}

theorem pure (value : α) :
    Computes (σ := σ) answers expanding (Pure.pure value) (.ok value) :=
  fun before inStep => ⟨before, rfl, inStep⟩

theorem throw (error : BuildError) :
    Computes (σ := σ) (α := α) answers expanding (MonadExcept.throw error) (.error error) :=
  fun before inStep => ⟨before, rfl, inStep⟩

theorem bind {build : Build σ α} {next : α → Build σ β} {value : Except BuildError α}
    {nextValue : α → Except BuildError β} (first : Computes answers expanding build value)
    (rest : ∀ result : α, Computes answers expanding (next result) (nextValue result)) :
    Computes answers expanding (build >>= next) (value >>= nextValue) := by
  intro _ inStep
  obtain ⟨middle, ran, inStep⟩ := first _ inStep
  cases value with
  | error error => exact ⟨middle, run_bind_error ran, inStep⟩
  | ok result =>
    obtain ⟨after, finished, inStep⟩ := rest result middle inStep
    exact ⟨after, (run_bind_ok ran).trans finished, inStep⟩

theorem look (next : List String → Build σ α) {value : Except BuildError α}
    (inner : Computes answers expanding (next expanding) value) :
    Computes answers expanding (get >>= fun progress => next progress.expanding) value := by
  intro before inStep
  rw [run_bind_ok (run_get before), inStep.expanding_eq]
  exact inner before inStep

theorem report (events : List Event) :
    Computes (σ := σ) answers expanding (Build.report events) (.ok ()) :=
  fun _ inStep => ⟨_, rfl, inStep.kept, inStep.expanding_eq⟩

theorem load {loader : Loader σ} (follows : loader.Follows answers) (name : String) :
    Computes answers expanding (Build.load loader name) (answers.document name) := by
  intro before inStep
  refine ⟨asked loader name before, ?_, inStep.kept, inStep.expanding_eq⟩
  rw [run_load, follows name before.loader]
  rfl

/-- A document is kept only after it was loaded, so what is kept stays what its source stands
for. -/
theorem loadTemplate {loader : Loader σ} (follows : loader.Follows answers) (source : String) :
    Computes answers expanding (Build.loadTemplate loader source) (answers.document source) := by
  intro before inStep
  cases found : before.templates[source]? with
  | some tree =>
    rw [run_loadTemplate_kept loader found, Answers.document, inStep.kept source tree found]
    exact ⟨before, rfl, inStep⟩
  | none =>
    rw [run_loadTemplate_new loader found, follows source before.loader, Answers.document]
    cases answered : answers source with
    | error error =>
      exact ⟨requested loader source before, rfl, inStep.kept, inStep.expanding_eq⟩
    | ok tree =>
      refine ⟨_, rfl, ?_, inStep.expanding_eq⟩
      intro other document kept
      rw [Std.TreeMap.getElem?_insert] at kept
      split at kept
      · rename_i same
        cases kept
        rw [← Std.compare_eq_iff_eq.mp same]
        exact answered
      · exact inStep.kept other document kept

theorem within {source : String} {build : Build σ α} {value : Except BuildError α}
    (inner : Computes answers (source :: expanding) build value) :
    Computes answers expanding (Build.within source build) value := by
  intro before inStep
  obtain ⟨after, ran, done⟩ := inner { before with expanding := source :: before.expanding }
    ⟨inStep.kept, congrArg (source :: ·) inStep.expanding_eq⟩
  refine ⟨{ after with expanding := after.expanding.tail }, ?_, done.kept, ?_⟩
  · rw [run_within, ran]
  · rw [done.expanding_eq]
    rfl

theorem rules {loader : Loader σ} (follows : loader.Follows answers) :
    Build.Rules loader answers (Computes answers) where
  pure _ := pure
  throw _ := throw
  bind := bind
  report _ events _ := report events
  look := look
  loadTemplate _ := loadTemplate follows
  within := within

theorem buildTree {builder : Builder σ} (follows : builder.loader.Follows answers) (tree : Tree) :
    Computes answers [] (builder.buildTree tree) ((builder.setting answers).forest tree) :=
  (rules follows).buildTree rfl tree

theorem buildScene {builder : Builder σ} (follows : builder.loader.Follows answers)
    (name : String) :
    Computes answers [] (builder.buildScene name) ((builder.setting answers).scene name) := by
  refine bind (load follows name) fun document => ?_
  cases (document.get? "scene").bind Tree.fields? with
  | none => exact throw _
  | some fields => exact (rules follows).reported _ rfl (buildTree follows _)

end Build.Computes

namespace Sample

def text (value : String) : Tree := .scalar (.string value)

def list (nodes : List (String × Tree)) : Tree := .map (.ofList nodes)

def entity (children : List (String × Tree)) : Tree :=
  list [("type", text "entity"), ("children", list children)]

def template (source : String) (children : List (String × Tree)) : Tree :=
  list [("type", text "template"), ("source", text source), ("children", list children)]

/-- A lamp, and two documents that include each other. -/
def library : OrderedMap Tree := .ofList
  [("lamp", list [("root", entity [("bulb", entity [])])]),
    ("ring", list [("root", entity [("link", template "chain" [])])]),
    ("chain", list [("root", entity [("link", template "ring" [])])])]

def builder : Builder Unit := ⟨.defaults, .ofDocuments library, 64⟩

/-- A lamp that stands inside the children of another one. -/
def lamps : Tree := list [("first", template "lamp" [("second", template "lamp" [])])]

def rings : Tree := list [("first", template "ring" [])]

end Sample

namespace Builder

/-- The states of a builder after any calls, whatever became of them. -/
inductive Reachable (builder : Builder σ) : Progress σ → Prop
  | start (loader : σ) : Reachable builder (.start loader)
  | tree {before : Progress σ} (reached : Reachable builder before) (tree : Tree) :
      Reachable builder ((builder.buildTree tree).run.run before).2
  | scene {before : Progress σ} (reached : Reachable builder before) (name : String) :
      Reachable builder ((builder.buildScene name).run.run before).2

variable {builder : Builder σ} {answers : Answers} {progress : Progress σ}

theorem Reachable.inStep (follows : builder.loader.Follows answers)
    (reached : builder.Reachable progress) : progress.InStep answers [] := by
  induction reached with
  | start loader => exact ⟨by simp [Progress.start], rfl⟩
  | tree _ tree inStep =>
    obtain ⟨after, ran, inStep⟩ := Build.Computes.buildTree follows tree _ inStep
    rw [ran]
    exact inStep
  | scene _ name inStep =>
    obtain ⟨after, ran, inStep⟩ := Build.Computes.buildScene follows name _ inStep
    rw [ran]
    exact inStep

def outcome (builder : Builder σ) (progress : Progress σ) (tree : Tree) :
    Except BuildError (List Blueprint) :=
  ((builder.buildTree tree).run.run progress).1

theorem outcome_eq (follows : builder.loader.Follows answers) (reached : builder.Reachable progress)
    (tree : Tree) : builder.outcome progress tree = (builder.setting answers).forest tree := by
  obtain ⟨after, ran, _⟩ := Build.Computes.buildTree follows tree progress (reached.inStep follows)
  rw [outcome, ran]

/-- Whatever a builder has built before and however that ended, it builds trees and scenes to their
meaning or to the fault in it. -/
theorem outcome_eq_meaning (follows : builder.loader.Follows answers)
    (reached : builder.Reachable progress) :
    (∀ tree, builder.outcome progress tree = (builder.setting answers).forest tree) ∧
      ∀ name, ((builder.buildScene name).run.run progress).1 =
        (builder.setting answers).scene name := by
  refine ⟨outcome_eq follows reached, fun name => ?_⟩
  obtain ⟨after, ran, _⟩ := Build.Computes.buildScene follows name progress (reached.inStep follows)
  rw [ran]

end Builder

theorem outcome_after_failure :
    let failed := (Sample.builder.buildTree Sample.rings).run.run (.start ())
    failed.1 = .error (.templateCycle "ring") ∧
      Sample.builder.outcome failed.2 Sample.lamps =
        (Sample.builder.setting (.ofDocuments Sample.library)).forest Sample.lamps := by
  refine ⟨rfl, ?_⟩
  have follows := Loader.follows_ofDocuments Sample.library
  have reached : Sample.builder.Reachable _ := .tree (.start ()) Sample.rings
  exact (Builder.outcome_eq_meaning follows reached).1 Sample.lamps

end SceneGraph
