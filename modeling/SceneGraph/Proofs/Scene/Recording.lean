import SceneGraph.Proofs.Scene.Coupling
import SceneGraph.Scene.Document

/-!
Builders under observation. A loader that keeps its requests answers as it does otherwise, so a
builder that loads from it has the same outcomes; the states that it goes through differ in what is
kept of the requests and in the log.
-/
namespace SceneGraph
open Build

variable {σ : Type}

/-- A document that was asked for, with the answer. -/
abbrev Request := String × Except LoadError Tree

theorem Event.templates_append (events others : List Event) :
    templates (events ++ others) = templates events ++ templates others :=
  List.filterMap_append

namespace Loader

/-- The loader without reports that templates are being loaded, which builders make. -/
def hushed (loader : Loader σ) : Loader σ where
  load name state :=
    let reading := loader.load name state
    { reading with events := reading.events.filter fun event => event.template?.isNone }

theorem templates_hushed (loader : Loader σ) (name : String) (state : σ) :
    Event.templates (loader.hushed.load name state).events = [] := by
  refine List.filterMap_eq_nil_iff.mpr fun event member => ?_
  exact Option.isNone_iff_eq_none.mp (List.mem_filter.mp member).2

/-- Nothing is left out of the reports of a loader that makes none of them. -/
theorem hushed_eq (loader : Loader σ)
    (quiet : ∀ name state, Event.templates (loader.load name state).events = []) :
    loader.hushed = loader := by
  have unchanged : ∀ name state,
      (loader.load name state).events.filter (fun event => event.template?.isNone) =
        (loader.load name state).events := by
    intro name state
    refine List.filter_eq_self.mpr fun event member => ?_
    rw [List.filterMap_eq_nil_iff.mp (quiet name state) event member]
    rfl
  simp only [hushed, unchanged]

theorem hushed_ofDirectory (directory : Directory) :
    (ofDirectory directory).hushed = ofDirectory directory := by
  apply hushed_eq
  intro name state
  unfold ofDirectory
  dsimp only
  split <;> rfl

end Loader

namespace Progress

/-- A state to be observed from: nothing was asked for and nothing reported. -/
def observed (progress : Progress σ) : Progress (σ × List Request) :=
  ⟨(progress.loader, []), progress.templates, progress.expanding, #[]⟩

/-- The state of a builder under observation and that of the builder. -/
structure Forgets (watched : Progress (σ × List Request)) (progress : Progress σ) : Prop where
  loader_eq : watched.loader.1 = progress.loader
  templates_eq : watched.templates = progress.templates
  expanding_eq : watched.expanding = progress.expanding

theorem forgets_observed (progress : Progress σ) : progress.observed.Forgets progress :=
  ⟨rfl, rfl, rfl⟩

theorem links_forgets : Links (Forgets (σ := σ)) where
  expanding_eq forgets := forgets.expanding_eq
  sources change forgets :=
    ⟨forgets.loader_eq, forgets.templates_eq, congrArg change forgets.expanding_eq⟩
  logs _ _ forgets := ⟨forgets.loader_eq, forgets.templates_eq, forgets.expanding_eq⟩

end Progress

namespace Build

variable {loader : Loader σ}

theorem forgets_asked (loader : Loader σ) {watched : Progress (σ × List Request)}
    {progress : Progress σ} (forgets : watched.Forgets progress) (name : String) :
    (asked loader.hushed.recorded name watched).Forgets (asked loader name progress) where
  loader_eq := by
    rw [asked, asked, ← forgets.loader_eq]
    rfl
  templates_eq := forgets.templates_eq
  expanding_eq := forgets.expanding_eq

theorem result_recorded {watched : Progress (σ × List Request)} {progress : Progress σ}
    (forgets : watched.Forgets progress) (name : String) :
    (loader.hushed.recorded.load name watched.loader).result =
      (loader.load name progress.loader).result := by
  rw [← forgets.loader_eq]
  rfl

theorem linked_load (name : String) :
    Linked Progress.Forgets Eq (load loader.hushed.recorded name) (load loader name) := by
  intro watched progress forgets
  rw [run_load, run_load, result_recorded forgets]
  refine ⟨?_, forgets_asked loader forgets name⟩
  cases (loader.load name progress.loader).result with
  | error error => exact .error _
  | ok document => exact .ok rfl

theorem linked_loadTemplate (source : String) :
    Linked Progress.Forgets Eq (loadTemplate loader.hushed.recorded source)
      (loadTemplate loader source) := by
  intro watched progress forgets
  cases kept : progress.templates[source]? with
  | some tree =>
    rw [run_loadTemplate_kept loader kept]
    rw [← forgets.templates_eq] at kept
    rw [run_loadTemplate_kept _ kept]
    exact ⟨.ok rfl, forgets⟩
  | none =>
    have asked := fun log otherLog =>
      forgets_asked loader (Progress.links_forgets.logs log otherLog forgets) source
    rw [run_loadTemplate_new loader kept]
    rw [← forgets.templates_eq] at kept
    rw [run_loadTemplate_new _ kept, result_recorded forgets]
    cases (loader.load source progress.loader).result with
    | error error => exact ⟨.error _, asked _ _⟩
    | ok tree =>
      refine ⟨.ok rfl, (asked _ _).loader_eq, ?_, forgets.expanding_eq⟩
      exact congrArg (fun templates => templates.insert source tree) forgets.templates_eq

theorem coupling_recorded (loader : Loader σ) :
    Coupling loader.hushed.recorded loader Eq fun related => Linked Progress.Forgets related where
  settled := Linked.settled Progress.links_forgets
  throw := Linked.throw
  bind := Linked.bind
  look := Linked.look Progress.links_forgets
  loadTemplate := linked_loadTemplate
  within := Linked.within Progress.links_forgets

end Build

namespace Builder

/-- What a builder is asked to build: a tree, or the scene of a document. -/
inductive Call where
  | tree (tree : Tree)
  | scene (name : String)

def call (builder : Builder σ) : Call → Build σ (List Blueprint)
  | .tree tree => builder.buildTree tree
  | .scene name => builder.buildScene name

/-- The builder with a loader that keeps the requests. -/
def watched (builder : Builder σ) : Builder (σ × List Request) :=
  ⟨builder.registry, builder.loader.hushed.recorded, builder.maxDepth⟩

variable (builder : Builder σ)

theorem linked_buildTree (tree : Tree) :
    Linked Progress.Forgets (List.Forall₂ (Blueprint.Alike Eq)) (builder.watched.buildTree tree)
      (builder.buildTree tree) := by
  have coupling : Coupling builder.watched.loader builder.loader Eq _ :=
    coupling_recorded builder.loader
  exact coupling.buildTree_refl rfl rfl tree

theorem linked_call (call : Call) :
    Linked Progress.Forgets (List.Forall₂ (Blueprint.Alike Eq)) (builder.watched.call call)
      (builder.call call) := by
  cases call with
  | tree tree => exact builder.linked_buildTree tree
  | scene name =>
    refine Linked.bind (linked_load name) ?_
    rintro document _ rfl
    cases (document.get? "scene").bind Tree.fields? with
    | none => exact Linked.throw _
    | some fields =>
      exact (coupling_recorded builder.loader).reported _ _ (builder.linked_buildTree (.map fields))

/-- To observe a call does not change what comes of it. -/
theorem observed_call (before : Progress σ) (call : Call) :
    ((builder.watched.call call).run.run before.observed).1 =
        ((builder.call call).run.run before).1 ∧
      ((builder.watched.call call).run.run before.observed).2.Forgets
        ((builder.call call).run.run before).2 := by
  obtain ⟨alike, forgets⟩ := builder.linked_call call _ _ before.forgets_observed
  exact ⟨(alike.imp fun _ _ => Blueprint.alikeAll_eq).eq, forgets⟩

end Builder
end SceneGraph
