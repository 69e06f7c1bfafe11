import Mathlib.Logic.Relation
import SceneGraph.Proofs.Scene.Depth
import SceneGraph.Proofs.Scene.Derivation

/-!
Which documents include which, and what that says about builds. A build reports a template cycle
exactly when the sources it comes to have one, although it only looks at the sources under
expansion: those are the sources on the way to the node at hand, each of them included by the one
before.
-/
namespace SceneGraph
open Relation

namespace Answers

/-- The evaluation of a node meets a template of the source, within the node's own document. -/
inductive Meets (answers : Answers) : Tree → String → Prop
  | here {tree : Tree} {source : String} {children : List (String × Tree)}
      (declared : tree.declaration? = some (.template (some source) children)) :
      Meets answers tree source
  | inside {tree : Tree} {declaration : Declaration} {child : String × Tree} {source : String}
      (declared : tree.declaration? = some declaration)
      (member : child ∈ answers.walked declaration) (inner : Meets answers child.2 source) :
      Meets answers tree source

def Includes (answers : Answers) (source included : String) : Prop :=
  ∃ root, answers.root? source = some root ∧ answers.Meets root.2 included

/-- The sources that a node includes, directly or through documents. -/
def NodeReaches (answers : Answers) (node : Tree) (source : String) : Prop :=
  ∃ first, answers.Meets node first ∧ ReflTransGen answers.Includes first source

def Reaches (answers : Answers) (tree : Tree) (source : String) : Prop :=
  ∃ node ∈ tree.nodes, answers.NodeReaches node.2 source

/-- The source includes itself, directly or through other documents. -/
def Cyclic (answers : Answers) (source : String) : Prop :=
  TransGen answers.Includes source source

namespace NodeReaches

variable {answers : Answers} {node : Tree} {source : String} {children : List (String × Tree)}
  {root : String × Tree}

theorem here (declared : node.declaration? = some (.template (some source) children)) :
    answers.NodeReaches node source :=
  ⟨source, .here declared, .refl⟩

theorem included (rooted : answers.root? source = some root) {other : String}
    (reaches : answers.NodeReaches root.2 other) : TransGen answers.Includes source other := by
  obtain ⟨first, met, path⟩ := reaches
  exact .head' ⟨root, rooted, met⟩ path

theorem expand (declared : node.declaration? = some (.template (some source) children))
    (rooted : answers.root? source = some root) {other : String}
    (reaches : answers.NodeReaches root.2 other) : answers.NodeReaches node other :=
  ⟨source, .here declared, (reaches.included rooted).to_reflTransGen⟩

theorem below {declaration : Declaration} {child : String × Tree}
    (declared : node.declaration? = some declaration)
    (member : child ∈ answers.walked declaration) (reaches : answers.NodeReaches child.2 source) :
    answers.NodeReaches node source := by
  obtain ⟨first, met, path⟩ := reaches
  exact ⟨first, .inside declared member met, path⟩

theorem cases (reaches : answers.NodeReaches node source) :
    ∃ declaration, node.declaration? = some declaration ∧
      ((∃ first children, declaration = .template (some first) children ∧
        (source = first ∨
          ∃ root, answers.root? first = some root ∧ answers.NodeReaches root.2 source)) ∨
      ∃ child ∈ answers.walked declaration, answers.NodeReaches child.2 source) := by
  obtain ⟨first, met, path⟩ := reaches
  cases met with
  | here declared =>
    refine ⟨_, declared, .inl ⟨first, _, rfl, ?_⟩⟩
    rcases ReflTransGen.cases_head path with same | ⟨next, ⟨root, rooted, met⟩, path⟩
    · exact .inl same.symm
    · exact .inr ⟨root, rooted, next, met, path⟩
  | inside declared member inner =>
    exact ⟨_, declared, .inr ⟨_, member, first, inner, path⟩⟩

end NodeReaches

theorem Cyclic.cases {answers : Answers} {source : String} (cyclic : answers.Cyclic source) :
    ∃ root, answers.root? source = some root ∧ answers.NodeReaches root.2 source := by
  obtain ⟨next, ⟨root, rooted, met⟩, path⟩ := TransGen.head'_iff.mp cyclic
  exact ⟨root, rooted, next, met, path⟩

end Answers

namespace Setting
open Answers

variable {setting : Setting} {levels : Nat} {expanding : Finset String} {name : String}
  {tree : Tree} {error : BuildError}

/-- The sources under expansion include the reported one on the way to the node that reports it. -/
theorem Fails.cause (fails : Fails setting levels expanding name tree error) :
    (∃ refused limit, error = .depthExceeded refused limit) ∨
      (∃ source fault, error = .load fault ∧ setting.answers.NodeReaches tree source ∧
        setting.answers source = .error fault) ∨
      ∃ source, error = .templateCycle source ∧ setting.answers.NodeReaches tree source ∧
        (source ∈ expanding ∨ setting.answers.Cyclic source) := by
  induction fails with
  | tooDeep expanding name declared => exact .inl ⟨name, _, rfl⟩
  | cyclic levels name declared inside => exact .inr (.inr ⟨_, rfl, .here declared, .inl inside⟩)
  | unloaded levels expanding name declared unanswered =>
    exact .inr (.inl ⟨_, _, rfl, .here declared, unanswered⟩)
  | @root name levels expanding tree first children root error declared fresh rooted below ih =>
    rcases ih with refused | ⟨source, fault, rfl, reaches, failed⟩ |
      ⟨source, rfl, reaches, known⟩
    · exact .inl refused
    · exact .inr (.inl ⟨source, fault, rfl, reaches.expand declared rooted, failed⟩)
    · refine .inr (.inr ⟨source, rfl, reaches.expand declared rooted, ?_⟩)
      rcases known with inside | cyclic
      · rcases Finset.mem_insert.mp inside with rfl | inside
        · exact .inr (reaches.included rooted)
        · exact .inl inside
      · exact .inr cyclic
  | child name declared member below ih =>
    rcases ih with refused | ⟨source, fault, rfl, reaches, failed⟩ |
      ⟨source, rfl, reaches, known⟩
    · exact .inl refused
    · exact .inr (.inl ⟨source, fault, rfl, reaches.below declared member, failed⟩)
    · exact .inr (.inr ⟨source, rfl, reaches.below declared member, known⟩)

/-- A node that has a meaning comes to no source under expansion and to none that includes itself.
The induction is on the levels: a source that includes itself would be visited once more while it
is under expansion. -/
theorem nodeForest_acyclic {forest : List Blueprint}
    (built : setting.nodeForest levels expanding name tree = .ok forest) {source : String}
    (reaches : setting.answers.NodeReaches tree source) :
    source ∉ expanding ∧ ¬ setting.answers.Cyclic source := by
  induction levels generalizing expanding name tree forest source with
  | zero =>
    obtain ⟨declaration, declared, _⟩ := reaches.cases
    rw [nodeForest_zero declared] at built
    cases built
  | succ levels ih =>
    obtain ⟨declaration, declared, way⟩ := reaches.cases
    rw [nodeForest_succ declared] at built
    have made := declarationForest_made built
    rcases way with ⟨first, children, rfl, rfl | ⟨root, rooted, further⟩⟩ |
      ⟨child, member, further⟩
    · obtain ⟨fresh, visited⟩ := made.root
      refine ⟨fresh, fun cyclic => ?_⟩
      obtain ⟨root, rooted, again⟩ := cyclic.cases
      obtain ⟨roots, inner⟩ := visited root rooted
      exact (ih inner again).1 (Finset.mem_insert_self source expanding)
    · obtain ⟨_, visited⟩ := made.root
      obtain ⟨roots, inner⟩ := visited root rooted
      obtain ⟨outside, acyclic⟩ := ih inner further
      exact ⟨fun inside => outside (Finset.mem_insert_of_mem inside), acyclic⟩
    · obtain ⟨own, inner⟩ := made.walked child member
      exact ih inner further

theorem forest_cause (failed : setting.forest tree = .error error) :
    (∃ refused limit, error = .depthExceeded refused limit) ∨
      (∃ source fault, error = .load fault ∧ setting.answers.Reaches tree source ∧
        setting.answers source = .error fault) ∨
      ∃ source, error = .templateCycle source ∧ setting.answers.Reaches tree source ∧
        setting.answers.Cyclic source := by
  obtain ⟨node, member, failed⟩ := inOrder_error failed
  rcases (nodeForest_fails failed).cause with refused | ⟨source, fault, rfl, reaches, failed⟩ |
    ⟨source, rfl, reaches, inside | cyclic⟩
  · exact .inl refused
  · exact .inr (.inl ⟨source, fault, rfl, ⟨node, member, reaches⟩, failed⟩)
  · simp at inside
  · exact .inr (.inr ⟨source, rfl, ⟨node, member, reaches⟩, cyclic⟩)

theorem forest_acyclic {forest : List Blueprint} (built : setting.forest tree = .ok forest)
    {source : String} (reaches : setting.answers.Reaches tree source) :
    ¬ setting.answers.Cyclic source := by
  obtain ⟨node, member, reaches⟩ := reaches
  obtain ⟨own, inner⟩ := inOrder_ok built node member
  exact (nodeForest_acyclic inner reaches).2

theorem cyclic_of_error {sources : Finset String} (confined : setting.answers.ConfinedTo sources)
    (loadable : ∀ source, setting.answers.Reaches tree source →
      ∃ document, setting.answers source = .ok document)
    (enough : tree.height + ∑ source ∈ sources, setting.answers.documentHeight source ≤
      setting.maxDepth) (failed : setting.forest tree = .error error) :
    ∃ source, error = .templateCycle source ∧ setting.answers.Reaches tree source ∧
      setting.answers.Cyclic source := by
  rcases forest_cause failed with ⟨refused, limit, rfl⟩ |
    ⟨source, fault, rfl, reaches, unanswered⟩ | cyclic
  · exact absurd failed (forest_not_refused confined enough refused limit)
  · obtain ⟨document, answered⟩ := loadable source reaches
    cases unanswered.symm.trans answered
  · exact cyclic

end Setting

namespace Sample
open Answers

theorem meets_entity {answers : Answers} {children : List (String × Tree)} {source : String}
    (met : answers.Meets (entity children) source) :
    ∃ child ∈ (list children).nodes, answers.Meets child.2 source := by
  cases met with
  | here declared =>
    rw [declaration?_entity] at declared
    cases declared
  | inside declared member inner =>
    rw [declaration?_entity] at declared
    cases declared
    exact ⟨_, member, inner⟩

theorem meets_template {answers : Answers} {children : List (String × Tree)}
    {source met : String} (meets : answers.Meets (template source children) met) :
    met = source ∨ ∃ child ∈ (list children).nodes, answers.Meets child.2 met := by
  cases meets with
  | here declared =>
    rw [declaration?_template] at declared
    cases declared
    exact .inl rfl
  | inside declared member inner =>
    rw [declaration?_template] at declared
    cases declared
    exact .inr ⟨_, (mem_walked_template.mp member).2, inner⟩

theorem not_includes_lamp (source : String) : ¬ (ofDocuments library).Includes "lamp" source := by
  rintro ⟨root, rooted, met⟩
  have chosen : (ofDocuments library).root? "lamp" = some ("root", entity [("bulb", entity [])]) :=
    rfl
  cases rooted.symm.trans chosen
  obtain ⟨bulb, member, met⟩ := meets_entity met
  cases List.mem_singleton.mp member
  obtain ⟨child, member, _⟩ := meets_entity met
  cases member

theorem lamps_reach {source : String} (reaches : (ofDocuments library).Reaches lamps source) :
    source = "lamp" := by
  obtain ⟨node, member, first, met, path⟩ := reaches
  cases List.mem_singleton.mp member
  have lamp : first = "lamp" := by
    rcases meets_template met with same | ⟨inner, member, met⟩
    · exact same
    · cases List.mem_singleton.mp member
      rcases meets_template met with same | ⟨child, member, _⟩
      · exact same
      · cases member
  subst lamp
  rcases ReflTransGen.cases_head path with same | ⟨next, includes, _⟩
  · exact same.symm
  · exact absurd includes (not_includes_lamp next)

theorem included_by_link {source next included : String}
    (rooted : (ofDocuments library).root? source =
      some ("root", entity [("link", template next [])]))
    (includes : (ofDocuments library).Includes source included) : included = next := by
  obtain ⟨root, chosen, met⟩ := includes
  cases chosen.symm.trans rooted
  obtain ⟨link, member, met⟩ := meets_entity met
  cases List.mem_singleton.mp member
  rcases meets_template met with same | ⟨child, member, _⟩
  · exact same
  · cases member

theorem rings_reach {source : String} (reaches : (ofDocuments library).Reaches rings source) :
    source = "ring" ∨ source = "chain" := by
  obtain ⟨node, member, first, met, path⟩ := reaches
  cases List.mem_singleton.mp member
  have ring : first = "ring" := by
    rcases meets_template met with same | ⟨child, member, _⟩
    · exact same
    · cases member
  subst ring
  induction path with
  | refl => exact .inl rfl
  | tail _ includes ih =>
    rcases ih with rfl | rfl
    · exact .inr (included_by_link rfl includes)
    · exact .inl (included_by_link rfl includes)

theorem height_lamps : lamps.height = 2 := by
  have leaf : (list []).height = 0 := rfl
  simp [lamps, height_singleton, nodeHeight_template, leaf]

end Sample

/-- When every source that a tree comes to has a document and the limit allows for the heights of
all documents, a build ends with a template cycle exactly if one of those sources includes itself.
The cycle is reported by such a source, and nothing else ends a build. -/
theorem Builder.template_cycle_exact {σ : Type} {builder : Builder σ} {answers : Answers}
    {progress : Progress σ} (follows : builder.loader.Follows answers)
    (reached : builder.Reachable progress) {sources : Finset String}
    (confined : answers.ConfinedTo sources) {tree : Tree}
    (loadable : ∀ source, answers.Reaches tree source →
      ∃ document, answers source = .ok document)
    (enough : tree.height + ∑ source ∈ sources, answers.documentHeight source ≤
      builder.maxDepth) :
    ((∃ source, builder.outcome progress tree = .error (.templateCycle source)) ↔
      ∃ source, answers.Reaches tree source ∧ answers.Cyclic source) ∧
    (∀ source, builder.outcome progress tree = .error (.templateCycle source) →
      answers.Reaches tree source ∧ answers.Cyclic source) ∧
    ((∀ source, answers.Reaches tree source → ¬ answers.Cyclic source) →
      ∃ forest, builder.outcome progress tree = .ok forest) := by
  rw [outcome_eq follows reached]
  have bounded : (builder.setting answers).answers.ConfinedTo sources := confined
  have fault : ∀ {error}, (builder.setting answers).forest tree = .error error →
      ∃ source, error = .templateCycle source ∧ answers.Reaches tree source ∧
        answers.Cyclic source :=
    Setting.cyclic_of_error bounded loadable enough
  have reported : ∀ source,
      (builder.setting answers).forest tree = .error (.templateCycle source) →
        answers.Reaches tree source ∧ answers.Cyclic source := by
    intro source failed
    obtain ⟨found, same, cyclic⟩ := fault failed
    cases same
    exact cyclic
  refine ⟨⟨fun ⟨source, failed⟩ => ⟨source, reported source failed⟩, ?_⟩, reported, ?_⟩
  · rintro ⟨source, reaches, cyclic⟩
    cases built : (builder.setting answers).forest tree with
    | ok forest => exact absurd cyclic (Setting.forest_acyclic built reaches)
    | error error =>
      obtain ⟨found, rfl, _⟩ := fault built
      exact ⟨found, rfl⟩
  · intro acyclic
    cases built : (builder.setting answers).forest tree with
    | ok forest => exact ⟨forest, rfl⟩
    | error error =>
      obtain ⟨found, _, reaches, cyclic⟩ := fault built
      exact absurd cyclic (acyclic found reaches)

/-- Two documents that include each other are a cycle, and are reported as one. A lamp inside the
children of a lamp is none, also after the build that ended with the cycle. -/
theorem rings_refused_lamps_accepted :
    let failed := (Sample.builder.buildTree Sample.rings).run.run (.start ())
    failed.1 = .error (.templateCycle "ring") ∧
      (Answers.ofDocuments Sample.library).Cyclic "ring" ∧
      ∃ forest, Sample.builder.outcome failed.2 Sample.lamps = .ok forest := by
  intro failed
  have follows := Loader.follows_ofDocuments Sample.library
  have ringsLoadable : ∀ source, (Answers.ofDocuments Sample.library).Reaches Sample.rings source →
      ∃ document, Answers.ofDocuments Sample.library source = .ok document := by
    intro source reaches
    rcases Sample.rings_reach reaches with rfl | rfl
    · exact ⟨_, rfl⟩
    · exact ⟨_, rfl⟩
  have lampsLoadable : ∀ source, (Answers.ofDocuments Sample.library).Reaches Sample.lamps source →
      ∃ document, Answers.ofDocuments Sample.library source = .ok document := by
    intro source reaches
    rw [Sample.lamps_reach reaches]
    exact ⟨_, rfl⟩
  have ringsFit : Sample.rings.height + ∑ source ∈ Sample.sources,
      (Answers.ofDocuments Sample.library).documentHeight source ≤ Sample.builder.maxDepth := by
    rw [Sample.height_rings, Sample.library_height]
    decide
  have lampsFit : Sample.lamps.height + ∑ source ∈ Sample.sources,
      (Answers.ofDocuments Sample.library).documentHeight source ≤ Sample.builder.maxDepth := by
    rw [Sample.height_lamps, Sample.library_height]
    decide
  have reported := (Builder.template_cycle_exact follows (.start ()) Sample.library_confined
    ringsLoadable ringsFit).2.1
  have accepted := (Builder.template_cycle_exact follows (.tree (.start ()) Sample.rings)
    Sample.library_confined lampsLoadable lampsFit).2.2
  refine ⟨rfl, (reported "ring" rfl).2, accepted fun source reaches cyclic => ?_⟩
  rw [Sample.lamps_reach reaches] at cyclic
  obtain ⟨next, includes, _⟩ := TransGen.head'_iff.mp cyclic
  exact Sample.not_includes_lamp next includes

end SceneGraph
