import Mathlib.Algebra.BigOperators.Group.Finset.Basic
import SceneGraph.Proofs.OrderedMap
import SceneGraph.Proofs.Scene.Refinement

/-!
The depth limit refuses trees and changes none. A build that a limit lets pass ends the same way
under every larger one, and a finite library has a limit from which on no tree is refused: the
documents under expansion are pairwise distinct, so their heights bound the nesting together, also
when documents include each other.
-/
namespace SceneGraph
open Setting

/-- The second outcome is the first one, unless that is a refusal of too deep a node. -/
def Settles {α : Type} (first second : Except BuildError α) : Prop :=
  (∃ name limit, first = .error (.depthExceeded name limit)) ∨ second = first

namespace Settles

variable {α β : Type}

theorem refl (outcome : Except BuildError α) : Settles outcome outcome := .inr rfl

theorem bind {first second : Except BuildError α} {next later : α → Except BuildError β}
    (firsts : Settles first second) (rests : ∀ value, Settles (next value) (later value)) :
    Settles (first >>= next) (second >>= later) := by
  rcases firsts with ⟨name, limit, rfl⟩ | rfl
  · exact .inl ⟨name, limit, rfl⟩
  · cases second with
    | error error => exact refl _
    | ok value => exact rests value

section Visits
variable {visit later : Finset String → String → Tree → Except BuildError (List Blueprint)}
  (visits : ∀ expanding name tree,
    Settles (visit expanding name tree) (later expanding name tree))
include visits

theorem inOrder (expanding : Finset String) (nodes : List (String × Tree)) :
    Settles (inOrder (visit expanding) nodes) (inOrder (later expanding) nodes) := by
  induction nodes with
  | nil => exact refl _
  | cons node nodes ih =>
    rw [inOrder_cons, inOrder_cons]
    exact bind (visits expanding node.1 node.2) fun _ => bind ih fun _ => refl _

theorem template (setting : Setting) (expanding : Finset String) (name source : String)
    (children : List (String × Tree)) :
    Settles (setting.templateBlueprint visit expanding name source children)
      (setting.templateBlueprint later expanding name source children) := by
  unfold templateBlueprint
  split
  · exact refl _
  · apply bind (refl _)
    intro document
    cases templateRoot? document with
    | none => exact refl _
    | some root =>
      apply bind (visits _ root.1 root.2)
      intro roots
      exact bind (inOrder visits expanding children) fun _ => refl _

theorem declaration (setting : Setting) (expanding : Finset String) (name : String)
    (declaration : Declaration) :
    Settles (setting.declarationForest visit expanding name declaration)
      (setting.declarationForest later expanding name declaration) := by
  cases declaration with
  | entity components children =>
    have inner := inOrder visits expanding children
    exact bind (bind inner fun _ => refl _) fun _ => refl _
  | group defaults children => exact bind (inOrder visits expanding children) fun _ => refl _
  | template source? children =>
    cases source? with
    | none => exact refl _
    | some source =>
      exact bind (template visits setting expanding name source children) fun _ => refl _

end Visits

theorem node (registry : Registry) (answers : Answers) {limit larger levels more : Nat}
    (enough : levels ≤ more) (expanding : Finset String) (name : String) (tree : Tree) :
    Settles (nodeForest ⟨registry, answers, limit⟩ levels expanding name tree)
      (nodeForest ⟨registry, answers, larger⟩ more expanding name tree) := by
  induction levels generalizing more expanding name tree with
  | zero =>
    cases declared : tree.declaration? with
    | none =>
      rw [nodeForest_skipped declared, nodeForest_skipped declared]
      exact refl _
    | some declaration => exact .inl ⟨name, limit, nodeForest_zero declared⟩
  | succ levels ih =>
    cases declared : tree.declaration? with
    | none =>
      rw [nodeForest_skipped declared, nodeForest_skipped declared]
      exact refl _
    | some declared_node =>
      obtain ⟨more, rfl⟩ := Nat.exists_eq_add_one_of_ne_zero (Nat.ne_zero_of_lt enough)
      rw [nodeForest_succ declared, nodeForest_succ declared]
      have inner := ih (Nat.le_of_succ_le_succ enough)
      exact declaration inner ⟨registry, answers, limit⟩ expanding name declared_node

end Settles

namespace Answers

/-- No other sources have documents. -/
def ConfinedTo (answers : Answers) (sources : Finset String) : Prop :=
  ∀ source document, answers source = .ok document → source ∈ sources

def documentHeight (answers : Answers) (source : String) : Nat :=
  ((answers source).toOption.map Tree.height).getD 0

variable {answers : Answers} {source : String}

theorem confinedTo_ofDocuments {documents : OrderedMap Tree} (formed : documents.WellFormed) :
    (ofDocuments documents).ConfinedTo documents.keys.toFinset := by
  intro source document answered
  rw [List.mem_toFinset]
  by_contra absent
  have missing : documents.get? source = none := by
    rw [OrderedMap.get?, (formed.index_eq_none_iff source).mpr absent]
    rfl
  rw [ofDocuments, missing] at answered
  cases answered

theorem root?_eq_some {root : String × Tree} (rooted : answers.root? source = some root) :
    ∃ document, answers source = .ok document ∧ root ∈ document.nodes := by
  obtain ⟨document, answered, chosen⟩ := Option.bind_eq_some_iff.mp rooted
  obtain ⟨fields, shape, found⟩ := Option.bind_eq_some_iff.mp chosen
  refine ⟨document, ?_, ?_⟩
  · cases stored : answers source with
    | error fault =>
      rw [stored] at answered
      cases answered
    | ok tree =>
      rw [stored] at answered
      cases answered
      rfl
  · rw [Tree.nodes, shape]
    exact List.mem_of_find?_eq_some found

theorem documentHeight_eq {document : Tree} (answered : answers source = .ok document) :
    answers.documentHeight source = document.height := by
  rw [documentHeight, answered]
  rfl

theorem nodeHeight_root_le {root : String × Tree} (rooted : answers.root? source = some root) :
    root.2.nodeHeight ≤ answers.documentHeight source := by
  obtain ⟨document, answered, member⟩ := root?_eq_some rooted
  rw [documentHeight_eq answered]
  exact Tree.nodeHeight_le member

theorem walked_subset {declaration : Declaration} {child : String × Tree}
    (member : child ∈ answers.walked declaration) : child ∈ declaration.children := by
  cases declaration with
  | entity components children => exact member
  | group defaults children => exact member
  | template source? children =>
    cases source? with
    | none => simp [walked] at member
    | some source => exact (mem_walked_template.mp member).2

theorem nodeHeight_child_lt {tree : Tree} {declaration : Declaration} {child : String × Tree}
    (declared : tree.declaration? = some declaration)
    (member : child ∈ answers.walked declaration) : child.2.nodeHeight < tree.nodeHeight := by
  have bound := Tree.nodeHeight_le (walked_subset member)
  have height := Tree.nodeHeight_eq declared
  omega

/-- How much deeper nodes can nest by the expansion of sources that are not yet expanded. -/
def reserve (answers : Answers) (sources expanding : Finset String) : Nat :=
  ∑ source ∈ sources \ expanding, answers.documentHeight source

theorem reserve_expand {sources expanding : Finset String} (confined : answers.ConfinedTo sources)
    {document : Tree} (answered : answers source = .ok document) (fresh : source ∉ expanding) :
    answers.documentHeight source + answers.reserve sources (insert source expanding) =
      answers.reserve sources expanding := by
  have member : source ∈ sources \ expanding :=
    Finset.mem_sdiff.mpr ⟨confined source document answered, fresh⟩
  rw [reserve, reserve, Finset.sdiff_insert]
  exact Finset.add_sum_erase _ _ member

end Answers

namespace Setting.Fails

/-- A node that is refused lies deeper than its own height and the reserve allow. -/
theorem levels_lt {setting : Setting} {sources : Finset String}
    (confined : setting.answers.ConfinedTo sources) {levels : Nat} {expanding : Finset String}
    {name : String} {tree : Tree} {refused : String} {limit : Nat}
    (fails : Fails setting levels expanding name tree (.depthExceeded refused limit)) :
    levels < tree.nodeHeight + setting.answers.reserve sources expanding := by
  generalize error_eq : BuildError.depthExceeded refused limit = error at fails
  induction fails with
  | tooDeep expanding name declared =>
    have height := Tree.nodeHeight_eq declared
    omega
  | cyclic => cases error_eq
  | unloaded => cases error_eq
  | root name declared fresh rooted below ih =>
    obtain ⟨document, answered, _⟩ := Answers.root?_eq_some rooted
    have inner := ih error_eq
    -- The source is expanded once on the way, so its document's height leaves the reserve.
    have bound := Answers.nodeHeight_root_le rooted
    have spent := Answers.reserve_expand confined answered fresh
    have height := Tree.nodeHeight_eq declared
    omega
  | child name declared member below ih =>
    have inner := ih error_eq
    have smaller := Answers.nodeHeight_child_lt declared member
    omega

end Setting.Fails

namespace Setting

theorem forest_not_refused {setting : Setting} {sources : Finset String}
    (confined : setting.answers.ConfinedTo sources) {tree : Tree}
    (enough : tree.height + ∑ source ∈ sources, setting.answers.documentHeight source ≤
      setting.maxDepth) (refused : String) (limit : Nat) :
    setting.forest tree ≠ .error (.depthExceeded refused limit) := by
  intro failed
  obtain ⟨node, member, fails⟩ := inOrder_error failed
  have deep := Fails.levels_lt confined (nodeForest_fails fails)
  have bound := Tree.nodeHeight_le member
  rw [Answers.reserve, Finset.sdiff_empty] at deep
  unfold Tree.height at enough
  omega

end Setting

namespace Sample
open Answers

theorem declaration?_entity (children : List (String × Tree)) :
    (entity children).declaration? = some (.entity [] (list children).nodes) := by
  simp [Tree.declaration?, Tree.typeName?, Tree.get?, Tree.fields?, Tree.string?, NodeKind.ofName?,
    Declaration.ofFields, Tree.mapField_eq, OrderedMap.get?_ofList, entity, text, list]

theorem declaration?_template (source : String) (children : List (String × Tree)) :
    (template source children).declaration? =
      some (.template (some source) (list children).nodes) := by
  simp [Tree.declaration?, Tree.typeName?, Tree.get?, Tree.fields?, Tree.string?, NodeKind.ofName?,
    Declaration.ofFields, Tree.mapField_eq, scalarField, Tree.scalar?, Scalar.display,
    OrderedMap.get?_ofList, template, text, list]

theorem height_singleton (name : String) (node : Tree) :
    (list [(name, node)]).height = node.nodeHeight :=
  Nat.max_zero _

theorem nodeHeight_entity (children : List (String × Tree)) :
    (entity children).nodeHeight = 1 + (list children).height :=
  Tree.nodeHeight_eq (declaration?_entity children)

theorem nodeHeight_template (source : String) (children : List (String × Tree)) :
    (template source children).nodeHeight = 1 + (list children).height :=
  Tree.nodeHeight_eq (declaration?_template source children)

theorem height_rings : rings.height = 1 := by
  have leaf : (list []).height = 0 := rfl
  simp [rings, height_singleton, nodeHeight_template, leaf]

def sources : Finset String := {"lamp", "ring", "chain"}

theorem library_confined : (ofDocuments library).ConfinedTo sources := by
  have keys : library.keys = ["lamp", "ring", "chain"] := rfl
  have confined : (ofDocuments library).ConfinedTo library.keys.toFinset :=
    confinedTo_ofDocuments (OrderedMap.wellFormed_ofList _)
  rw [keys] at confined
  exact confined

theorem library_height : ∑ source ∈ sources, (ofDocuments library).documentHeight source = 6 := by
  have leaf : (list []).height = 0 := rfl
  have lamp : (ofDocuments library).documentHeight "lamp" = _ := documentHeight_eq rfl
  have ring : (ofDocuments library).documentHeight "ring" = _ := documentHeight_eq rfl
  have chain : (ofDocuments library).documentHeight "chain" = _ := documentHeight_eq rfl
  simp [sources, lamp, ring, chain, height_singleton, nodeHeight_entity, nodeHeight_template, leaf]

end Sample

namespace Builder
variable {σ : Type} {builder : Builder σ} {answers : Answers} {progress : Progress σ}

def limitedTo (builder : Builder σ) (maxDepth : Nat) : Builder σ := { builder with maxDepth }

/-- A tree that one limit does not refuse has the same outcome under all larger ones, from any
states; and no tree is refused when the limit is at least its height and those of all documents. -/
theorem depth_limit_only_refuses (follows : builder.loader.Follows answers)
    (reached : builder.Reachable progress) (tree : Tree) :
    ((∀ refused limit, builder.outcome progress tree ≠ .error (.depthExceeded refused limit)) →
      ∀ larger, builder.maxDepth ≤ larger → ∀ later, (builder.limitedTo larger).Reachable later →
        (builder.limitedTo larger).outcome later tree = builder.outcome progress tree) ∧
      ∀ sources, answers.ConfinedTo sources →
        tree.height + ∑ source ∈ sources, answers.documentHeight source ≤ builder.maxDepth →
        ∀ refused limit, builder.outcome progress tree ≠ .error (.depthExceeded refused limit) := by
  rw [outcome_eq follows reached]
  constructor
  · intro accepted larger enough later laterReached
    have laterFollows : (builder.limitedTo larger).loader.Follows answers := follows
    have settles : Settles ((builder.setting answers).forest tree)
        (((builder.limitedTo larger).setting answers).forest tree) :=
      Settles.inOrder (Settles.node builder.registry answers enough) ∅ tree.nodes
    rw [outcome_eq laterFollows laterReached]
    rcases settles with ⟨refused, limit, failed⟩ | same
    · exact absurd failed (accepted refused limit)
    · exact same
  · intro sources confined enough
    have bounded : (builder.setting answers).answers.ConfinedTo sources := confined
    exact forest_not_refused bounded enough

end Builder

/-- Two documents that include each other nest less than eight levels deep before they are found
to do so. -/
theorem rings_outcome_above_seven :
    (∀ refused limit, (Sample.builder.limitedTo 7).outcome (.start ()) Sample.rings ≠
      .error (.depthExceeded refused limit)) ∧
      (Sample.builder.limitedTo 64).outcome (.start ()) Sample.rings =
        (Sample.builder.limitedTo 7).outcome (.start ()) Sample.rings := by
  have follows : (Sample.builder.limitedTo 7).loader.Follows (.ofDocuments Sample.library) :=
    Loader.follows_ofDocuments Sample.library
  have limited := Builder.depth_limit_only_refuses follows (.start ()) Sample.rings
  have accepted := limited.2 Sample.sources Sample.library_confined (by
    rw [Sample.height_rings, Sample.library_height]
    exact Nat.le_refl 7)
  exact ⟨accepted, limited.1 accepted 64 (by decide) (.start ()) (.start ())⟩

end SceneGraph
