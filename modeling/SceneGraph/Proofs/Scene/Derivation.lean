import Mathlib.Data.List.Flatten
import Mathlib.Data.List.Forall2
import SceneGraph.Proofs.Scene.Evaluation

/-!
What the forest of a node is made of when the node has a meaning: one case a kind of node, over the
forests of the nodes below. What holds of all stamps that can be recorded therefore holds of every
stamp in a forest.
-/
namespace SceneGraph

theorem exists_of_right {α β : Type} {related : α → β → Prop} {firsts : List α} {seconds : List β}
    (each : List.Forall₂ related firsts seconds) {second : β} (member : second ∈ seconds) :
    ∃ first ∈ firsts, related first second := by
  induction each with
  | nil => cases member
  | cons pair _ ih =>
    rcases List.mem_cons.mp member with rfl | inside
    · exact ⟨_, List.mem_cons_self, pair⟩
    · obtain ⟨first, listed, held⟩ := ih inside
      exact ⟨first, List.mem_cons_of_mem _ listed, held⟩

/-- What holds of the stamp holds of those of all descendants. -/
inductive Blueprint.Every (holds : Stamp → Prop) : Blueprint → Prop
  | intro {blueprint : Blueprint} (own : holds blueprint.stamp)
      (below : ∀ child ∈ blueprint.children, Every holds child) : Every holds blueprint

/-- What holds of an empty stamp and is kept by names and by the components of a registry. -/
structure Registry.Keeps (registry : Registry) (holds : Stamp → Prop) : Prop where
  empty : holds .empty
  named : ∀ (stamp : Stamp) (name : String), holds stamp → holds (stamp.set (.name name))
  recorded : ∀ (node : String) (stamp : Stamp) (name : String) (data : Tree), holds stamp →
    holds (registry.record node stamp name data).1

namespace Setting
open Answers

/-- The forest of a declaration over the forests that `visit` gives the nodes below. -/
inductive Made (setting : Setting)
    (visit : Finset String → String → Tree → Except BuildError (List Blueprint))
    (expanding : Finset String) (name : String) : Declaration → List Blueprint → Prop
  | entity {components children : List (String × Tree)} {forest : List Blueprint}
      (below : inOrder (visit expanding) children = .ok forest) :
      Made setting visit expanding name (.entity components children)
        [⟨setting.recorded name components (Stamp.empty.set (.name name)), forest⟩]
  | group {defaults children : List (String × Tree)} {forest : List Blueprint}
      (below : inOrder (visit expanding) children = .ok forest) :
      Made setting visit expanding name (.group defaults children)
        (forest.map fun blueprint =>
          { blueprint with stamp := setting.recorded name defaults blueprint.stamp })
  | sourceless (children : List (String × Tree)) :
      Made setting visit expanding name (.template none children) [.empty]
  | rootless {source : String} (children : List (String × Tree)) {document : Tree}
      (fresh : source ∉ expanding) (answered : setting.answers source = .ok document)
      (rootless : templateRoot? document = none) :
      Made setting visit expanding name (.template (some source) children) [.empty]
  | expanded {source : String} {children : List (String × Tree)} {document : Tree}
      {root : String × Tree} {roots added : List Blueprint} (fresh : source ∉ expanding)
      (answered : setting.answers source = .ok document)
      (rooted : templateRoot? document = some root)
      (built : visit (insert source expanding) root.1 root.2 = .ok roots)
      (below : inOrder (visit expanding) children = .ok added) :
      Made setting visit expanding name (.template (some source) children)
        [⟨(roots.head?.getD .empty).stamp.set (.name name),
          (roots.head?.getD .empty).children ++ added⟩]

variable {setting : Setting} {expanding : Finset String} {name : String}
  {declaration : Declaration} {forest : List Blueprint}

section Visits
variable {visit : Finset String → String → Tree → Except BuildError (List Blueprint)}

theorem inOrder_forests {visit : String → Tree → Except BuildError (List Blueprint)}
    {nodes : List (String × Tree)} (built : inOrder visit nodes = .ok forest) :
    ∃ forests, List.Forall₂ (fun node own => visit node.1 node.2 = .ok own) nodes forests ∧
      forest = forests.flatten := by
  induction nodes generalizing forest with
  | nil =>
    cases built
    exact ⟨[], .nil, rfl⟩
  | cons node nodes ih =>
    rw [inOrder_cons] at built
    obtain ⟨own, first, built⟩ := bind_ok built
    obtain ⟨others, rest, built⟩ := bind_ok built
    cases built
    obtain ⟨forests, each, rfl⟩ := ih rest
    exact ⟨own :: forests, .cons first each, rfl⟩

theorem inOrder_ok {visit : String → Tree → Except BuildError (List Blueprint)}
    {nodes : List (String × Tree)} (built : inOrder visit nodes = .ok forest) :
    ∀ node ∈ nodes, ∃ own, visit node.1 node.2 = .ok own := by
  obtain ⟨forests, each, rfl⟩ := inOrder_forests built
  intro node member
  obtain ⟨own, _, visited⟩ := exists_of_right each.flip member
  exact ⟨own, visited⟩

theorem declarationForest_made
    (built : setting.declarationForest visit expanding name declaration = .ok forest) :
    Made setting visit expanding name declaration forest := by
  cases declaration with
  | entity components children =>
    obtain ⟨_, built, done⟩ := bind_ok built
    obtain ⟨_, below, made⟩ := bind_ok built
    cases made
    cases done
    exact .entity below
  | group defaults children =>
    obtain ⟨_, below, made⟩ := bind_ok built
    cases made
    exact .group below
  | template source? children =>
    cases source? with
    | none =>
      cases built
      exact .sourceless children
    | some source =>
      obtain ⟨blueprint, single, done⟩ := bind_ok built
      cases done
      unfold templateBlueprint at single
      by_cases inside : source ∈ expanding
      · rw [if_pos inside] at single
        cases single
      · rw [if_neg inside] at single
        obtain ⟨document, loaded, single⟩ := bind_ok single
        cases chosen : templateRoot? document with
        | none =>
          rw [chosen] at single
          cases single
          exact .rootless children inside (document_ok loaded) chosen
        | some root =>
          rw [chosen] at single
          obtain ⟨roots, expanded, single⟩ := bind_ok single
          obtain ⟨added, below, made⟩ := bind_ok single
          cases made
          exact .expanded inside (document_ok loaded) chosen expanded below

/-- The source of a template that is made is not under expansion, and the root of its document, if
there is one, has a forest. -/
theorem Made.root {source : String} {children : List (String × Tree)}
    (made : Made setting visit expanding name (.template (some source) children) forest) :
    source ∉ expanding ∧ ∀ root, setting.answers.root? source = some root →
      ∃ roots, visit (insert source expanding) root.1 root.2 = .ok roots := by
  cases made with
  | rootless children fresh answered rootless =>
    refine ⟨fresh, fun root located => ?_⟩
    rw [root?, answered] at located
    cases rootless.symm.trans located
  | expanded fresh answered rooted built below =>
    refine ⟨fresh, fun root located => ?_⟩
    rw [root?, answered] at located
    cases rooted.symm.trans located
    exact ⟨_, built⟩

/-- The nodes that are evaluated with a declaration that is made have forests. -/
theorem Made.walked (made : Made setting visit expanding name declaration forest) :
    ∀ child ∈ setting.answers.walked declaration,
      ∃ own, visit expanding child.1 child.2 = .ok own := by
  cases made with
  | entity below => exact inOrder_ok below
  | group below => exact inOrder_ok below
  | sourceless children => exact fun child member => by cases member
  | rootless children fresh answered rootless =>
    intro child member
    obtain ⟨⟨root, located⟩, _⟩ := mem_walked_template.mp member
    rw [root?, answered] at located
    cases rootless.symm.trans located
  | expanded fresh answered rooted built below =>
    exact fun child member => inOrder_ok below child (mem_walked_template.mp member).2

end Visits

/-- The forest of a declared node is made of those one level below. -/
theorem nodeForest_made {levels : Nat} {tree : Tree}
    (built : setting.nodeForest levels expanding name tree = .ok forest) :
    (tree.declaration? = none ∧ forest = []) ∨
      ∃ below declaration, levels = below + 1 ∧ tree.declaration? = some declaration ∧
        Made setting (setting.nodeForest below) expanding name declaration forest := by
  cases declared : tree.declaration? with
  | none =>
    rw [nodeForest_skipped declared] at built
    cases built
    exact .inl ⟨rfl, rfl⟩
  | some declaration =>
    cases levels with
    | zero =>
      rw [nodeForest_zero declared] at built
      cases built
    | succ below =>
      rw [nodeForest_succ declared] at built
      exact .inr ⟨below, declaration, rfl, rfl, declarationForest_made built⟩

/-- What holds of the empty forests of skipped nodes and passes from all nodes of one level to those
of the next holds of the forest of every node. -/
theorem nodeForest_induction (holds : Nat → String → Tree → List Blueprint → Prop)
    (skipped : ∀ {levels name tree}, tree.declaration? = none → holds levels name tree [])
    (made : ∀ {levels expanding name tree declaration forest},
      (∀ {expanding name tree own}, setting.nodeForest levels expanding name tree = .ok own →
        holds levels name tree own) → tree.declaration? = some declaration →
      Made setting (setting.nodeForest levels) expanding name declaration forest →
      holds (levels + 1) name tree forest)
    {levels : Nat} {tree : Tree}
    (built : setting.nodeForest levels expanding name tree = .ok forest) :
    holds levels name tree forest := by
  induction levels generalizing expanding name tree forest with
  | zero =>
    rcases nodeForest_made built with ⟨none, rfl⟩ | ⟨_, _, impossible, _⟩
    · exact skipped none
    · cases impossible
  | succ levels ih =>
    rcases nodeForest_made built with ⟨none, rfl⟩ | ⟨_, _, same, declared, step⟩
    · exact skipped none
    · cases same
      exact made ih declared step

theorem forall_inOrder {property : Blueprint → Prop}
    {visit : String → Tree → Except BuildError (List Blueprint)}
    (visits : ∀ {name tree own}, visit name tree = .ok own →
      ∀ blueprint ∈ own, property blueprint)
    {nodes : List (String × Tree)} (built : inOrder visit nodes = .ok forest) :
    ∀ blueprint ∈ forest, property blueprint := by
  obtain ⟨forests, each, rfl⟩ := inOrder_forests built
  clear built
  induction each with
  | nil => simp
  | cons first _ ih =>
    intro blueprint member
    rcases List.mem_append.mp member with inside | later
    · exact visits first blueprint inside
    · exact ih blueprint later

section Every
variable {holds : Stamp → Prop} (keeps : setting.registry.Keeps holds)
include keeps

theorem recorded_keeps (node : String) (declared : List (String × Tree)) {stamp : Stamp}
    (held : holds stamp) : holds (setting.recorded node declared stamp) := by
  unfold recorded
  induction declared generalizing stamp with
  | nil => exact held
  | cons entry rest ih => exact ih (keeps.recorded node stamp entry.1 entry.2 held)

theorem every_empty : Blueprint.empty.Every holds :=
  .intro keeps.empty fun _ member => by cases member

theorem every_made {visit : Finset String → String → Tree → Except BuildError (List Blueprint)}
    (visits : ∀ {expanding name tree own}, visit expanding name tree = .ok own →
      ∀ blueprint ∈ own, blueprint.Every holds)
    (made : Made setting visit expanding name declaration forest) :
    ∀ blueprint ∈ forest, blueprint.Every holds := by
  intro blueprint member
  cases made with
  | entity below =>
    cases List.mem_singleton.mp member
    exact .intro (recorded_keeps keeps name _ (keeps.named _ name keeps.empty))
      (forall_inOrder visits below)
  | group below =>
    obtain ⟨inner, inside, rfl⟩ := List.mem_map.mp member
    cases forall_inOrder visits below inner inside with
    | intro own children => exact .intro (recorded_keeps keeps name _ own) children
  | sourceless children =>
    cases List.mem_singleton.mp member
    exact every_empty keeps
  | rootless children fresh answered rootless =>
    cases List.mem_singleton.mp member
    exact every_empty keeps
  | @expanded _ _ _ _ roots _ fresh answered rooted built below =>
    cases List.mem_singleton.mp member
    have root : (roots.head?.getD .empty).Every holds := by
      cases roots with
      | nil => exact every_empty keeps
      | cons first rest => exact visits built first List.mem_cons_self
    cases root with
    | intro own children =>
      refine .intro (keeps.named _ name own) fun child listed => ?_
      rcases List.mem_append.mp listed with inner | added
      · exact children child inner
      · exact forall_inOrder visits below child added

theorem every_nodeForest {levels : Nat} {tree : Tree}
    (built : setting.nodeForest levels expanding name tree = .ok forest) :
    ∀ blueprint ∈ forest, blueprint.Every holds :=
  nodeForest_induction (fun _ _ _ forest => ∀ blueprint ∈ forest, blueprint.Every holds)
    (fun _ => List.forall_mem_nil _) (fun visits _ made => every_made keeps visits made) built

theorem every_forest {tree : Tree} (built : setting.forest tree = .ok forest) :
    ∀ blueprint ∈ forest, blueprint.Every holds :=
  forall_inOrder (every_nodeForest keeps) built

end Every
end Setting
end SceneGraph
