import SceneGraph.Proofs.Scene.Coupling

/-!
Trees that declare the same, up to component data that leave related stamps. One tree echoes
another if it has the same nodes in the same order, apart from some that are skipped anyway. Builds
of such trees, with loaders of such documents, go side by side to the end.
-/
namespace SceneGraph
open Build

namespace Tree

mutual

/-- Both nodes are skipped, or they declare the same with echoing children. -/
inductive Echoes (data : List (String × Tree) → List (String × Tree) → Prop) : Tree → Tree → Prop
  | skipped {node other : Tree} (skipped : node.declaration? = none)
      (otherSkipped : other.declaration? = none) : Echoes data node other
  | declared {node other : Tree} {declaration otherDeclaration : Declaration}
      (declared : node.declaration? = some declaration)
      (otherDeclared : other.declaration? = some otherDeclaration)
      (alike : declaration.Alike data otherDeclaration)
      (children : EchoesAll data declaration.children otherDeclaration.children) :
      Echoes data node other

/-- The same names in the same order, apart from skipped nodes that are left out. -/
inductive EchoesAll (data : List (String × Tree) → List (String × Tree) → Prop) :
    List (String × Tree) → List (String × Tree) → Prop
  | nil : EchoesAll data [] []
  | cons (name : String) {node other : Tree} {rest others : List (String × Tree)}
      (first : Echoes data node other) (below : EchoesAll data rest others) :
      EchoesAll data ((name, node) :: rest) ((name, other) :: others)
  | leftOut (name : String) {node : Tree} {rest others : List (String × Tree)}
      (skipped : node.declaration? = none) (below : EchoesAll data rest others) :
      EchoesAll data ((name, node) :: rest) others

end

def ListEchoes (data : List (String × Tree) → List (String × Tree) → Prop) (tree other : Tree) :
    Prop :=
  EchoesAll data tree.nodes other.nodes

end Tree

theorem Tree.echoesAll_of_members {data : List (String × Tree) → List (String × Tree) → Prop}
    {nodes : List (String × Tree)} (each : ∀ node ∈ nodes, node.2.Echoes data node.2) :
    EchoesAll data nodes nodes := by
  induction nodes with
  | nil => exact .nil
  | cons node rest ih =>
    have later := ih fun other member => each other (.tail _ member)
    exact .cons node.1 (each node (.head _)) later

section Reflexive
variable {data : List (String × Tree) → List (String × Tree) → Prop} (same : ∀ list, data list list)
include same

theorem Tree.echoes_refl (tree : Tree) : tree.Echoes data tree := by
  cases declared : tree.declaration? with
  | none => exact .skipped declared declared
  | some declaration =>
    have children : EchoesAll data declaration.children declaration.children :=
      echoesAll_of_members fun child _ => echoes_refl child.2
    exact .declared declared declared (Declaration.alike_refl same declaration) children
termination_by sizeOf tree
decreasing_by exact sizeOf_child declared ‹_›

theorem Tree.listEchoes_refl (tree : Tree) : tree.ListEchoes data tree :=
  echoesAll_of_members fun node _ => echoes_refl same node.2

end Reflexive

variable {data : List (String × Tree) → List (String × Tree) → Prop}
  {stamps : Stamp → Stamp → Prop}

theorem Tree.Echoes.isTemplateRoot_eq {node other : Tree} (echoes : node.Echoes data other) :
    isTemplateRoot node = isTemplateRoot other := by
  rw [SceneGraph.isTemplateRoot_eq, SceneGraph.isTemplateRoot_eq]
  cases echoes with
  | skipped skipped otherSkipped => rw [skipped, otherSkipped]
  | declared declared otherDeclared alike children =>
    rw [declared, otherDeclared]
    cases alike <;> rfl

theorem Tree.ListEchoes.root {document other : Tree}
    (echoes : document.ListEchoes data other) :
    Option.Rel (fun root other => root.1 = other.1 ∧ root.2.Echoes data other.2)
      (templateRoot? document) (templateRoot? other) := by
  rw [templateRoot?_eq, templateRoot?_eq]
  revert echoes
  unfold ListEchoes
  generalize document.nodes = nodes, other.nodes = others
  intro echoes
  induction nodes generalizing others with
  | nil =>
    cases echoes
    exact .none
  | cons entry rest ih =>
    cases echoes with
    | cons name first below =>
      simp only [List.find?_cons, first.isTemplateRoot_eq]
      split
      · exact .some ⟨rfl, first⟩
      · exact ih _ below
    | leftOut name skipped below =>
      have passed := isTemplateRoot_eq _ |>.trans (by rw [skipped])
      simp only [List.find?_cons, passed]
      exact ih _ below

namespace Build

variable {σ : Type}

/-- Visits of echoing nodes give related forests, and visits of skipped ones nothing. -/
structure Visits (data : List (String × Tree) → List (String × Tree) → Prop)
    (stamps : Stamp → Stamp → Prop) (visit otherVisit : String → Tree → Build σ (List Blueprint)) :
    Prop where
  skipped : ∀ (name : String) {node : Tree}, node.declaration? = none →
    Settled (visit name node) (.ok [])
  paired : ∀ (name : String) {node other : Tree}, node.Echoes data other →
    Paired (Tree.ListEchoes data) (List.Forall₂ (Blueprint.Alike stamps)) (visit name node)
      (otherVisit name other)

theorem Visits.entries {visit otherVisit : String → Tree → Build σ (List Blueprint)}
    (visits : Visits data stamps visit otherVisit) {loader otherLoader : Loader σ}
    (loaders : loader.Beside (Tree.ListEchoes data) otherLoader)
    {nodes others : List (String × Tree)} (echoes : Tree.EchoesAll data nodes others) :
    Paired (Tree.ListEchoes data) (List.Forall₂ (Blueprint.Alike stamps))
      (Build.entries visit nodes) (Build.entries otherVisit others) := by
  have coupling := Paired.coupling loaders
  induction nodes generalizing others with
  | nil =>
    cases echoes
    exact coupling.pure .nil
  | cons entry rest ih =>
    cases echoes with
    | cons name first below =>
      refine coupling.bind (visits.paired name first) fun forest otherForest same => ?_
      refine coupling.bind (ih below) fun later otherLater sameLater => ?_
      exact coupling.pure (List.rel_append same sameLater)
    | leftOut name skipped below =>
      -- The other list has no node here, so only one side takes a step.
      refine coupling.settledLeft (visits.skipped name skipped) ?_
      simp only [List.nil_append, bind_pure]
      exact ih below

section Builders
variable {builder : Builder σ} {loader : Loader σ} {answers : Answers}
  (loaders : builder.loader.Beside (Tree.ListEchoes data) loader)
  (accord : (builder.setting answers).Accord stamps data)

theorem Visits.of_declared {levels : Nat}
    (paired : ∀ (name : String) (node other : Tree) (declaration otherDeclaration : Declaration),
      node.declaration? = some declaration → other.declaration? = some otherDeclaration →
      declaration.Alike data otherDeclaration →
      Tree.EchoesAll data declaration.children otherDeclaration.children →
      Paired (Tree.ListEchoes data) (List.Forall₂ (Blueprint.Alike stamps))
        (Build.node builder levels name node)
        (Build.node { builder with loader } levels name other)) :
    Visits data stamps (Build.node builder levels) (Build.node { builder with loader } levels) where
  skipped name _ skipped := settled_skipped builder levels name skipped
  paired name _ _ echoes := by
    cases echoes with
    | skipped skipped otherSkipped =>
      exact .settled (settled_skipped _ _ name skipped) (settled_skipped _ _ name otherSkipped) .nil
    | declared declared otherDeclared alike children =>
      exact paired name _ _ _ _ declared otherDeclared alike children

include loaders accord

theorem visits_node (levels : Nat) :
    Visits data stamps (Build.node builder levels) (Build.node { builder with loader } levels) := by
  -- The root of a template's document is visited one level down, as the children of a node are.
  induction levels with
  | zero =>
    refine .of_declared fun name _ _ _ _ declared otherDeclared _ _ => ?_
    rw [node_zero builder name declared, node_zero { builder with loader } name otherDeclared]
    exact .throw _
  | succ levels ih =>
    refine .of_declared fun name _ _ _ _ declared otherDeclared alike children => ?_
    have coupling : Coupling builder.loader ({ builder with loader } : Builder σ).loader
        (Tree.ListEchoes data) fun related => Paired (Tree.ListEchoes data) related :=
      Paired.coupling loaders
    refine coupling.node rfl accord ?_ name declared otherDeclared alike
      (ih.entries loaders children)
    intro document other documents
    have chosen := documents.root
    revert chosen
    generalize templateRoot? document = root?, templateRoot? other = otherRoot?
    intro chosen
    cases chosen with
    | none => exact .none
    | some both => exact .some ⟨both.1, both.1 ▸ ih.paired _ both.2⟩

theorem paired_buildTree {tree other : Tree} (echoes : tree.ListEchoes data other) :
    Paired (Tree.ListEchoes data) (List.Forall₂ (Blueprint.Alike stamps)) (builder.buildTree tree)
      ({ builder with loader }.buildTree other) :=
  (Paired.coupling loaders).nodeList
    ((visits_node loaders accord builder.maxDepth).entries loaders echoes)

end Builders
end Build

namespace Builder

variable {σ : Type}

/-- The outcomes of builds one after the other, whatever becomes of each. -/
def outcomes (builder : Builder σ) :
    Progress σ → List Tree → List (Except BuildError (List Blueprint))
  | _, [] => []
  | before, tree :: rest =>
      builder.outcome before tree ::
        builder.outcomes ((builder.buildTree tree).run.run before).2 rest

theorem outcomes_alike {builder : Builder σ} {loader : Loader σ} {answers : Answers}
    (loaders : builder.loader.Beside (Tree.ListEchoes data) loader)
    (accord : (builder.setting answers).Accord stamps data) {before other : Progress σ}
    (beside : before.Beside (Tree.ListEchoes data) other) {trees others : List Tree}
    (echoes : List.Forall₂ (Tree.ListEchoes data) trees others) :
    List.Forall₂ (Alike (List.Forall₂ (Blueprint.Alike stamps))) (builder.outcomes before trees)
      ({ builder with loader }.outcomes other others) := by
  induction echoes generalizing before other with
  | nil => exact .nil
  | cons first rest ih =>
    obtain ⟨alike, after⟩ := Build.paired_buildTree loaders accord first before other beside
    exact .cons alike (ih after)

end Builder
end SceneGraph
