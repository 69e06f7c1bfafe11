import SceneGraph.Proofs.Scene.Defaults

/-!
What stamps hold and where their names stand. A blueprint is labelled with the key of the entity
node or of the outermost template usage that it stems from, and the label comes first in its stamp;
behind it are values of the standard components, one each at most. Only template usages that come
out empty leave a blueprint without a label.
-/
namespace SceneGraph
open Setting

namespace Stamp

/-- The label first, if there is one, then values of the standard components, in slots of their
own. -/
structure Labelled (label : Option String) (stamp : Stamp) : Prop where
  listed : ∃ values, stamp.components = (label.map Component.name).toList ++ values ∧
    ∀ value ∈ values, ∃ standard : Standard, value.type = standard.type
  distinct : stamp.Distinct

theorem labelled_empty : empty.Labelled none where
  listed := ⟨[], rfl, List.forall_mem_nil _⟩
  distinct := List.nodup_nil

theorem labelled_name (name : String) : (empty.set (.name name)).Labelled (some name) where
  listed := ⟨[], rfl, List.forall_mem_nil _⟩
  distinct := labelled_empty.distinct.set (.name name)

namespace Labelled
variable {label : Option String} {stamp : Stamp}

theorem rename {old : String} (labelled : stamp.Labelled (some old)) (name : String) :
    (stamp.set (.name name)).Labelled (some name) where
  listed := by
    obtain ⟨values, components, standard⟩ := labelled.listed
    have same : (Component.name old).id = (Component.name name).id := rfl
    refine ⟨values, ?_, standard⟩
    simp only [Stamp.set, components, Option.map_some, Option.toList_some, List.singleton_append,
      record, if_pos same]
  distinct := labelled.distinct.set (.name name)

theorem set (labelled : stamp.Labelled label) {component : Component} {standard : Standard}
    (type : component.type = standard.type) : (stamp.set component).Labelled label where
  listed := by
    obtain ⟨values, components, standards⟩ := labelled.listed
    refine ⟨record component values, ?_, fun value member => ?_⟩
    · cases label with
      | none =>
        rw [Stamp.set, components]
        rfl
      | some name =>
        have id : component.id = standard.type.id := congrArg ComponentType.id type
        have apart : (Component.name name).id ≠ component.id := by
          change ComponentType.name.id ≠ component.id
          rw [id]
          cases standard <;> decide
        simp only [Stamp.set, components, Option.map_some, Option.toList_some,
          List.singleton_append, record, if_neg apart]
    · rcases mem_record member with rfl | inside
      · exact ⟨standard, type⟩
      · exact standards value inside
  distinct := labelled.distinct.set component

theorem recorded {setting : Setting} (standards : setting.registry = .defaults)
    (labelled : stamp.Labelled label) (node : String) (declared : List (String × Tree)) :
    (setting.recorded node declared stamp).Labelled label := by
  unfold Setting.recorded
  rw [standards]
  induction declared generalizing stamp with
  | nil => exact labelled
  | cons entry rest ih =>
    apply ih
    dsimp only
    rw [Registry.record_defaults]
    split
    · rename_i component made
      obtain ⟨standard, type⟩ := Standard.type_made made
      exact labelled.set type
    · exact labelled

end Labelled
end Stamp

namespace Answers

/-- The label of what an entity or template node becomes: its key, unless it is a template without
a source or with a document that has no root. -/
def label? (answers : Answers) (name : String) : Declaration → Option String
  | .template none _ => none
  | .template (some source) _ => (answers.root? source).map fun _ => name
  | .entity _ _ => some name
  | .group _ _ => none

/-- The nodes that the children of a node's blueprint stem from: those of the root of a template's
document, however often that is a template itself, before those declared at the usage. -/
inductive Below (answers : Answers) : Declaration → List Member → Prop
  | entity (components children : List (String × Tree)) :
      Below answers (.entity components children) (Tree.membersOf children)
  | sourceless (children : List (String × Tree)) : Below answers (.template none children) []
  | rootless {source : String} (children : List (String × Tree)) {document : Tree}
      (answered : answers source = .ok document) (rootless : templateRoot? document = none) :
      Below answers (.template (some source) children) []
  | expanded {source : String} (children : List (String × Tree)) {document : Tree}
      {root : String × Tree} {declaration : Declaration} {inner : List Member}
      (answered : answers source = .ok document) (rooted : templateRoot? document = some root)
      (declared : root.2.declaration? = some declaration)
      (below : Below answers declaration inner) :
      Below answers (.template (some source) children) (inner ++ Tree.membersOf children)

/-- A blueprint carries the label of the node that it stems from, and its children stem from those
below. Where there is no label only the groups around the node can have given components. -/
inductive Stems (answers : Answers) : Member → Blueprint → Prop
  | intro {member : Member} {blueprint : Blueprint} {members : List Member}
      (labelled : blueprint.stamp.Labelled (answers.label? member.name member.declaration))
      (bare : answers.label? member.name member.declaration = none → member.groups = [] →
        blueprint.stamp = .empty)
      (below : Below answers member.declaration members)
      (children : List.Forall₂ (Stems answers) members blueprint.children) :
      Stems answers member blueprint

variable {answers : Answers} {members : List Member} {forest : List Blueprint}

theorem forall₂_stems_inOrder {visit : String → Tree → Except BuildError (List Blueprint)}
    (visits : ∀ {name tree own}, visit name tree = .ok own →
      List.Forall₂ answers.Stems (tree.members name) own)
    {nodes : List (String × Tree)} (built : inOrder visit nodes = .ok forest) :
    List.Forall₂ answers.Stems (Tree.membersOf nodes) forest := by
  obtain ⟨forests, each, rfl⟩ := inOrder_forests built
  clear built
  induction each with
  | nil => exact .nil
  | cons first _ ih => exact List.rel_append (visits first) ih

/-- Defaults write behind the label. -/
theorem forall₂_stems_group {setting : Setting} (standards : setting.registry = .defaults)
    (name : String) (defaults : List (String × Tree))
    (inner : List.Forall₂ answers.Stems members forest) :
    List.Forall₂ answers.Stems (members.map (.inside defaults))
      (forest.map fun blueprint =>
        { blueprint with stamp := setting.recorded name defaults blueprint.stamp }) := by
  rw [List.forall₂_map_left_iff, List.forall₂_map_right_iff]
  apply inner.imp
  intro member blueprint stems
  cases stems with
  | intro labelled bare below children =>
    exact .intro (labelled.recorded standards name defaults)
      (fun _ outside => absurd outside (List.cons_ne_nil _ _)) below children

theorem stems_expanded {source name : String} {document : Tree} {root : String × Tree}
    {declaration : Declaration} {children : List (String × Tree)} {expansion : Blueprint}
    {added : List Blueprint} (answered : answers source = .ok document)
    (rooted : templateRoot? document = some root)
    (declared : root.2.declaration? = some declaration)
    (stems : answers.Stems ⟨root.1, [], declaration⟩ expansion)
    (below : List.Forall₂ answers.Stems (Tree.membersOf children) added) :
    answers.Stems ⟨name, [], .template (some source) children⟩
      ⟨expansion.stamp.set (.name name), expansion.children ++ added⟩ := by
  have found : answers.root? source = some root := by
    rw [root?, answered]
    exact rooted
  have label : answers.label? name (.template (some source) children) = some name := by
    rw [label?, found]
    rfl
  cases stems with
  | intro labelled bare inner own =>
    refine .intro ?_ ?_ (.expanded children answered rooted declared inner)
      (List.rel_append own below)
    · -- A root with a label has it replaced; one without is in no group, so its stamp is empty.
      rw [label]
      cases former : answers.label? root.1 declaration with
      | none =>
        rw [bare former rfl]
        exact Stamp.labelled_name name
      | some old =>
        rw [former] at labelled
        exact labelled.rename name
    · intro unlabelled
      rw [label] at unlabelled
      cases unlabelled

/-- One level of nodes, over what the nodes below give. -/
theorem forall₂_stems_made {setting : Setting} (standards : setting.registry = .defaults)
    {visit : Finset String → String → Tree → Except BuildError (List Blueprint)}
    (visits : ∀ {expanding name tree own}, visit expanding name tree = .ok own →
      List.Forall₂ setting.answers.Stems (tree.members name) own)
    {expanding : Finset String} {name : String} {tree : Tree} {declaration : Declaration}
    (declared : tree.declaration? = some declaration)
    (made : Made setting visit expanding name declaration forest) :
    List.Forall₂ setting.answers.Stems (tree.members name) forest := by
  cases made with
  | entity below =>
    rw [Tree.members_entity declared]
    have labelled := (Stamp.labelled_name name).recorded standards name
    exact .cons (.intro (labelled _) (fun unlabelled => by cases unlabelled) (.entity _ _)
      (forall₂_stems_inOrder visits below)) .nil
  | group below =>
    rw [Tree.members_group declared]
    exact forall₂_stems_group standards name _ (forall₂_stems_inOrder visits below)
  | sourceless children =>
    rw [Tree.members_template declared]
    exact .cons (.intro Stamp.labelled_empty (fun _ _ => rfl) (.sourceless children) .nil) .nil
  | @rootless source children document fresh answered rootless =>
    rw [Tree.members_template declared]
    have label : setting.answers.label? name (.template (some source) children) = none := by
      rw [label?, root?, answered]
      exact congrArg (Option.map _) rootless
    refine .cons (.intro ?_ (fun _ _ => rfl) (.rootless children answered rootless) .nil) .nil
    rw [label]
    exact Stamp.labelled_empty
  | expanded fresh answered rooted built below =>
    obtain ⟨rootDeclaration, rootDeclared, alone⟩ := Tree.members_templateRoot rooted
    have root := visits built
    rw [alone] at root
    obtain ⟨expansion, _, stems, none, rfl⟩ := List.forall₂_cons_left_iff.mp root
    cases none
    rw [Tree.members_template declared]
    exact .cons (stems_expanded answered rooted rootDeclared stems
      (forall₂_stems_inOrder visits below)) .nil

theorem forall₂_stems_nodeForest {setting : Setting} (standards : setting.registry = .defaults)
    {levels : Nat} {expanding : Finset String} {name : String} {tree : Tree}
    (built : setting.nodeForest levels expanding name tree = .ok forest) :
    List.Forall₂ setting.answers.Stems (tree.members name) forest := by
  refine nodeForest_induction (fun _ name tree forest =>
    List.Forall₂ setting.answers.Stems (tree.members name) forest) ?_ ?_ built
  · intro levels name tree skipped
    rw [Tree.members_skipped skipped]
    exact .nil
  · intro levels expanding name tree declaration forest visits declared made
    exact forall₂_stems_made standards visits declared made

theorem forall₂_stems_forest {setting : Setting} (standards : setting.registry = .defaults)
    {tree : Tree} (built : setting.forest tree = .ok forest) :
    List.Forall₂ setting.answers.Stems (Tree.membersOf tree.nodes) forest :=
  forall₂_stems_inOrder (forall₂_stems_nodeForest standards) built

end Answers

/-- Whatever the loader answers and whatever was built before, the blueprints that a builder with
the standard constructors returns stem one by one from the entity and template nodes of the tree,
under the documents that the builder keeps when the build ends. -/
theorem Builder.forests_labelled {σ : Type} {builder : Builder σ}
    (standards : builder.registry = .defaults) {progress : Progress σ}
    (reached : builder.Reachable progress) :
    (∀ tree forest, builder.outcome progress tree = .ok forest →
      let answers := ((builder.buildTree tree).run.run progress).2.answers
      builder.loader.Gives answers ∧
        List.Forall₂ answers.Stems (Tree.membersOf tree.nodes) forest) ∧
    ∀ name forest, ((builder.buildScene name).run.run progress).1 = .ok forest →
      let answers := ((builder.buildScene name).run.run progress).2.answers
      ∃ document fields, (builder.loader.load name progress.loader).result = .ok document ∧
        document.get? "scene" = some (.map fields) ∧ builder.loader.Gives answers ∧
        List.Forall₂ answers.Stems (Tree.membersOf fields.entries) forest := by
  constructor
  · intro tree forest built
    obtain ⟨gives, meaning⟩ := meaning_of_kept reached.sound built
    exact ⟨gives, Answers.forall₂_stems_forest standards meaning⟩
  · intro name forest built
    obtain ⟨document, fields, loaded, listed, gives, meaning⟩ :=
      scene_meaning_of_kept reached.sound built
    exact ⟨document, fields, loaded, listed, gives,
      Answers.forall₂_stems_forest standards meaning⟩

namespace Sample

/-- A lamp, a document without a root, and one whose root is a template without a source. -/
def stationery : OrderedMap Tree := .ofList
  [("lamp", list [("root", entity [])]), ("notes", list []),
    ("alias", list [("root", list [("type", text "template")])])]

def stationer : Builder Unit := ⟨.defaults, .ofDocuments stationery, 64⟩

/-- Usages that come out empty in a group that gives them time scales. -/
def tray : Tree := list
  [("group", group [("time_scale", .null)]
    [("blank", list [("type", text "template")]), ("notes", template "notes" [("pen", entity [])]),
      ("alias", template "alias" [("pen", entity [])]), ("lamp", template "lamp" [])])]

end Sample

/-- The usage of a template whose root comes out empty has a label all the same. -/
theorem tray_labelled : ∃ forest,
    Sample.stationer.outcome (.start ()) Sample.tray = .ok forest ∧
      List.Forall₂
        ((Sample.stationer.buildTree Sample.tray).run.run (.start ())).2.answers.Stems
        (Tree.membersOf Sample.tray.nodes) forest ∧
      forest.map (fun blueprint => blueprint.stamp.components) =
        [[.timeScale .realTime], [.timeScale .realTime],
          [.name "alias", .timeScale .realTime], [.name "lamp", .timeScale .realTime]] := by
  have built : Sample.stationer.outcome (.start ()) Sample.tray = .ok _ := rfl
  obtain ⟨_, stems⟩ := (Builder.forests_labelled rfl (.start ())).1 Sample.tray _ built
  exact ⟨_, built, stems, rfl⟩

end SceneGraph
