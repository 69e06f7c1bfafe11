import SceneGraph.Proofs.Scene.Standard

/-!
Group defaults. The blueprints of a node list stem one by one, in order, from the entity and
template nodes in it, those inside its groups included. Of the groups around a node the outermost
one that declares a component has its way, before what the node itself gives; a blueprint's children
are those that the node gives, whatever the groups declare.
-/
namespace SceneGraph
open Setting

/-- An entity or template node of a node list, with the defaults of the groups around it in that
list, the outermost first. -/
structure Member where
  name : String
  groups : List (List (String × Tree))
  declaration : Declaration

namespace Member

def inside (defaults : List (String × Tree)) (member : Member) : Member :=
  { member with groups := defaults :: member.groups }

end Member

namespace Tree

/-- The entity and template nodes that a node stands for in its node list. -/
def members (name : String) (tree : Tree) : List Member :=
  match _declared : tree.declaration? with
  | none => []
  | some (.group defaults children) =>
      (children.attach.flatMap fun child => child.1.2.members child.1.1).map (.inside defaults)
  | some (.entity components children) => [⟨name, [], .entity components children⟩]
  | some (.template source children) => [⟨name, [], .template source children⟩]
termination_by sizeOf tree
decreasing_by exact sizeOf_child _declared child.2

def membersOf (nodes : List (String × Tree)) : List Member :=
  nodes.flatMap fun node => node.2.members node.1

variable {name : String} {tree : Tree}

theorem members_skipped (skipped : tree.declaration? = none) : tree.members name = [] := by
  unfold members
  split <;> simp_all

theorem members_group {defaults children : List (String × Tree)}
    (declared : tree.declaration? = some (.group defaults children)) :
    tree.members name = (membersOf children).map (.inside defaults) := by
  have visited : (children.attach.flatMap fun child => child.1.2.members child.1.1) =
      membersOf children := by
    rw [membersOf, List.flatMap_def, List.flatMap_def,
      List.attach_map_val (f := fun child : String × Tree => child.2.members child.1)]
  rw [members]
  split <;> rename_i found <;> cases found.symm.trans declared
  exact congrArg (List.map (Member.inside defaults)) visited

theorem members_entity {components children : List (String × Tree)}
    (declared : tree.declaration? = some (.entity components children)) :
    tree.members name = [⟨name, [], .entity components children⟩] := by
  unfold members
  split <;> rename_i found <;> cases found.symm.trans declared
  rfl

theorem members_template {source : Option String} {children : List (String × Tree)}
    (declared : tree.declaration? = some (.template source children)) :
    tree.members name = [⟨name, [], .template source children⟩] := by
  unfold members
  split <;> rename_i found <;> cases found.symm.trans declared
  rfl

theorem declaration?_of_kind {kind : NodeKind}
    (known : tree.typeName?.bind NodeKind.ofName? = some kind) :
    ∃ fields, tree.declaration? = some (.ofFields fields kind) := by
  cases tree with
  | map fields => exact ⟨fields, congrArg (Option.map (Declaration.ofFields fields)) known⟩
  | null => cases known
  | scalar value => cases known
  | sequence items => cases known

/-- The root of a template document is an entity or a template, in no group. -/
theorem members_templateRoot {document : Tree} {root : String × Tree}
    (rooted : templateRoot? document = some root) :
    ∃ declaration, root.2.declaration? = some declaration ∧
      root.2.members root.1 = [⟨root.1, [], declaration⟩] := by
  obtain ⟨fields, _, found⟩ := Option.bind_eq_some_iff.mp rooted
  have chosen := List.find?_some found
  unfold isTemplateRoot at chosen
  split at chosen
  · obtain ⟨own, declared⟩ := declaration?_of_kind ‹_›
    exact ⟨_, declared, members_entity declared⟩
  · obtain ⟨own, declared⟩ := declaration?_of_kind ‹_›
    exact ⟨_, declared, members_template declared⟩
  · cases chosen
  · cases chosen

end Tree

/-- The component that the outermost of the groups that declare one declares. -/
def Standard.outermost? (standard : Standard) (groups : List (List (String × Tree))) :
    Option Component :=
  groups.findSome? standard.declared?

namespace Answers

mutual

/-- The blueprint that a node gives by itself, whatever the groups around it declare. -/
inductive Forms (answers : Answers) : (name : String) → Declaration → Blueprint → Prop
  | entity {name : String} {components children : List (String × Tree)} {blueprint : Blueprint}
      (named : blueprint.stamp.name? = some name)
      (values : ∀ standard : Standard,
        blueprint.stamp.get? standard.type = standard.declared? components)
      (below : FormsAll answers (Tree.membersOf children) blueprint.children) :
      Forms answers name (.entity components children) blueprint
  | expanded {name source : String} {children : List (String × Tree)} {document : Tree}
      {root : String × Tree} {declaration : Declaration} {expansion blueprint : Blueprint}
      {added : List Blueprint} (answered : answers source = .ok document)
      (rooted : templateRoot? document = some root)
      (declared : root.2.declaration? = some declaration)
      (formed : Forms answers root.1 declaration expansion)
      (named : blueprint.stamp.name? = some name)
      (values : ∀ standard : Standard,
        blueprint.stamp.get? standard.type = expansion.stamp.get? standard.type)
      (below : FormsAll answers (Tree.membersOf children) added)
      (extended : blueprint.children = expansion.children ++ added) :
      Forms answers name (.template (some source) children) blueprint
  | rootless {name source : String} (children : List (String × Tree)) {document : Tree}
      (answered : answers source = .ok document) (rootless : templateRoot? document = none) :
      Forms answers name (.template (some source) children) .empty
  | sourceless {name : String} (children : List (String × Tree)) :
      Forms answers name (.template none children) .empty

/-- The blueprints of a node list, one for each of its members: the groups around a member replace
values of what the member gives by itself and leave its name and its children alone. -/
inductive FormsAll (answers : Answers) : List Member → List Blueprint → Prop
  | nil : FormsAll answers [] []
  | cons {member : Member} {members : List Member} {own blueprint : Blueprint}
      {forest : List Blueprint} (formed : Forms answers member.name member.declaration own)
      (named : blueprint.stamp.name? = own.stamp.name?)
      (values : ∀ standard : Standard, blueprint.stamp.get? standard.type =
        (standard.outermost? member.groups).or (own.stamp.get? standard.type))
      (unchanged : blueprint.children = own.children) (rest : FormsAll answers members forest) :
      FormsAll answers (member :: members) (blueprint :: forest)

end

namespace FormsAll

variable {answers : Answers} {members others : List Member} {forest rest : List Blueprint}

theorem append (first : FormsAll answers members forest) (second : FormsAll answers others rest) :
    FormsAll answers (members ++ others) (forest ++ rest) := by
  induction members generalizing forest with
  | nil =>
    cases first
    exact second
  | cons member members ih =>
    cases first with
    | cons formed named values unchanged later =>
      exact .cons formed named values unchanged (ih later)

/-- A group's defaults go before those of the groups inside it. -/
theorem group {setting : Setting} (standards : setting.registry = .defaults) (name : String)
    (defaults : List (String × Tree)) (inner : FormsAll answers members forest) :
    FormsAll answers (members.map (.inside defaults))
      (forest.map fun blueprint =>
        { blueprint with stamp := setting.recorded name defaults blueprint.stamp }) := by
  induction members generalizing forest with
  | nil =>
    cases inner
    exact .nil
  | cons member members ih =>
    cases inner with
    | cons formed named values unchanged later =>
      refine .cons formed ?_ (fun standard => ?_) unchanged (ih later)
      · rw [name?_recorded standards, named]
      · rw [get?_recorded standards, values, ← Option.or_assoc]
        congr 1
        simp only [Standard.outermost?, Member.inside, List.findSome?_cons]
        cases standard.declared? defaults <;> rfl

theorem single {name : String} {declaration : Declaration} {blueprint : Blueprint}
    (formed : Forms answers name declaration blueprint) :
    FormsAll answers [⟨name, [], declaration⟩] [blueprint] :=
  .cons formed rfl (fun _ => rfl) rfl .nil

theorem of_single {name : String} {declaration : Declaration}
    (formed : FormsAll answers [⟨name, [], declaration⟩] forest) :
    ∃ own blueprint, forest = [blueprint] ∧ Forms answers name declaration own ∧
      (∀ standard : Standard,
        blueprint.stamp.get? standard.type = own.stamp.get? standard.type) ∧
      blueprint.children = own.children := by
  cases formed with
  | cons formed named values unchanged rest =>
    cases rest
    exact ⟨_, _, rfl, formed, values, unchanged⟩

theorem inOrder {visit : String → Tree → Except BuildError (List Blueprint)}
    (visits : ∀ {name tree own}, visit name tree = .ok own →
      FormsAll answers (tree.members name) own)
    {nodes : List (String × Tree)} (built : inOrder visit nodes = .ok forest) :
    FormsAll answers (Tree.membersOf nodes) forest := by
  obtain ⟨forests, each, rfl⟩ := inOrder_forests built
  clear built
  induction each with
  | nil => exact .nil
  | cons first _ ih => exact (visits first).append ih

end FormsAll

/-- One level of nodes, over what the nodes below give. -/
theorem formsAll_made {setting : Setting} (standards : setting.registry = .defaults)
    {visit : Finset String → String → Tree → Except BuildError (List Blueprint)}
    (visits : ∀ {expanding name tree own}, visit expanding name tree = .ok own →
      FormsAll setting.answers (tree.members name) own)
    {expanding : Finset String} {name : String} {tree : Tree} {declaration : Declaration}
    {forest : List Blueprint} (declared : tree.declaration? = some declaration)
    (made : Made setting visit expanding name declaration forest) :
    FormsAll setting.answers (tree.members name) forest := by
  cases made with
  | entity below =>
    rw [Tree.members_entity declared]
    refine .single (.entity ?_ (fun standard => ?_) (.inOrder visits below))
    · rw [name?_recorded standards, Stamp.name?_set_name]
    · rw [get?_recorded standards, Stamp.get?_set_name, Stamp.get?_empty, Option.or_none]
  | group below =>
    rw [Tree.members_group declared]
    exact (FormsAll.inOrder visits below).group standards name _
  | sourceless children =>
    rw [Tree.members_template declared]
    exact .single (.sourceless children)
  | rootless children fresh answered rootless =>
    rw [Tree.members_template declared]
    exact .single (.rootless children answered rootless)
  | expanded fresh answered rooted built below =>
    obtain ⟨rootDeclaration, rootDeclared, alone⟩ := Tree.members_templateRoot rooted
    have root := visits built
    rw [alone] at root
    obtain ⟨own, blueprint, rfl, formed, values, unchanged⟩ := root.of_single
    rw [Tree.members_template declared]
    refine .single (.expanded answered rooted rootDeclared formed (Stamp.name?_set_name ..)
      (fun standard => ?_) (.inOrder visits below) ?_)
    · rw [Stamp.get?_set_name]
      exact values standard
    · exact congrArg (· ++ _) unchanged

theorem formsAll_nodeForest {setting : Setting} (standards : setting.registry = .defaults)
    {levels : Nat} {expanding : Finset String} {name : String} {tree : Tree}
    {forest : List Blueprint}
    (built : setting.nodeForest levels expanding name tree = .ok forest) :
    FormsAll setting.answers (tree.members name) forest := by
  refine nodeForest_induction (fun _ name tree forest =>
    FormsAll setting.answers (tree.members name) forest) ?_ ?_ built
  · intro levels name tree skipped
    rw [Tree.members_skipped skipped]
    exact .nil
  · intro levels expanding name tree declaration forest visits declared made
    exact formsAll_made standards visits declared made

theorem formsAll_forest {setting : Setting} (standards : setting.registry = .defaults)
    {tree : Tree} {forest : List Blueprint} (built : setting.forest tree = .ok forest) :
    FormsAll setting.answers (Tree.membersOf tree.nodes) forest :=
  .inOrder (formsAll_nodeForest standards) built

end Answers

/-- In what a build returns, the value of a component is that of the outermost group around the
node whose defaults have a well-typed entry for it, else that of the node itself, in every node list
at any depth, whatever the loader answers and whatever was built before. A template gives what its
root gives in the document that the builder keeps for it when the build ends. -/
theorem Builder.outermost_default_wins {σ : Type} {builder : Builder σ}
    (standards : builder.registry = .defaults) {progress : Progress σ}
    (reached : builder.Reachable progress) :
    (∀ tree forest, builder.outcome progress tree = .ok forest →
      let answers := ((builder.buildTree tree).run.run progress).2.answers
      builder.loader.Gives answers ∧ answers.FormsAll (Tree.membersOf tree.nodes) forest) ∧
    ∀ name forest, ((builder.buildScene name).run.run progress).1 = .ok forest →
      let answers := ((builder.buildScene name).run.run progress).2.answers
      ∃ document fields, (builder.loader.load name progress.loader).result = .ok document ∧
        document.get? "scene" = some (.map fields) ∧ builder.loader.Gives answers ∧
        answers.FormsAll (Tree.membersOf fields.entries) forest := by
  constructor
  · intro tree forest built
    obtain ⟨gives, meaning⟩ := meaning_of_kept reached.sound built
    exact ⟨gives, Answers.formsAll_forest standards meaning⟩
  · intro name forest built
    obtain ⟨document, fields, loaded, listed, gives, meaning⟩ :=
      scene_meaning_of_kept reached.sound built
    exact ⟨document, fields, loaded, listed, gives, Answers.formsAll_forest standards meaning⟩

namespace Sample

def group (defaults : List (String × Tree)) (children : List (String × Tree)) : Tree :=
  list [("type", text "group"), ("defaults", list defaults), ("children", list children)]

/-- A lamp and a bulb in two groups, the outer one with data that is no time scale. -/
def grouped : Tree := list
  [("outer", group [("time_scale", .sequence [])]
    [("inner", group [("time_scale", .null), ("transform", text "flat")]
      [("lamp", template "lamp" []), ("bulb", entity [])])])]

end Sample

/-- What is no time scale gives way to the inner group's real time, and neither group's data makes a
transform. -/
theorem grouped_real_time : ∃ forest,
    Sample.builder.outcome (.start ()) Sample.grouped = .ok forest ∧
      ((Sample.builder.buildTree Sample.grouped).run.run (.start ())).2.answers.FormsAll
        (Tree.membersOf Sample.grouped.nodes) forest ∧
      forest.map (fun blueprint => blueprint.stamp.components) =
        [[.name "lamp", .timeScale .realTime], [.name "bulb", .timeScale .realTime]] := by
  have built : Sample.builder.outcome (.start ()) Sample.grouped = .ok _ := rfl
  obtain ⟨_, formed⟩ := (Builder.outermost_default_wins rfl (.start ())).1 Sample.grouped _ built
  exact ⟨_, built, formed, rfl⟩

end SceneGraph
