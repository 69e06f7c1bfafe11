import SceneGraph.Proofs.Scene.Construction
import SceneGraph.Proofs.Scene.Echo
import SceneGraph.Proofs.Tree.Formed

/-!
Trees without what builders skip: nodes that are of no kind, component data that are unknown or
refused, and fields that are not read. A builder makes the same of a tree, and of all documents that
it includes, as of what is left of them.
-/
namespace SceneGraph

/-- What a field of a node is read as. -/
inductive FieldUse where
  | text
  | components
  | nodes
deriving DecidableEq, Repr

/-- The fields that are read of a node of the kind. -/
def NodeKind.use? : NodeKind → String → Option FieldUse
  | _, "type" => some .text
  | _, "children" => some .nodes
  | .entity, "components" => some .components
  | .group, "defaults" => some .components
  | .template, "source" => some .text
  | _, _ => none

theorem NodeKind.use?_type (kind : NodeKind) : kind.use? "type" = some .text := by
  cases kind <;> rfl

/-- Whether a component is known by the name, and made of the data. -/
def Registry.accepts (registry : Registry) (entry : String × Tree) : Bool :=
  match (registry.stampWith .empty entry.1 entry.2).2 with
  | .ok known => known
  | .error _ => false

/-- The components of a map that are known and made. -/
def Registry.accepted (registry : Registry) (declared : List (String × Tree)) :
    List (String × Tree) :=
  declared.filter registry.accepts

/-- What is left of the one component map is the other one. -/
def Registry.Leaves (registry : Registry) (declared others : List (String × Tree)) : Prop :=
  registry.accepted declared = others

namespace Tree

variable (registry : Registry)

mutual

/-- What is left of a node list, which a document is as well. -/
def pruned : Tree → Tree
  | map ⟨entries, _⟩ => map (.ofList (prunedNodes entries))
  | tree => tree

def prunedNodes : List (String × Tree) → List (String × Tree)
  | [] => []
  | (name, node) :: rest =>
      match prunedNode node with
      | some kept => (name, kept) :: prunedNodes rest
      | none => prunedNodes rest

def prunedNode : Tree → Option Tree
  | map ⟨entries, index⟩ =>
      match kind? (map ⟨entries, index⟩) with
      | some kind => some (map (.ofList (prunedFields kind entries)))
      | none => none
  | _ => none

def prunedFields (kind : NodeKind) : List (String × Tree) → List (String × Tree)
  | [] => []
  | (key, value) :: rest =>
      match prunedField (kind.use? key) value with
      | some kept => (key, kept) :: prunedFields kind rest
      | none => prunedFields kind rest

def prunedField : Option FieldUse → Tree → Option Tree
  | some .text, value => some value
  | some .components, map ⟨entries, _⟩ => some (map (.ofList (registry.accepted entries)))
  | some .nodes, map ⟨entries, _⟩ => some (map (.ofList (prunedNodes entries)))
  | _, _ => none

end

section Images
variable {registry}

theorem prunedNodes_eq (entries : List (String × Tree)) :
    prunedNodes registry entries =
      OrderedMap.chosen (fun _ node => prunedNode registry node) entries := by
  induction entries with
  | nil => rfl
  | cons entry rest ih =>
    obtain ⟨name, node⟩ := entry
    rw [prunedNodes, OrderedMap.chosen, List.filterMap_cons, ih]
    cases prunedNode registry node <;> rfl

theorem prunedFields_eq (kind : NodeKind) (entries : List (String × Tree)) :
    prunedFields registry kind entries =
      OrderedMap.chosen (fun key value => prunedField registry (kind.use? key) value) entries := by
  induction entries with
  | nil => rfl
  | cons entry rest ih =>
    obtain ⟨key, value⟩ := entry
    rw [prunedFields, OrderedMap.chosen, List.filterMap_cons, ih]
    cases prunedField registry (kind.use? key) value <;> rfl

theorem nodes_pruned {tree : Tree} (formed : tree.Formed) :
    (tree.pruned registry).nodes = prunedNodes registry tree.nodes := by
  cases formed with
  | @map fields formed below =>
    obtain ⟨entries, index⟩ := fields
    have kept := formed.entries_chosen fun _ node => prunedNode registry node
    rw [← prunedNodes_eq] at kept
    exact kept
  | null => rfl
  | scalar value => rfl
  | sequence below => rfl

theorem nodes_accepted {entries : List (String × Tree)} {index : Std.TreeMap String Nat}
    (formed : (OrderedMap.mk entries index).WellFormed) :
    (OrderedMap.ofList (registry.accepted entries)).entries = registry.accepted entries :=
  OrderedMap.entries_ofList (formed.keys_nodup.sublist (List.filter_sublist.map Prod.fst))

end Images

end Tree

namespace Declaration

def pruned (registry : Registry) : Declaration → Declaration
  | entity components children =>
      entity (registry.accepted components) (Tree.prunedNodes registry children)
  | group defaults children =>
      group (registry.accepted defaults) (Tree.prunedNodes registry children)
  | template source children => template source (Tree.prunedNodes registry children)

theorem children_pruned (registry : Registry) (declaration : Declaration) :
    (declaration.pruned registry).children = Tree.prunedNodes registry declaration.children := by
  cases declaration <;> rfl

theorem alike_pruned (registry : Registry) (declaration : Declaration) :
    declaration.Alike registry.Leaves (declaration.pruned registry) := by
  cases declaration with
  | entity components children => exact .entity rfl
  | group defaults children => exact .group rfl
  | template source children => exact .template rfl

end Declaration

section Fields
variable {registry : Registry} {fields : OrderedMap Tree} (formed : (Tree.map fields).Formed)
  (kind : NodeKind)
include formed

theorem get?_prunedFields (key : String) :
    (OrderedMap.ofList (Tree.prunedFields registry kind fields.entries)).get? key =
      (fields.get? key).bind (Tree.prunedField registry (kind.use? key)) := by
  cases formed with
  | map formed below =>
    rw [Tree.prunedFields_eq]
    exact formed.get?_chosen _ key

theorem get?_prunedFields_text {key : String} (use : kind.use? key = some .text) :
    (OrderedMap.ofList (Tree.prunedFields registry kind fields.entries)).get? key =
      fields.get? key := by
  rw [get?_prunedFields formed, use]
  cases fields.get? key with
  | none => rfl
  | some value => cases value <;> rfl

theorem mapField_prunedFields_components {key : String} (use : kind.use? key = some .components) :
    mapField (.ofList (Tree.prunedFields registry kind fields.entries)) key =
      registry.accepted (mapField fields key) := by
  rw [Tree.mapField_eq, Tree.mapField_eq, get?_prunedFields formed, use]
  cases found : fields.get? key with
  | none => rfl
  | some value =>
    cases formed.get? found with
    | map formed below => exact Tree.nodes_accepted formed
    | null => rfl
    | scalar value => rfl
    | sequence below => rfl

theorem mapField_prunedFields_nodes {key : String} (use : kind.use? key = some .nodes) :
    mapField (.ofList (Tree.prunedFields registry kind fields.entries)) key =
      Tree.prunedNodes registry (mapField fields key) := by
  rw [Tree.mapField_eq, Tree.mapField_eq, get?_prunedFields formed, use]
  cases found : fields.get? key with
  | none => rfl
  | some value =>
    have listed : (value.pruned registry).nodes = _ := Tree.nodes_pruned (formed.get? found)
    cases value with
    | map inner => exact listed
    | null => rfl
    | scalar value => rfl
    | sequence items => rfl

theorem ofFields_prunedFields :
    Declaration.ofFields (.ofList (Tree.prunedFields registry kind fields.entries)) kind =
      (Declaration.ofFields fields kind).pruned registry := by
  cases kind with
  | entity =>
    exact congrArg₂ Declaration.entity (mapField_prunedFields_components formed .entity rfl)
      (mapField_prunedFields_nodes formed .entity rfl)
  | group =>
    exact congrArg₂ Declaration.group (mapField_prunedFields_components formed .group rfl)
      (mapField_prunedFields_nodes formed .group rfl)
  | template =>
    have source : (OrderedMap.ofList (Tree.prunedFields registry .template fields.entries)).get?
        "source" = fields.get? "source" := get?_prunedFields_text formed .template rfl
    refine congrArg₂ Declaration.template ?_ (mapField_prunedFields_nodes formed .template rfl)
    rw [scalarField, source, scalarField]

end Fields

namespace Tree

variable {registry : Registry}

theorem prunedNode_eq_none {node : Tree} (dropped : prunedNode registry node = none) :
    node.declaration? = none := by
  cases node with
  | map fields =>
    obtain ⟨entries, index⟩ := fields
    unfold prunedNode at dropped
    cases found : kind? (map ⟨entries, index⟩) with
    | none => rw [declaration?_map, found, Option.map_none]
    | some kind =>
      rw [found] at dropped
      cases dropped
  | null => rfl
  | scalar value => rfl
  | sequence items => rfl

theorem prunedNode_eq_some {node kept : Tree} (formed : node.Formed)
    (left : prunedNode registry node = some kept) :
    ∃ declaration, node.declaration? = some declaration ∧
      kept.declaration? = some (declaration.pruned registry) := by
  cases node with
  | map fields =>
    obtain ⟨entries, index⟩ := fields
    unfold prunedNode at left
    cases found : kind? (map ⟨entries, index⟩) with
    | none =>
      rw [found] at left
      cases left
    | some kind =>
      rw [found] at left
      cases left
      have same : (OrderedMap.ofList (prunedFields registry kind entries)).get? "type" = _ :=
        get?_prunedFields_text formed kind kind.use?_type
      have keeps : (map (.ofList (prunedFields registry kind entries))).kind? = some kind := by
        rw [← found]
        exact congrArg (fun value? => (value?.bind string?).bind NodeKind.ofName?) same
      refine ⟨.ofFields ⟨entries, index⟩ kind, ?_, ?_⟩
      · rw [declaration?_map, found, Option.map_some]
      · rw [declaration?_map, keeps, Option.map_some]
        exact congrArg some (ofFields_prunedFields formed kind)
  | null => cases left
  | scalar value => cases left
  | sequence items => cases left

theorem echoesAll_prunedNodes {entries : List (String × Tree)}
    (below : ∀ entry ∈ entries, ∀ kept, prunedNode registry entry.2 = some kept →
      entry.2.Echoes registry.Leaves kept) :
    EchoesAll registry.Leaves entries (prunedNodes registry entries) := by
  induction entries with
  | nil => exact .nil
  | cons entry rest ih =>
    obtain ⟨name, node⟩ := entry
    have later := ih fun entry member => below entry (.tail _ member)
    unfold prunedNodes
    cases left : prunedNode registry node with
    | none => exact .leftOut name (prunedNode_eq_none left) later
    | some kept => exact .cons name (below _ (.head _) kept left) later

/-- What is left of a tree echoes it, as a node list and as a node. -/
theorem Formed.echoes_pruned {tree : Tree} (formed : tree.Formed) :
    EchoesAll registry.Leaves tree.nodes (prunedNodes registry tree.nodes) ∧
      ∀ kept, prunedNode registry tree = some kept → tree.Echoes registry.Leaves kept := by
  induction formed with
  | null => exact ⟨.nil, fun kept left => by cases left⟩
  | scalar value => exact ⟨.nil, fun kept left => by cases left⟩
  | sequence below ih => exact ⟨.nil, fun kept left => by cases left⟩
  | @map fields formed below ih =>
    refine ⟨echoesAll_prunedNodes fun entry member => (ih entry member).2, fun kept left => ?_⟩
    obtain ⟨declaration, declared, keptDeclared⟩ := prunedNode_eq_some (.map formed below) left
    obtain ⟨others, kind, shape, known, rfl⟩ := declaration?_eq_some declared
    cases shape
    refine .declared declared keptDeclared (Declaration.alike_pruned registry _) ?_
    rw [Declaration.children_pruned, Declaration.children_ofFields, mapField_eq]
    cases found : fields.get? "children" with
    | none => exact .nil
    | some list => exact (ih _ (formed.get?_eq_some_iff.mp found)).1

theorem Formed.listEchoes_pruned {tree : Tree} (formed : tree.Formed) :
    tree.ListEchoes registry.Leaves (tree.pruned registry) := by
  unfold ListEchoes
  rw [nodes_pruned formed]
  exact formed.echoes_pruned.1

end Tree

def Loader.pruned {σ : Type} (registry : Registry) (loader : Loader σ) : Loader σ where
  load name state :=
    let reading := loader.load name state
    { reading with result := reading.result.map (Tree.pruned registry) }

theorem Loader.Formed.beside_pruned {σ : Type} {registry : Registry} {loader : Loader σ}
    (formed : loader.Formed) :
    loader.Beside (Tree.ListEchoes registry.Leaves) (loader.pruned registry) := by
  intro name state
  refine ⟨rfl, ?_⟩
  unfold Loader.pruned
  dsimp only
  cases loaded : (loader.load name state).result with
  | error error => exact .error error
  | ok document => exact .ok (formed name state document loaded).listEchoes_pruned

theorem Registry.accepts_defaults (entry : String × Tree) :
    defaults.accepts entry =
      ((Standard.ofKey? entry.1).bind fun standard => (standard.read entry.2).toOption).isSome := by
  unfold accepts
  rw [stampWith_defaults]
  cases Standard.ofKey? entry.1 with
  | none => rfl
  | some standard =>
    dsimp only
    rw [Option.bind_some]
    cases standard.read entry.2 <;> rfl

/-- A component that is not accepted leaves a stamp as it was. -/
theorem Registry.record_refused {entry : String × Tree} (refused : defaults.accepts entry = false)
    (node : String) (stamp : Stamp) :
    (defaults.record node stamp entry.1 entry.2).1 = stamp := by
  rw [accepts_defaults, Option.isSome_eq_false_iff, Option.isNone_iff_eq_none] at refused
  rw [record_defaults, refused]

theorem Setting.recorded_accepted {setting : Setting} (standards : setting.registry = .defaults)
    (node : String) (declared : List (String × Tree)) (stamp : Stamp) :
    setting.recorded node (setting.registry.accepted declared) stamp =
      setting.recorded node declared stamp := by
  unfold recorded Registry.accepted
  rw [standards]
  induction declared generalizing stamp with
  | nil => rfl
  | cons entry rest ih =>
    rw [List.filter_cons]
    cases accepted : Registry.defaults.accepts entry with
    | true => exact ih _
    | false =>
      rw [List.foldl_cons, Registry.record_refused accepted]
      exact ih stamp

theorem Setting.accord_leaves {setting : Setting} (standards : setting.registry = .defaults) :
    setting.Accord Eq setting.registry.Leaves where
  empty := rfl
  named name stamp other same := by rw [same]
  recorded node declared others stamp other left same := by
    rw [← same, ← left, recorded_accepted standards]

namespace Sample

/-- A document with a lamp among nodes of no kind, whose components are partly refused and whose
children are none. -/
def attic : OrderedMap Tree := .ofList (Tree.ofMembers
  [("lamp", .object
    [("dust", .null), ("switch", .object [("type", .string "button")]),
      ("root", .object
        [("comment", .string "old"), ("type", .string "entity"),
          ("components", .object
            [("glow", .null), ("time_scale", .string "fast"), ("transform", .null)]),
          ("children", .object [("rust", .bool true)])])])])

/-- A lamp from the attic, in a group whose defaults are not a map. -/
def littered : Tree := .ofJson (.object
  [("paper", .string "blank"),
    ("desk", .object
      [("type", .string "group"), ("defaults", .array []), ("colour", .string "brown"),
        ("children", .object
          [("first", .object
            [("type", .string "template"), ("source", .string "lamp"), ("children", .null)])])])])

end Sample

namespace Builder

variable {σ : Type} {loader : Loader σ} {trees : List Tree}

/-- What builders skip does not show in what they make. With the standard constructors, a new
builder makes the same forests of trees, or finds the same faults in them, as one that is given what
is left of the trees and of the documents; this also holds where nodes nest too deep. -/
theorem outcomes_pruned (documents : loader.Formed) (formed : ∀ tree ∈ trees, tree.Formed)
    (maxDepth : Nat) (state : σ) :
    (Builder.mk .defaults (loader.pruned .defaults) maxDepth).outcomes (.start state)
        (trees.map (Tree.pruned .defaults)) =
      (Builder.mk .defaults loader maxDepth).outcomes (.start state) trees := by
  have accord : ((Builder.mk .defaults loader maxDepth).setting (.ofDocuments .empty)).Accord Eq
      Registry.defaults.Leaves := Setting.accord_leaves rfl
  have echoes : List.Forall₂ (Tree.ListEchoes Registry.defaults.Leaves) trees
      (trees.map (Tree.pruned .defaults)) := by
    rw [List.forall₂_map_right_iff, List.forall₂_same]
    exact fun tree member => (formed tree member).listEchoes_pruned
  have alike := outcomes_alike documents.beside_pruned accord (Progress.beside_start _ state) echoes
  refine (List.forall₂_eq_eq_eq ▸ alike.imp fun outcome other same => ?_ : _ = _).symm
  exact (same.imp fun _ _ => Blueprint.alikeAll_eq).eq

end Builder

theorem littered_outcomes :
    (Loader.ofDocuments Sample.attic).Formed ∧ (∀ tree ∈ [Sample.littered], tree.Formed) ∧
      (Builder.mk .defaults ((Loader.ofDocuments Sample.attic).pruned .defaults) 3).outcomes
          (.start ()) ([Sample.littered].map (Tree.pruned .defaults)) =
        (Builder.mk .defaults (.ofDocuments Sample.attic) 3).outcomes (.start ())
          [Sample.littered] := by
  have documents : (Loader.ofDocuments Sample.attic).Formed :=
    Loader.formed_ofDocuments (Tree.formed_ofJson (.object _))
  have formed : ∀ tree ∈ [Sample.littered], tree.Formed := by
    intro tree member
    rw [List.mem_singleton.mp member]
    exact Tree.formed_ofJson _
  exact ⟨documents, formed, Builder.outcomes_pruned documents formed 3 ()⟩

example : Sample.littered.pruned .defaults = .ofJson (.object
    [("desk", .object
      [("type", .string "group"),
        ("children", .object
          [("first", .object [("type", .string "template"), ("source", .string "lamp")])])])]) :=
  rfl

example : (Builder.mk .defaults (.ofDocuments Sample.attic) 3).outcomes (.start ())
    [Sample.littered] = [.ok [⟨⟨[.name "first", .transform .identity]⟩, []⟩]] := rfl

end SceneGraph
