import SceneGraph.Scene.Builder

/-!
What a node declares, apart from the reports about it. A tree that declares nothing is skipped.
The node height of a tree counts declarations only, so skipped trees and component data, however
deep, do not add to it.
-/
namespace SceneGraph

inductive Declaration where
  | entity (components children : List (String × Tree))
  | group (defaults children : List (String × Tree))
  | template (source : Option String) (children : List (String × Tree))

namespace Declaration

def ofFields (fields : OrderedMap Tree) : NodeKind → Declaration
  | .entity => entity (mapField fields "components") (mapField fields "children")
  | .group => group (mapField fields "defaults") (mapField fields "children")
  | .template => template (scalarField fields "source") (mapField fields "children")

def children : Declaration → List (String × Tree)
  | entity _ children => children
  | group _ children => children
  | template _ children => children

theorem children_ofFields (fields : OrderedMap Tree) (kind : NodeKind) :
    (ofFields fields kind).children = mapField fields "children" := by
  cases kind <;> rfl

end Declaration

namespace Tree

def kind? (tree : Tree) : Option NodeKind := tree.typeName?.bind NodeKind.ofName?

def declaration? (tree : Tree) : Option Declaration :=
  tree.fields?.bind fun fields =>
    (tree.typeName?.bind NodeKind.ofName?).map (Declaration.ofFields fields)

theorem declaration?_map (fields : OrderedMap Tree) :
    (map fields).declaration? = (map fields).kind?.map (Declaration.ofFields fields) := rfl

/-- The nodes of a tree that is a node list. -/
def nodes (tree : Tree) : List (String × Tree) := (tree.fields?.map OrderedMap.entries).getD []

theorem mapField_eq (fields : OrderedMap Tree) (key : String) :
    mapField fields key = ((fields.get? key).map nodes).getD [] := by
  unfold mapField
  cases fields.get? key <;> rfl

theorem sizeOf_nodes {tree : Tree} {entry : String × Tree} (member : entry ∈ tree.nodes) :
    sizeOf entry.2 < sizeOf tree := by
  cases tree with
  | map fields =>
    obtain ⟨entries, index⟩ := fields
    obtain ⟨name, node⟩ := entry
    have listed : (name, node) ∈ entries := member
    have bound := List.sizeOf_lt_of_mem listed
    simp only [Prod.mk.sizeOf_spec, OrderedMap.mk.sizeOf_spec, map.sizeOf_spec] at bound ⊢
    omega
  | null => simp [nodes, fields?] at member
  | scalar value => simp [nodes, fields?] at member
  | sequence items => simp [nodes, fields?] at member

theorem get?_mem {fields : OrderedMap Tree} {key : String} {value : Tree}
    (found : fields.get? key = some value) : ∃ entry ∈ fields.entries, entry.2 = value := by
  obtain ⟨position, _, read⟩ := Option.bind_eq_some_iff.mp found
  obtain ⟨entry, located, same⟩ := Option.map_eq_some_iff.mp read
  exact ⟨entry, List.mem_of_getElem? located, same⟩

theorem sizeOf_mapField {fields : OrderedMap Tree} {key : String} {entry : String × Tree}
    (member : entry ∈ mapField fields key) : sizeOf entry.2 < sizeOf (map fields) := by
  rw [mapField_eq] at member
  cases found : fields.get? key with
  | none => simp [found] at member
  | some list =>
    simp only [found, Option.map_some, Option.getD_some] at member
    obtain ⟨field, inside, rfl⟩ := get?_mem found
    have outer : sizeOf field.2 < sizeOf (map fields) := sizeOf_nodes inside
    exact Nat.lt_trans (sizeOf_nodes member) outer

theorem declaration?_eq_some {tree : Tree} {declaration : Declaration}
    (declared : tree.declaration? = some declaration) :
    ∃ fields kind, tree = map fields ∧ tree.typeName?.bind NodeKind.ofName? = some kind ∧
      declaration = .ofFields fields kind := by
  obtain ⟨fields, shape, read⟩ := Option.bind_eq_some_iff.mp declared
  obtain ⟨kind, known, rfl⟩ := Option.map_eq_some_iff.mp read
  cases tree <;> simp only [fields?, Option.some.injEq, reduceCtorEq] at shape
  subst shape
  exact ⟨_, kind, rfl, known, rfl⟩

theorem sizeOf_child {tree : Tree} {declaration : Declaration} {child : String × Tree}
    (declared : tree.declaration? = some declaration) (member : child ∈ declaration.children) :
    sizeOf child.2 < sizeOf tree := by
  obtain ⟨fields, kind, rfl, _, rfl⟩ := declaration?_eq_some declared
  cases kind <;> exact sizeOf_mapField member

/-- How deep declarations nest in a tree that is a node. -/
def nodeHeight (tree : Tree) : Nat :=
  match _declared : tree.declaration? with
  | none => 0
  | some declaration =>
      1 + (declaration.children.attach.map fun child => child.1.2.nodeHeight).foldr max 0
termination_by sizeOf tree
decreasing_by exact sizeOf_child _declared child.2

def heightOf (nodes : List (String × Tree)) : Nat :=
  (nodes.map fun node => node.2.nodeHeight).foldr max 0

def height (tree : Tree) : Nat := heightOf tree.nodes

theorem nodeHeight_eq {tree : Tree} {declaration : Declaration}
    (declared : tree.declaration? = some declaration) :
    tree.nodeHeight = 1 + heightOf declaration.children := by
  rw [nodeHeight]
  split
  · simp_all
  · rename_i found
    obtain rfl := Option.some.inj (found.symm.trans declared)
    rw [heightOf, List.attach_map_val (f := fun child : String × Tree => child.2.nodeHeight)]

theorem nodeHeight_le {nodes : List (String × Tree)} {node : String × Tree}
    (member : node ∈ nodes) : node.2.nodeHeight ≤ heightOf nodes := by
  induction nodes with
  | nil => simp at member
  | cons first rest ih =>
    have split : heightOf (first :: rest) = max first.2.nodeHeight (heightOf rest) := rfl
    rcases List.mem_cons.mp member with rfl | inside
    · omega
    · have bound := ih inside
      omega

end Tree

theorem recognise_ok {name : String} {tree : Tree} {kind : NodeKind} {fields : OrderedMap Tree}
    (recognised : recognise name tree = .ok (kind, fields)) :
    tree.declaration? = some (.ofFields fields kind) := by
  unfold recognise at recognised
  split at recognised
  · contradiction
  · rename_i found shape
    split at recognised
    · contradiction
    · rename_i kindName typed
      split at recognised
      · rename_i known
        cases recognised
        simp [Tree.declaration?, Tree.typeName?, Tree.get?, shape, typed, known]
      · contradiction

theorem recognise_error {name : String} {tree : Tree} {event : Event}
    (skipped : recognise name tree = .error event) : tree.declaration? = none := by
  unfold recognise at skipped
  split at skipped
  · rename_i shape
    simp [Tree.declaration?, shape]
  · rename_i shape
    split at skipped
    · rename_i untyped
      simp [Tree.declaration?, Tree.typeName?, Tree.get?, shape, untyped]
    · rename_i typed
      split at skipped
      · contradiction
      · rename_i unknown
        simp [Tree.declaration?, Tree.typeName?, Tree.get?, shape, typed, unknown]

theorem isTemplateRoot_eq (node : Tree) :
    isTemplateRoot node =
      match node.declaration? with
      | some (.entity _ _) | some (.template _ _) => true
      | some (.group _ _) | none => false := by
  unfold isTemplateRoot Tree.declaration? Tree.typeName? Tree.get?
  cases node.fields? with
  | none => rfl
  | some fields =>
    simp only [Option.bind_some]
    cases ((fields.get? "type").bind Tree.string?).bind NodeKind.ofName? with
    | none => rfl
    | some kind => cases kind <;> rfl

theorem templateRoot?_eq (document : Tree) :
    templateRoot? document = document.nodes.find? fun entry => isTemplateRoot entry.2 := by
  cases document <;> rfl

theorem isTemplateRoot_of_templateRoot? {document : Tree} {root : String × Tree}
    (rooted : templateRoot? document = some root) : isTemplateRoot root.2 := by
  rw [templateRoot?_eq] at rooted
  exact List.find?_some (p := fun entry : String × Tree => isTemplateRoot entry.2) rooted

end SceneGraph
