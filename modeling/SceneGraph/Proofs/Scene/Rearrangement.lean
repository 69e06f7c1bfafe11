import SceneGraph.Proofs.Scene.Echo
import SceneGraph.Proofs.Scene.Reading
import SceneGraph.Proofs.Tree.Rearranged

/-!
The order of declarations that does not matter. The fields of a node, the components of a map and
the keys of component data are looked up by name, so rearranging them changes neither the faults of
a build nor the entities that its blueprints become, only the order in which stamps were recorded.
-/
namespace SceneGraph

theorem bind_eq_of_rel {α β : Type} {related : α → α → Prop} {first second : Option α}
    (held : Option.Rel related first second) {next : α → Option β}
    (same : ∀ value other, related value other → next value = next other) :
    first.bind next = second.bind next := by
  cases held with
  | none => rfl
  | some value => exact same _ _ value

theorem Tree.SameData.readAlike : Tree.ReadAlike Tree.SameData where
  shape same := by cases same <;> constructor
  number same := by cases same <;> rfl
  items same := by
    cases same with
    | sequence items => exact items
  fields same key := by
    cases same with
    | map formed otherFormed keys values =>
      exact formed.rel_get? otherFormed keys key (values key)

namespace Standard

variable {data other : Tree}

/-- In a map, what a name declares is what stands under it. -/
theorem declared?_entries {fields : OrderedMap Tree} (formed : fields.WellFormed)
    (standard : Standard) :
    standard.declared? fields.entries =
      (fields.get? standard.key).bind fun data => (standard.read data).toOption := by
  have only : ∀ entry ∈ fields.entries, ∀ component, standard.entry? entry = some component →
      ((fields.get? standard.key).bind fun data => (standard.read data).toOption) =
        some component := by
    intro entry member component made
    unfold entry? at made
    split at made
    · rename_i named
      rw [← named, formed.get?_eq_some_iff.mpr member]
      exact made
    · cases made
  cases declared : standard.declared? fields.entries with
  | some component =>
    obtain ⟨entry, member, made⟩ := List.exists_of_findSome?_eq_some declared
    exact (only entry (List.mem_reverse.mp member) component made).symm
  | none =>
    cases found : fields.get? standard.key with
    | none => rfl
    | some data =>
      have member := formed.get?_eq_some_iff.mp found
      have passed := List.findSome?_eq_none_iff.mp declared _ (List.mem_reverse.mpr member)
      rw [Standard.entry?, if_pos rfl] at passed
      exact passed.symm

def Agree (declared others : List (String × Tree)) : Prop :=
  ∀ standard : Standard, standard.declared? declared = standard.declared? others

theorem agree_of_sameData (same : data.SameData other) : Agree data.nodes other.nodes := by
  intro standard
  cases same with
  | null => rfl
  | scalar value => rfl
  | sequence items => rfl
  | @map fields others formed otherFormed keys values =>
    have held := formed.rel_get? otherFormed keys standard.key (values standard.key)
    change standard.declared? fields.entries = standard.declared? others.entries
    rw [declared?_entries formed, declared?_entries otherFormed]
    exact bind_eq_of_rel held fun _ _ same => congrArg Except.toOption
      (Tree.SameData.readAlike.read_eq same standard)

end Standard

namespace Stamp

theorem keeps_distinct : Registry.defaults.Keeps Distinct where
  empty := List.nodup_nil
  named stamp name distinct := distinct.set _
  recorded node stamp name data distinct := by
    rw [Registry.record_defaults]
    split
    · exact distinct.set _
    · exact distinct

end Stamp

namespace Setting

variable {setting : Setting} (standards : setting.registry = .defaults)
include standards

theorem accord_same : setting.Accord Stamp.Same Standard.Agree where
  empty := ⟨List.nodup_nil, .refl _⟩
  named name _ _ same := same.set (.name name)
  recorded node declared others stamp other agree same := by
    have keeps : setting.registry.Keeps Stamp.Distinct := standards ▸ Stamp.keeps_distinct
    refine .of_find? (recorded_keeps keeps node declared same.distinct)
      (recorded_keeps keeps node others same.otherDistinct) fun id => ?_
    by_cases written : ∃ standard : Standard, id = standard.type.id
    · obtain ⟨standard, rfl⟩ := written
      rw [find?_recorded standards, find?_recorded standards, agree standard, same.find?_eq]
    · have unwritten : ∀ standard : Standard, id ≠ standard.type.id :=
        fun standard equal => written ⟨standard, equal⟩
      rw [find?_recorded_other standards unwritten, find?_recorded_other standards unwritten,
        same.find?_eq]

end Setting

namespace Tree

theorem SameData.string?_eq {data other : Tree} (same : data.SameData other) :
    data.string? = other.string? := by
  cases same <;> rfl

theorem SameData.scalar?_eq {data other : Tree} (same : data.SameData other) :
    data.scalar? = other.scalar? := by
  cases same <;> rfl

section Nodes
variable {fields others : OrderedMap Tree}
  (values : ∀ key, key ≠ "children" →
    Option.Rel SameData (fields.get? key) (others.get? key))
include values

theorem kind?_rearranged : (map fields).kind? = (map others).kind? :=
  congrArg (fun name? => name?.bind NodeKind.ofName?)
    (bind_eq_of_rel (values "type" (by decide)) fun _ _ same => same.string?_eq)

theorem scalarField_rearranged {key : String} (apart : key ≠ "children") :
    scalarField fields key = scalarField others key :=
  congrArg (Option.map Scalar.display)
    (bind_eq_of_rel (values key apart) fun _ _ same => same.scalar?_eq)

theorem agree_rearranged {key : String} (apart : key ≠ "children") :
    Standard.Agree (mapField fields key) (mapField others key) := by
  have held := values key apart
  rw [mapField_eq, mapField_eq]
  generalize fields.get? key = value?, others.get? key = other? at held
  cases held with
  | none => exact fun _ => rfl
  | some value => exact Standard.agree_of_sameData value

theorem declaration_rearranged (kind : NodeKind) :
    (Declaration.ofFields fields kind).Alike Standard.Agree (.ofFields others kind) := by
  cases kind with
  | entity => exact .entity (agree_rearranged values (by decide))
  | group => exact .group (agree_rearranged values (by decide))
  | template => exact .template (scalarField_rearranged values (by decide))

theorem echoes_rearranged
    (children : Option.Rel (ListEchoes Standard.Agree) (fields.get? "children")
      (others.get? "children")) :
    (map fields).Echoes Standard.Agree (map others) := by
  have below : EchoesAll Standard.Agree (mapField fields "children")
      (mapField others "children") := by
    rw [mapField_eq, mapField_eq]
    generalize fields.get? "children" = list?, others.get? "children" = other? at children
    cases children with
    | none => exact .nil
    | some list => exact list
  have known := kind?_rearranged values
  cases same : (map others).kind? with
  | none =>
    rw [same] at known
    refine .skipped ?_ ?_
    · rw [declaration?_map, known, Option.map_none]
    · rw [declaration?_map, same, Option.map_none]
  | some kind =>
    rw [same] at known
    have declared : (map fields).declaration? = some (.ofFields fields kind) := by
      rw [declaration?_map, known, Option.map_some]
    have otherDeclared : (map others).declaration? = some (.ofFields others kind) := by
      rw [declaration?_map, same, Option.map_some]
    refine .declared declared otherDeclared (declaration_rearranged values kind) ?_
    rw [Declaration.children_ofFields, Declaration.children_ofFields]
    exact below

end Nodes

mutual

theorem SameNodes.echoes : ∀ {tree other : Tree}, tree.SameNodes other →
    tree.ListEchoes Standard.Agree other
  | _, _, .empty listless => by
      rw [ListEchoes, nodes, listless]
      exact .nil
  | _, _, .map same => same.echoes

theorem SameEntries.echoes : ∀ {entries others : List (String × Tree)},
    SameEntries entries others → EchoesAll Standard.Agree entries others
  | _, _, .nil => .nil
  | _, _, .cons name first below => .cons name first.echoes below.echoes

theorem SameNode.echoes : ∀ {node other : Tree}, node.SameNode other →
    node.Echoes Standard.Agree other
  | node, _, .shapeless fieldless => by
      have skipped : node.declaration? = none := by rw [declaration?, fieldless, Option.bind_none]
      exact .skipped skipped skipped
  | _, _, .map formed otherFormed keys values children =>
      echoes_rearranged
        (fun key apart => formed.rel_get? otherFormed keys key fun value other found otherFound =>
          values key value other apart found otherFound)
        (formed.rel_get? otherFormed keys "children" fun list other found otherFound =>
          (children list other found otherFound).echoes)

end

end Tree

namespace Sample

def fittings : Tree := list
  [("transform", list [("scale", .null), ("position", .null)]), ("time_scale", .null)]

def fittingsRearranged : Tree := list
  [("time_scale", .null), ("transform", list [("position", .null), ("scale", .null)])]

def lamp : Tree := list [("root", list [("type", text "entity"), ("components", fittings)])]

/-- The lamp with its fields, components and data in another order. -/
def lampRearranged : Tree := list
  [("root", list [("components", fittingsRearranged), ("type", text "entity")])]

theorem fittings_sameData : fittings.SameData fittingsRearranged := by
  have axes : (list [("scale", .null), ("position", .null)]).SameData
      (list [("position", .null), ("scale", .null)]) :=
    Tree.sameData_ofList (by decide) (.swap _ _ _)
      (.cons ⟨rfl, .null⟩ (.cons ⟨rfl, .null⟩ .nil))
  exact Tree.sameData_ofList (by decide) (.swap _ _ _)
    (.cons ⟨rfl, .null⟩ (.cons ⟨rfl, axes⟩ .nil))

theorem lamp_sameNodes : lamp.SameNodes lampRearranged := by
  have root : (list [("type", text "entity"), ("components", fittings)]).SameNode
      (list [("components", fittingsRearranged), ("type", text "entity")]) :=
    Tree.sameNode_ofList (by decide) (.swap _ _ _)
      (.cons ⟨rfl, fittings_sameData⟩ (.cons ⟨rfl, .scalar _⟩ .nil))
  exact .map (.cons "root" root .nil)

def user : Tree := .ofJson (.object
  [("first", .object [("type", .string "template"), ("source", .string "lamp")])])

end Sample

namespace Builder

variable {σ : Type} {loader otherLoader : Loader σ} {trees others : List Tree}

/-- Only the order of node names matters. With the standard constructors, trees and documents whose
nodes have their fields, components and data in another order have the same faults, or become
forests of the same stamps that make the same entities. -/
theorem outcomes_rearranged (documents : loader.Beside Tree.SameNodes otherLoader)
    (rearranged : List.Forall₂ Tree.SameNodes trees others) (maxDepth : Nat) (state : σ) :
    List.Forall₂ (Alike Blueprint.SameForest)
      ((Builder.mk .defaults loader maxDepth).outcomes (.start state) trees)
      ((Builder.mk .defaults otherLoader maxDepth).outcomes (.start state) others) := by
  have accord : ((Builder.mk .defaults loader maxDepth).setting (.ofDocuments .empty)).Accord
      Stamp.Same Standard.Agree := Setting.accord_same rfl
  have echoing : loader.Beside (Tree.ListEchoes Standard.Agree) otherLoader := fun name state =>
    ⟨(documents name state).1, (documents name state).2.imp fun _ _ same => same.echoes⟩
  have echoes := rearranged.imp fun _ _ same => same.echoes
  have alike := outcomes_alike echoing accord (Progress.beside_start _ state) echoes
  refine alike.imp fun outcome other same => same.imp fun forest others alike => ?_
  exact ⟨alike, World.instantiateAll_alike alike⟩

end Builder

theorem lamp_outcomes_rearranged :
    let library := OrderedMap.ofList [("lamp", Sample.lamp)]
    let other := OrderedMap.ofList [("lamp", Sample.lampRearranged)]
    (Loader.ofDocuments library).Beside Tree.SameNodes (.ofDocuments other) ∧
      List.Forall₂ Tree.SameNodes [Sample.lamp, Sample.user] [Sample.lampRearranged, Sample.user] ∧
      List.Forall₂ (Alike Blueprint.SameForest)
        ((Builder.mk .defaults (.ofDocuments library) 3).outcomes (.start ())
          [Sample.lamp, Sample.user])
        ((Builder.mk .defaults (.ofDocuments other) 3).outcomes (.start ())
          [Sample.lampRearranged, Sample.user]) := by
  intro library other
  have arranged : library.keys.Perm other.keys ∧ ∀ name document held,
      library.get? name = some document → other.get? name = some held →
        document.SameNodes held :=
    OrderedMap.arranged_ofList (fun _ => Tree.SameNodes) (by decide) (.refl _)
      (.cons ⟨rfl, Sample.lamp_sameNodes⟩ .nil)
  have documents : (Loader.ofDocuments library).Beside Tree.SameNodes (.ofDocuments other) :=
    Loader.beside_ofDocuments fun name =>
      (OrderedMap.wellFormed_ofList _).rel_get? (OrderedMap.wellFormed_ofList _) arranged.1 name
        (arranged.2 name)
  have rearranged : List.Forall₂ Tree.SameNodes [Sample.lamp, Sample.user]
      [Sample.lampRearranged, Sample.user] :=
    .cons Sample.lamp_sameNodes (.cons (Tree.formed_ofJson _).sameNodes.1 .nil)
  exact ⟨documents, rearranged, Builder.outcomes_rearranged documents rearranged 3 ()⟩

end SceneGraph
