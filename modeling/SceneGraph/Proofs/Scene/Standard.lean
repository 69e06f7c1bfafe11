import SceneGraph.Proofs.Scene.Derivation
import SceneGraph.Proofs.Scene.Success
import SceneGraph.Proofs.World.Slots

/-!
Builds with the standard constructors. Their registry knows two names, each with its own type of
component, and well-typed data under one of them replaces the component of that type and no other.
So the stamps that such builds make hold names, transforms and time scales only.
-/
namespace SceneGraph

inductive Standard where
  | transform
  | timeScale
deriving DecidableEq, Repr

namespace Standard

def key : Standard → String
  | transform => "transform"
  | timeScale => "time_scale"

def type : Standard → ComponentType
  | transform => .transform
  | timeScale => .timeScale

def read : Standard → Tree → Except ConstructError Component
  | transform, data => (Transform.ofTree data).map .transform
  | timeScale, data => (TimeScale.ofTree data).map .timeScale

def constructor (standard : Standard) : Constructor := .ofReader standard.read

def ofKey? (name : String) : Option Standard :=
  [transform, timeScale].find? fun standard => standard.key = name

theorem ofKey?_eq_some {name : String} {standard : Standard} :
    ofKey? name = some standard ↔ name = standard.key := by
  constructor
  · intro found
    have known := List.find?_some found
    exact (of_decide_eq_true known).symm
  · rintro rfl
    cases standard <;> rfl

theorem type_read {standard : Standard} {data : Tree} {component : Component}
    (accepted : standard.read data = .ok component) : component.type = standard.type := by
  cases standard <;> obtain ⟨value, _, rfl⟩ := map_ok accepted <;> rfl

theorem type_toOption {standard : Standard} {data : Tree} {component : Component}
    (made : (standard.read data).toOption = some component) : component.type = standard.type := by
  cases result : standard.read data with
  | error error =>
    rw [result] at made
    cases made
  | ok value =>
    rw [result] at made
    cases made
    exact type_read result

theorem type_made {name : String} {data : Tree} {component : Component}
    (made : ((ofKey? name).bind fun standard => (standard.read data).toOption) = some component) :
    ∃ standard : Standard, component.type = standard.type := by
  obtain ⟨standard, _, accepted⟩ := Option.bind_eq_some_iff.mp made
  exact ⟨standard, type_toOption accepted⟩

theorem type_id_inj {first second : Standard} (same : first.type.id = second.type.id) :
    first = second := by
  cases first <;> cases second <;> first | rfl | exact absurd same (by decide)

/-- The component that an entry of a component map declares. -/
def entry? (standard : Standard) (entry : String × Tree) : Option Component :=
  if entry.1 = standard.key then (standard.read entry.2).toOption else none

theorem type_entry? {standard : Standard} {entry : String × Tree} {component : Component}
    (made : standard.entry? entry = some component) : component.type = standard.type := by
  unfold entry? at made
  split at made
  · exact type_toOption made
  · cases made

/-- The component that a component map declares. A name occurs once in a map; in a list that
repeats it, the last well-typed entry counts. -/
def declared? (standard : Standard) (entries : List (String × Tree)) : Option Component :=
  entries.reverse.findSome? standard.entry?

theorem declared?_append (standard : Standard) (entries : List (String × Tree))
    (last : String × Tree) :
    standard.declared? (entries ++ [last]) =
      (standard.entry? last).or (standard.declared? entries) := by
  simp only [declared?, List.reverse_append, List.reverse_singleton, List.singleton_append,
    List.findSome?_cons]
  cases standard.entry? last <;> rfl

theorem type_declared? {standard : Standard} {entries : List (String × Tree)}
    {component : Component} (made : standard.declared? entries = some component) :
    component.type = standard.type := by
  obtain ⟨entry, _, declared⟩ := List.exists_of_findSome?_eq_some made
  exact type_entry? declared

end Standard

theorem Registry.lookup?_defaults (name : String) :
    defaults.lookup? name = (Standard.ofKey? name).map Standard.constructor := by
  unfold defaults lookup? Standard.ofKey?
  simp only [Std.TreeMap.getElem?_insert, Std.compare_eq_iff_eq]
  by_cases timeScale : "time_scale" = name
  · subst timeScale
    rfl
  · by_cases transform : "transform" = name
    · subst transform
      rfl
    · simp [timeScale, transform, Standard.key]

theorem Registry.record_defaults (node : String) (stamp : Stamp) (name : String) (data : Tree) :
    (defaults.record node stamp name data).1 =
      match (Standard.ofKey? name).bind fun standard => (standard.read data).toOption with
      | some component => stamp.set component
      | none => stamp := by
  unfold record
  rw [lookup?_defaults]
  cases Standard.ofKey? name with
  | none => rfl
  | some standard =>
    simp only [Option.map_some, Option.bind_some, Standard.constructor, Constructor.ofReader]
    cases standard.read data <;> rfl

namespace Stamp

theorem get?_set (stamp : Stamp) (component : Component) (type : ComponentType) :
    (stamp.set component).get? type =
      if type.id = component.id then (some component).filter fun held => held.type = type
      else stamp.get? type := by
  unfold get?
  rw [find?_set]
  split <;> rfl

theorem find?_set_read {other : Standard} {data : Tree} {component : Component}
    (accepted : other.read data = .ok component) (stamp : Stamp) (standard : Standard) :
    (stamp.set component).find? standard.type.id =
      if other = standard then some component else stamp.find? standard.type.id := by
  have id : component.id = other.type.id := congrArg ComponentType.id (Standard.type_read accepted)
  rw [find?_set, id]
  by_cases same : other = standard
  · rw [if_pos same, if_pos (by rw [same])]
  · rw [if_neg same, if_neg fun equal => same (Standard.type_id_inj equal).symm]

theorem find?_record (standard : Standard) (node : String) (stamp : Stamp)
    (entry : String × Tree) :
    (Registry.defaults.record node stamp entry.1 entry.2).1.find? standard.type.id =
      (standard.entry? entry).or (stamp.find? standard.type.id) := by
  rw [Registry.record_defaults, Standard.entry?]
  by_cases same : entry.1 = standard.key
  · rw [if_pos same, Standard.ofKey?_eq_some.mpr same, Option.bind_some]
    cases accepted : standard.read entry.2 with
    | error error => rfl
    | ok component => exact (find?_set_read accepted stamp standard).trans (if_pos rfl)
  · rw [if_neg same, Option.none_or]
    cases known : Standard.ofKey? entry.1 with
    | none => rfl
    | some found =>
      have apart : found ≠ standard := fun equal =>
        same (equal ▸ Standard.ofKey?_eq_some.mp known)
      rw [Option.bind_some]
      cases accepted : found.read entry.2 with
      | error error => rfl
      | ok component => exact (find?_set_read accepted stamp standard).trans (if_neg apart)

/-- Slots that are not of a standard component are not written. -/
theorem find?_record_other {id : TypeId} (other : ∀ standard : Standard, id ≠ standard.type.id)
    (node : String) (stamp : Stamp) (entry : String × Tree) :
    (Registry.defaults.record node stamp entry.1 entry.2).1.find? id = stamp.find? id := by
  rw [Registry.record_defaults]
  split
  · rename_i component made
    obtain ⟨standard, type⟩ := Standard.type_made made
    have own : component.id = standard.type.id := congrArg ComponentType.id type
    rw [find?_set, own, if_neg (other standard)]
  · rfl

theorem get?_empty (type : ComponentType) : empty.get? type = none := rfl

theorem get?_set_name (stamp : Stamp) (name : String) (standard : Standard) :
    (stamp.set (.name name)).get? standard.type = stamp.get? standard.type := by
  have own : (Component.name name).id = ComponentType.name.id := rfl
  rw [get?_set, own, if_neg]
  cases standard <;> decide

theorem name?_set_name (stamp : Stamp) (name : String) :
    (stamp.set (.name name)).name? = some name := by
  have own : (Component.name name).id = ComponentType.name.id := rfl
  unfold name?
  rw [get?_set, own, if_pos rfl]
  rfl

theorem name?_record (node : String) (stamp : Stamp) (name : String) (data : Tree) :
    (Registry.defaults.record node stamp name data).1.name? = stamp.name? := by
  rw [Registry.record_defaults]
  split
  · rename_i component made
    obtain ⟨standard, type⟩ := Standard.type_made made
    have id : component.id = standard.type.id := congrArg ComponentType.id type
    unfold name?
    rw [get?_set, id, if_neg]
    cases standard <;> decide
  · rfl

/-- Nothing but a name and what the standard constructors make. -/
def Plain (stamp : Stamp) : Prop :=
  ∀ component ∈ stamp.components,
    component.type = .name ∨ ∃ standard : Standard, component.type = standard.type

theorem Plain.set {stamp : Stamp} (plain : stamp.Plain) {component : Component}
    (type : component.type = .name ∨ ∃ standard : Standard, component.type = standard.type) :
    (stamp.set component).Plain := by
  intro other member
  rcases mem_record member with rfl | inside
  · exact type
  · exact plain other inside

theorem keeps_plain : Registry.defaults.Keeps Plain where
  empty := by
    intro component member
    cases member
  named stamp name plain := plain.set (.inl rfl)
  recorded node stamp name data plain := by
    rw [Registry.record_defaults]
    split
    · rename_i component made
      exact plain.set (.inr (Standard.type_made made))
    · exact plain

/-- A slot that is neither for names nor for what the standard constructors make is empty. -/
theorem Plain.last?_eq_none {stamp : Stamp} (plain : stamp.Plain) {id : TypeId}
    (name : id ≠ ComponentType.name.id) (others : ∀ standard : Standard, id ≠ standard.type.id) :
    stamp.last? id = none := by
  refine List.find?_eq_none.mpr fun component member held => ?_
  have same : component.type.id = id := of_decide_eq_true held
  rcases plain component (List.mem_reverse.mp member) with type | ⟨standard, type⟩
  · exact name (same.symm.trans (congrArg ComponentType.id type))
  · exact others standard (same.symm.trans (congrArg ComponentType.id type))

end Stamp

namespace Setting

variable {setting : Setting} (standards : setting.registry = .defaults)
include standards

theorem find?_recorded (standard : Standard) (node : String) (declared : List (String × Tree))
    (stamp : Stamp) :
    (setting.recorded node declared stamp).find? standard.type.id =
      (standard.declared? declared).or (stamp.find? standard.type.id) := by
  unfold recorded
  rw [standards]
  induction declared using List.reverseRecOn with
  | nil => rfl
  | append_singleton earlier entry ih =>
    rw [List.foldl_append, List.foldl_cons, List.foldl_nil, Stamp.find?_record, ih,
      Standard.declared?_append, Option.or_assoc]

theorem find?_recorded_other {id : TypeId} (other : ∀ standard : Standard, id ≠ standard.type.id)
    (node : String) (declared : List (String × Tree)) (stamp : Stamp) :
    (setting.recorded node declared stamp).find? id = stamp.find? id := by
  unfold recorded
  rw [standards]
  induction declared generalizing stamp with
  | nil => rfl
  | cons entry rest ih =>
    rw [List.foldl_cons, ih, Stamp.find?_record_other other]

theorem get?_recorded (standard : Standard) (node : String) (declared : List (String × Tree))
    (stamp : Stamp) :
    (setting.recorded node declared stamp).get? standard.type =
      (standard.declared? declared).or (stamp.get? standard.type) := by
  unfold Stamp.get?
  rw [find?_recorded standards]
  cases made : standard.declared? declared with
  | none => rfl
  | some component => simp [Standard.type_declared? made]

theorem name?_recorded (node : String) (declared : List (String × Tree)) (stamp : Stamp) :
    (setting.recorded node declared stamp).name? = stamp.name? := by
  unfold recorded
  rw [standards]
  induction declared using List.reverseRecOn with
  | nil => rfl
  | append_singleton earlier entry ih =>
    rw [List.foldl_append, List.foldl_cons, List.foldl_nil, Stamp.name?_record, ih]

theorem plain_forest {tree : Tree} {forest : List Blueprint}
    (built : setting.forest tree = .ok forest) :
    ∀ blueprint ∈ forest, blueprint.Every Stamp.Plain := by
  apply every_forest _ built
  rw [standards]
  exact Stamp.keeps_plain

end Setting

namespace Blueprint

/-- What a call of a builder with the standard constructors returned, whatever it loads from and
has built before. -/
inductive ForestBuilt : List Blueprint → Prop
  | tree {σ : Type} {builder : Builder σ} {progress : Progress σ} {tree : Tree}
      {forest : List Blueprint} (standards : builder.registry = .defaults)
      (reached : builder.Reachable progress) (built : builder.outcome progress tree = .ok forest) :
      ForestBuilt forest
  | scene {σ : Type} {builder : Builder σ} {progress : Progress σ} {name : String}
      {forest : List Blueprint} (standards : builder.registry = .defaults)
      (reached : builder.Reachable progress)
      (built : ((builder.buildScene name).run.run progress).1 = .ok forest) :
      ForestBuilt forest

def Built (blueprint : Blueprint) : Prop := ∃ forest, ForestBuilt forest ∧ blueprint ∈ forest

theorem ForestBuilt.plain {forest : List Blueprint} (built : ForestBuilt forest) :
    ∀ blueprint ∈ forest, blueprint.Every Stamp.Plain := by
  cases built with
  | tree standards reached built =>
    obtain ⟨_, meaning⟩ := Builder.meaning_of_kept reached.sound built
    exact Setting.plain_forest standards meaning
  | scene standards reached built =>
    obtain ⟨_, _, _, _, _, meaning⟩ := Builder.scene_meaning_of_kept reached.sound built
    exact Setting.plain_forest standards meaning

theorem Built.plain {blueprint : Blueprint} (built : blueprint.Built) :
    blueprint.Every Stamp.Plain := by
  obtain ⟨forest, built, member⟩ := built
  exact built.plain blueprint member

end Blueprint

namespace Sample

/-- What the lamps become. -/
def lampForest : List Blueprint :=
  [⟨⟨[.name "first"]⟩, [⟨⟨[.name "bulb"]⟩, []⟩,
    ⟨⟨[.name "second"]⟩, [⟨⟨[.name "bulb"]⟩, []⟩]⟩]⟩]

theorem lampForest_built : Blueprint.ForestBuilt lampForest :=
  have built : builder.outcome (.start ()) lamps = .ok lampForest := rfl
  .tree rfl (.start ()) built

end Sample
end SceneGraph
