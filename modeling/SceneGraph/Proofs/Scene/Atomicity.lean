import SceneGraph.Proofs.Scene.Construction
import SceneGraph.Proofs.World.History

/-!
A component that is declared for an entity is made whole or not at all. The registry, the data and
the world can refuse it, and they are asked in this order. A refusal leaves the world as it was;
otherwise one slot of one entity takes the value that was read.
-/
namespace SceneGraph

namespace World

/-- The world with the component in its slot on one entity, and nothing else changed. -/
structure Puts (world : World) (entity : Entity) (component : Component) (after : World) :
    Prop where
  next_eq : after.next = world.next
  contains_eq : ∀ other, after.contains other = world.contains other
  others : ∀ other, other ≠ entity → after.slots? other = world.slots? other
  own : ∀ id, (after.held entity).find? id =
    if id = component.id then some component else (world.held entity).find? id

theorem puts_of_assign {world after : World} {entity : Entity} {component : Component}
    (assigned : world.assign entity component = .ok after) :
    world.Puts entity component after where
  next_eq := congrArg (fun count => Entity.mk (count + 1)) (size_assign assigned)
  contains_eq other := by
    rw [Bool.eq_iff_iff, contains_iff, contains_iff, size_assign assigned]
  others other apart := by
    rw [slots?_assign assigned, if_neg apart]
  own id := by
    rw [held_assign assigned, if_pos rfl, Slots.find?_insert]

end World

/-- The fault is one of declared data and not of the world. -/
def ConstructError.isOfData : ConstructError → Bool
  | expectedMap _ | expectedSequence _ _ | expectedNumber _ _ => true
  | world _ => false

section Faults
variable {error : ConstructError}

theorem Tree.isOfData_numberIn {field : String} {tree : Tree}
    (failed : tree.numberIn field = .error error) : error.isOfData := by
  unfold numberIn at failed
  split at failed <;> cases failed
  rfl

theorem isOfData_vectorField {fields : OrderedMap Tree} {field : String} {default : Float32}
    (failed : vectorField fields field default = .error error) : error.isOfData := by
  unfold vectorField at failed
  split at failed
  · cases failed
  · cases failed
  · obtain ⟨item, _, faulty⟩ := mapM_error (map_error failed)
    exact Tree.isOfData_numberIn faulty
  · cases failed
    rfl

theorem Transform.isOfData_ofTree {data : Tree} (failed : ofTree data = .error error) :
    error.isOfData := by
  cases data with
  | null => cases failed
  | scalar value =>
    cases failed
    rfl
  | sequence items =>
    cases failed
    rfl
  | map fields =>
    rcases bind_error failed with position | ⟨_, _, failed⟩
    · exact isOfData_vectorField position
    · rcases bind_error failed with rotation | ⟨_, _, failed⟩
      · exact isOfData_vectorField rotation
      · rcases bind_error failed with scale | ⟨_, _, done⟩
        · exact isOfData_vectorField scale
        · cases done

theorem TimeScale.isOfData_ofTree {data : Tree} (failed : ofTree data = .error error) :
    error.isOfData := by
  cases data with
  | null => cases failed
  | scalar value => exact Tree.isOfData_numberIn (map_error failed)
  | sequence items =>
    cases failed
    rfl
  | map fields =>
    unfold ofTree at failed
    dsimp only at failed
    split at failed
    · cases failed
    · exact Tree.isOfData_numberIn (map_error failed)

/-- A reader looks at the data only, so no fault of it is one of the world. -/
theorem Standard.isOfData_read {standard : Standard} {data : Tree}
    (failed : standard.read data = .error error) : error.isOfData := by
  cases standard with
  | transform => exact Transform.isOfData_ofTree (map_error failed)
  | timeScale => exact TimeScale.isOfData_ofTree (map_error failed)

end Faults

namespace Standard

/-- The name is registered, and its constructor reads the data as the component. -/
def Accepts (name : String) (data : Tree) (component : Component) : Prop :=
  ∃ standard : Standard, name = standard.key ∧ standard.read data = .ok component

/-- The name is registered, and its constructor finds the fault in the data. -/
def Rejects (name : String) (data : Tree) (error : ConstructError) : Prop :=
  ∃ standard : Standard, name = standard.key ∧ standard.read data = .error error

theorem Rejects.isOfData {name : String} {data : Tree} {error : ConstructError}
    (rejects : Rejects name data error) : error.isOfData := by
  obtain ⟨standard, _, failed⟩ := rejects
  exact isOfData_read failed

end Standard

namespace Registry
open Standard

theorem contains_defaults (name : String) :
    defaults.contains name = (Standard.ofKey? name).isSome := by
  have known := congrArg Option.isSome (lookup?_defaults name)
  rw [Option.isSome_map] at known
  rw [← known, lookup?, contains, Std.TreeMap.contains_eq_isSome_getElem?]

variable {world : World} {entity : Entity} {name : String} {data : Tree} {component : Component}
  {error : ConstructError}

theorem construct_unregistered (unknown : defaults.contains name = false) :
    defaults.construct world entity name data = (world, .ok false) := by
  rw [contains_defaults, Option.isSome_eq_false_iff, Option.isNone_iff_eq_none] at unknown
  rw [construct_defaults, unknown]

theorem construct_rejected (rejects : Rejects name data error) :
    defaults.construct world entity name data = (world, .error error) := by
  obtain ⟨standard, keyed, read⟩ := rejects
  rw [construct_defaults, ofKey?_eq_some.mpr keyed]
  simp only [read]

theorem construct_missing (accepts : Accepts name data component)
    (absent : ¬ world.contains entity) :
    defaults.construct world entity name data =
      (world, .error (.world (.entityNotFound entity))) := by
  obtain ⟨standard, keyed, read⟩ := accepts
  have refused : world.assign entity component = .error (.entityNotFound entity) := if_neg absent
  rw [construct_defaults, ofKey?_eq_some.mpr keyed]
  simp only [read, refused]

theorem construct_made (accepts : Accepts name data component) (present : world.contains entity) :
    ∃ after, defaults.construct world entity name data = (after, .ok true) ∧
      world.Puts entity component after := by
  obtain ⟨standard, keyed, read⟩ := accepts
  have assigned : world.assign entity component = .ok _ := if_pos present
  refine ⟨_, ?_, World.puts_of_assign assigned⟩
  rw [construct_defaults, ofKey?_eq_some.mpr keyed]
  simp only [read, assigned]

theorem rejects_or_accepts (known : defaults.contains name) (data : Tree) :
    (∃ error, Rejects name data error) ∨ ∃ component, Accepts name data component := by
  rw [contains_defaults, Option.isSome_iff_exists] at known
  obtain ⟨standard, found⟩ := known
  have keyed := ofKey?_eq_some.mp found
  cases read : standard.read data with
  | error error => exact .inl ⟨error, standard, keyed, read⟩
  | ok component => exact .inr ⟨component, standard, keyed, read⟩

/-- All that can become of a component for an entity. -/
inductive Constructed (world : World) (entity : Entity) (name : String) (data : Tree) :
    World × Except ConstructError Bool → Prop
  | unregistered (unknown : defaults.contains name = false) :
      Constructed world entity name data (world, .ok false)
  | rejected {error : ConstructError} (rejects : Rejects name data error) :
      Constructed world entity name data (world, .error error)
  | missing {component : Component} (accepts : Accepts name data component)
      (absent : ¬ world.contains entity) :
      Constructed world entity name data (world, .error (.world (.entityNotFound entity)))
  | made {component : Component} {after : World} (accepts : Accepts name data component)
      (present : world.contains entity) (puts : world.Puts entity component after) :
      Constructed world entity name data (after, .ok true)

theorem constructed (world : World) (entity : Entity) (name : String) (data : Tree) :
    Constructed world entity name data (defaults.construct world entity name data) := by
  cases known : defaults.contains name with
  | false =>
    rw [construct_unregistered known]
    exact .unregistered known
  | true =>
    rcases rejects_or_accepts known data with ⟨error, rejects⟩ | ⟨component, accepts⟩
    · rw [construct_rejected rejects]
      exact .rejected rejects
    · by_cases present : world.contains entity
      · obtain ⟨after, made, puts⟩ := construct_made accepts present
        rw [made]
        exact .made accepts present puts
      · rw [construct_missing accepts present]
        exact .missing accepts present

/-- What decides a construction, and what each outcome says of the world it leaves. -/
structure Decided (world : World) (entity : Entity) (name : String) (data : Tree)
    (result : World × Except ConstructError Bool) : Prop where
  skipped : result = (world, .ok false) ↔ defaults.contains name = false
  rejected : ∀ error, result = (world, .error error) ∧ error.isOfData ↔ Rejects name data error
  missing : result = (world, .error (.world (.entityNotFound entity))) ↔
    (∃ component, Accepts name data component) ∧ ¬ world.contains entity
  made : result.2 = .ok true ↔
    (∃ component, Accepts name data component) ∧ world.contains entity
  puts : ∀ component, Accepts name data component → world.contains entity →
    world.Puts entity component result.1
  exhaustive : defaults.contains name → (∃ error, Rejects name data error) ∨
    ∃ component, Accepts name data component

/-- A construction has one of four outcomes. Each comes of its own condition and of no other, and
only the last of them changes the world, in one slot of one entity. -/
theorem construct_decided (world : World) (entity : Entity) (name : String) (data : Tree) :
    Decided world entity name data (defaults.construct world entity name data) where
  skipped := by
    constructor
    · intro skipped
      have constructed := constructed world entity name data
      rw [skipped] at constructed
      cases constructed with
      | unregistered unknown => exact unknown
    · exact construct_unregistered
  rejected error := by
    constructor
    · rintro ⟨failed, ofData⟩
      have constructed := constructed world entity name data
      rw [failed] at constructed
      cases constructed with
      | rejected rejects => exact rejects
      | missing accepts absent => cases ofData
    · intro rejects
      exact ⟨construct_rejected rejects, rejects.isOfData⟩
  missing := by
    constructor
    · intro failed
      have constructed := constructed world entity name data
      rw [failed] at constructed
      cases constructed with
      | rejected rejects => cases rejects.isOfData
      | missing accepts absent => exact ⟨⟨_, accepts⟩, absent⟩
    · rintro ⟨⟨component, accepts⟩, absent⟩
      exact construct_missing accepts absent
  made := by
    constructor
    · have constructed := constructed world entity name data
      generalize defaults.construct world entity name data = result at constructed
      intro succeeded
      cases constructed with
      | unregistered unknown => cases succeeded
      | rejected rejects => cases succeeded
      | missing accepts absent => cases succeeded
      | made accepts present puts => exact ⟨⟨_, accepts⟩, present⟩
    · rintro ⟨⟨component, accepts⟩, present⟩
      obtain ⟨after, made, _⟩ := construct_made accepts present
      rw [made]
  puts component accepts present := by
    obtain ⟨after, made, puts⟩ := construct_made accepts present
    rw [made]
    exact puts
  exhaustive known := rejects_or_accepts known data

end Registry
end SceneGraph
